import RouteScript.Files.Disk
import RouteScript.Log

/-!
# The log file

A run can write its records to a file besides the console. They are added at the end of the file as
they are made, each with the time: date, time of day and milliseconds. The calendar counts from the
first of March of the year 0, so that the day a leap year has more is the last one of its year.
-/

namespace RouteScript

def Record.isWanted (verbose : Bool) (r : Record) : Bool := verbose || r.level.isShown

structure LogFile where
  names : List Text
  verbose : Bool
  time : Text
  deriving DecidableEq, Repr

namespace LogFile

def padded (width n : Nat) : Text :=
  let digits := Text.ofNat n
  List.replicate (width - digits.length) (.char '0') ++ digits

/-- The days from the first of March of the year 0 to the first day of 1970. -/
def daysToEpoch : Nat := 719468

/-- Year, month and day of a day counted from the first of January 1970. -/
def civilDate (day : Nat) : Nat × Nat × Nat :=
  let n := day + daysToEpoch
  let era := n / 146097
  let dayOfEra := n % 146097
  let yearOfEra := (dayOfEra - dayOfEra / 1460 + dayOfEra / 36524 - dayOfEra / 146096) / 365
  let dayOfYear := dayOfEra - (365 * yearOfEra + yearOfEra / 4 - yearOfEra / 100)
  let shifted := (5 * dayOfYear + 2) / 153
  let month := if shifted < 10 then shifted + 3 else shifted - 9
  let year := yearOfEra + era * 400 + (if month ≤ 2 then 1 else 0)
  (year, month, dayOfYear - (153 * shifted + 2) / 5 + 1)

def stamp (milliseconds : Nat) : Text :=
  let seconds := milliseconds / 1000
  let (year, month, day) := civilDate (seconds / 86400)
  padded 4 year ++ "-" ++ padded 2 month ++ "-" ++ padded 2 day ++ " " ++
    padded 2 (seconds / 3600 % 24) ++ ":" ++ padded 2 (seconds / 60 % 60) ++ ":" ++
    padded 2 (seconds % 60) ++ "," ++ padded 3 (milliseconds % 1000)

/-- The line of a record in bytes. A line that has no encoding is left out. -/
def bytes (l : LogFile) (r : Record) : Bytes := ((r.fileLine l.time).toUtf8.toOption).getD []

def append (log : Option LogFile) (d : Disk) (r : Record) : Disk :=
  match log with
  | none => d
  | some l =>
    match d.get? l.names with
    | some (.file content) =>
      if r.isWanted l.verbose then d.set l.names (.file (content ++ l.bytes r)) else d
    | _ => d

/-- Makes the directories above a log file and the file itself, unless they are there: the disk after,
and the absolute path of the file. -/
def prepare (d : Disk) (cwd : List Text) (p : Path) : Disk × Except FileFault Path :=
  match d.makeDirectories cwd p.parent with
  | (d', .error fault) => (d', .error fault)
  | (d', .ok ()) =>
    let file := p.resolve cwd
    match d'.locate cwd file with
    | .error fault => (d', .error fault)
    | .ok (_, some .directory) => (d', .error (.refused .isDirectory file))
    | .ok (_, some (.file _)) => (d', .ok file)
    | .ok (there, none) => (d'.set there (.file []), .ok file)

end LogFile

end RouteScript
