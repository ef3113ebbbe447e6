import RouteScript.CommandLine.Manual
import RouteScript.Project.Generation

/-!
# Running a command line

`Session.run` carries out a command line: what it does to the disk, what it writes on the console, and
how it ends.
-/

namespace RouteScript.CommandLine

/-- How the program ends: with a code, or with a fault that it does not report itself. -/
inductive Ending where
  | code (n : Nat)
  | fault (f : RunFault)
  deriving DecidableEq, Repr

structure Session where
  disk : Disk
  output : Text
  errors : Text
  ending : Ending
  deriving DecidableEq, Repr

namespace Session

def patternsOf (given : Option Text) : Option (List Text) :=
  match given.map SettingValue.commaParts with
  -- A value that names no pattern leaves the settings as they are.
  | some [] => none
  | patterns => patterns

def overridesOf (r : Request) : Overrides :=
  { includeTest := r.includeTest
    includeJava := r.includeJava
    includeXml := r.includeXml
    includes := patternsOf r.includes
    excludes := patternsOf r.excludes
    outputDir := r.outputDir
    outputResourceDir := r.outputResourceDir
    resourceDir := r.resourceDir }

def shown (cwd : List Text) (p : Path) : Text := (((Path.absolute cwd).relativeTo? p).getD p).toText

def fileLine (cwd : List Text) (p : Path) : Text := "  " ++ shown cwd p ++ "\n"

def summary (cwd : List Text) (o : Outcome) : Text :=
  if o.units = [] then "No csimple expressions found\n"
  else
    let marker : Text := if o.dryRun then " (dry-run)" else []
    "Compiled " ++ Text.ofNat o.units.length ++ " csimple expression(s); " ++
      Text.ofNat o.written.length ++ " file(s) changed" ++ marker ++ "\n" ++
      o.written.flatMap (fileLine cwd)

/-- What the program says about a fault that it reports, which are those that a user can mend. -/
def complaint? (f : RunFault) : Option Text :=
  match f with
  | .missingProject _ | .noOutputDirectory | .noResourceDirectory => some (f.message ++ "\n")
  | .settings (.unreadable _ _) | .settings (.malformed _) | .settings .noMapping =>
    some (f.message ++ "\n")
  | .configuration (.unreadable _ _) | .configuration (.undecodable _ _) => some (f.message ++ "\n")
  | .fatal _ => some ("csimplegen generate failed: " ++ f.message ++ "\n")
  | .write (.blocked _ _) =>
    some ("csimplegen generate failed: " ++ f.message ++ "\nRun with --verbose for more details.\n")
  | _ => none

def console (verbose : Bool) (records : List Record) : Text :=
  (records.filter (·.isWanted verbose)).flatMap Record.consoleLine

def generate (a : Account) (log : Option LogFile) (r : Request) (d : Disk) : Session :=
  let (result, p) := (Generation.runAt ⟨a, log⟩ r.path (overridesOf r) r.dryRun).run.run ⟨d, []⟩
  let lines := console r.verbose p.records
  match result with
  | .ok o => ⟨p.disk, summary a.cwd o, lines, .code 0⟩
  | .error f =>
    match complaint? f with
    | some complaint => ⟨p.disk, [], lines ++ complaint, .code 1⟩
    | none => ⟨p.disk, [], lines, .fault f⟩

def answer (a : Account) (time : Text) (r : Request) (d : Disk) : Session :=
  match r.logFile with
  | none => generate a none r d
  | some t =>
    match LogFile.prepare d a.cwd (.ofText t) with
    | (d', .error fault) => ⟨d', [], [], .fault (.file fault)⟩
    | (d', .ok file) => generate a (some ⟨file.names, r.verbose, time⟩) r d'

def run (a : Account) (time : Text) (args : List Text) (d : Disk) : Session :=
  match Request.read args with
  | .ok r => answer a time r d
  | .error (.help part) => ⟨d, part.help, [], .code 0⟩
  | .error (.wrong part fault) => ⟨d, [], part.complaint fault, .code 2⟩

end Session

end RouteScript.CommandLine
