import RouteScript.Text.Printable
import RouteScript.Text.WordCharacter

/-!
# Switches on a command line

Words that begin with a hyphen are switches. A long switch can be cut short as long as no other begins
the same way, takes its value from the next word or after an equals sign, and switches of one letter
can share a hyphen. After a double hyphen every word is an argument.
-/

namespace RouteScript.CommandLine

structure Switch (ι : Type) where
  key : ι
  names : List Text
  takesValue : Bool

inductive ArgumentFault where
  | ambiguous (word : Text) (names : List Text)
  | missingValue (names : List Text)
  | ignoredValue (names : List Text) (value : Text)
  | wrongChoice (name value : Text) (choices : List Text)
  | missingArgument (name : Text)
  | unrecognized (words : List Text)
  deriving DecidableEq, Repr

def ArgumentFault.message : ArgumentFault → Text
  | .ambiguous word names =>
    "ambiguous option: " ++ word ++ " could match " ++ Text.joinWith ", " names
  | .missingValue names => "argument " ++ Text.joinWith "/" names ++ ": expected one argument"
  | .ignoredValue names value =>
    "argument " ++ Text.joinWith "/" names ++ ": ignored explicit argument " ++ Text.quoted value
  | .wrongChoice name value choices =>
    "argument " ++ name ++ ": invalid choice: " ++ Text.quoted value ++ " (choose from " ++
      Text.joinWith ", " (choices.map Text.quoted) ++ ")"
  | .missingArgument name => "the following arguments are required: " ++ name
  | .unrecognized words => "unrecognized arguments: " ++ Text.joinWith " " words

/-- A value that is written in the same word as its switch, behind an equals sign or not. -/
structure Attached where
  value : Text
  isEquated : Bool
  deriving DecidableEq, Repr

inductive Word (ι : Type) where
  | argument (t : Text)
  | switch (s : Switch ι) (name : Text) (attached : Option Attached)
  | unknown (t : Text)
  | separator

namespace Switch

variable {ι : Type}

def named? (switches : List (Switch ι)) (name : Text) : Option (Switch ι) :=
  switches.find? (·.names.contains name)

def allNames (switches : List (Switch ι)) : List (Switch ι × Text) :=
  switches.flatMap fun s => s.names.map fun name => (s, name)

def equated (t : Text) : Text × Option Attached :=
  match Text.cutFirst? (.char '=') t with
  | some (name, value) => (name, some ⟨value, true⟩)
  | none => (t, none)

def isLong (t : Text) : Bool := Text.startsWith t "--"

def candidates (switches : List (Switch ι)) (t : Text) : List (Switch ι × Text × Option Attached) :=
  if isLong t then
    let (front, attached) := equated t
    ((allNames switches).filter fun x => Text.startsWith x.2 front).map fun (s, name) =>
      (s, name, attached)
  else
    (allNames switches).filterMap fun (s, name) =>
      if name = t.take 2 then some (s, name, some ⟨t.drop 2, false⟩)
      else if Text.startsWith name t then some (s, name, none)
      else none

def isNegativeNumber : Text → Bool
  | .char '-' :: t =>
    let rest := t.dropWhile CodePoint.isDigit
    match rest with
    | [] => t ≠ []
    | .char '.' :: places => places ≠ [] && places.all CodePoint.isDigit
    | _ => false
  | _ => false

def classify (switches : List (Switch ι)) (t : Text) : Except ArgumentFault (Word ι) :=
  if t.length ≤ 1 || t.head? ≠ some (.char '-') then .ok (.argument t)
  else
    let (front, attached) := equated t
    match named? switches t, named? switches front, attached with
    | some s, _, _ => .ok (.switch s t none)
    | none, some s, some a => .ok (.switch s front (some a))
    | none, _, _ =>
      match candidates switches t with
      | [(s, name, attached)] => .ok (.switch s name attached)
      | [] =>
        if isNegativeNumber t || t.contains (.char ' ') then .ok (.argument t)
        else .ok (.unknown t)
      | many => .error (.ambiguous t (many.map fun x => x.2.1))

def words (switches : List (Switch ι)) : List Text → Except ArgumentFault (List (Word ι))
  | [] => .ok []
  | t :: rest =>
    if t = "--" then .ok (.separator :: rest.map .argument)
    else do
      let w ← classify switches t
      return w :: (← words switches rest)

abbrev Given (ι : Type) := ι × Option Text

def equatedValue (s : Switch ι) (value : Text) : Except ArgumentFault (List (Given ι) × List Text) :=
  if s.takesValue then .ok ([(s.key, some value)], []) else .error (.ignoredValue s.names value)

/-- The switches that share a hyphen with the switch `s`, whose name is `name` and in front of `t`, and
the words that remain unrecognized. Switches of one letter take no value from the next word. -/
def cluster (switches : List (Switch ι)) (s : Switch ι) (name t : Text) (isEquated : Bool) :
    Except ArgumentFault (List (Given ι) × List Text) :=
  match t with
  | [] => if s.takesValue then .ok ([(s.key, some [])], []) else .error (.ignoredValue s.names [])
  | c :: rest =>
    if s.takesValue then .ok ([(s.key, some t)], [])
    else if isLong name || isEquated || c = .char '-' then .error (.ignoredValue s.names t)
    else
      let next : Text := [.char '-', c]
      match named? switches next with
      | none => .ok ([(s.key, none)], [.char '-' :: t])
      | some other =>
        match rest with
        | [] => .ok ([(s.key, none), (other.key, none)], [])
        | .char '=' :: value => do
          let (given, left) ← equatedValue other value
          return ((s.key, none) :: given, left)
        | _ => do
          let (given, left) ← cluster switches other next rest false
          return ((s.key, none) :: given, left)

def withAttached (switches : List (Switch ι)) (s : Switch ι) (name : Text) (attached : Attached) :
    Except ArgumentFault (List (Given ι) × List Text) :=
  cluster switches s name attached.value attached.isEquated

end Switch

end RouteScript.CommandLine
