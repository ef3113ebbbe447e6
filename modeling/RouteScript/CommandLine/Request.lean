import RouteScript.CommandLine.Switch

/-!
# The command line of the program

The program has one command. `Request.read` reads the words behind the name of the program: a request
to generate, a request for help, or what is wrong with them.
-/

namespace RouteScript.CommandLine

inductive Setting where
  | help
  | verbose
  | includeTest
  | noJava
  | noXml
  | includes
  | excludes
  | outputDir
  | outputResourceDir
  | resourceDir
  | dryRun
  | logFile
  deriving DecidableEq, Repr

/-- The two parts of a command line, each with its own switches: what stands before the command, and
what follows it. -/
inductive Part where
  | program
  | generate
  deriving DecidableEq, Repr

def programSwitches : List (Switch Setting) :=
  [⟨.help, ["-h", "--help"], false⟩, ⟨.verbose, ["-v", "--verbose"], false⟩]

def generateSwitches : List (Switch Setting) :=
  [⟨.help, ["-h", "--help"], false⟩, ⟨.verbose, ["-v", "--verbose"], false⟩,
   ⟨.includeTest, ["--include-test"], false⟩, ⟨.noJava, ["--no-java"], false⟩,
   ⟨.noXml, ["--no-xml"], false⟩, ⟨.includes, ["--includes"], true⟩,
   ⟨.excludes, ["--excludes"], true⟩, ⟨.outputDir, ["--output-dir"], true⟩,
   ⟨.outputResourceDir, ["--output-resource-dir"], true⟩,
   ⟨.resourceDir, ["--resource-dir"], true⟩, ⟨.dryRun, ["--dry-run"], false⟩,
   ⟨.logFile, ["--log-file"], true⟩]

structure Request where
  verbose : Bool := false
  path : Text := "."
  includeTest : Option Bool := none
  includeJava : Option Bool := none
  includeXml : Option Bool := none
  includes : Option Text := none
  excludes : Option Text := none
  outputDir : Option Text := none
  outputResourceDir : Option Text := none
  resourceDir : Option Text := none
  dryRun : Bool := false
  logFile : Option Text := none
  deriving DecidableEq, Repr

inductive Refusal where
  | help (part : Part)
  | wrong (part : Part) (fault : ArgumentFault)
  deriving DecidableEq, Repr

def generateName : Text := "generate"

namespace Request

def apply (r : Request) : Setting → Option Text → Request
  | .help, _ => r
  | .verbose, _ => { r with verbose := true }
  | .includeTest, _ => { r with includeTest := some true }
  | .noJava, _ => { r with includeJava := some false }
  | .noXml, _ => { r with includeXml := some false }
  | .includes, value => { r with includes := value }
  | .excludes, value => { r with excludes := value }
  | .outputDir, value => { r with outputDir := value }
  | .outputResourceDir, value => { r with outputResourceDir := value }
  | .resourceDir, value => { r with resourceDir := value }
  | .dryRun, _ => { r with dryRun := true }
  | .logFile, value => { r with logFile := value }

/-- The request with switches. One that asks for help ends the reading. -/
def applyAll (part : Part) : Request → List (Switch.Given Setting) → Except Refusal Request
  | r, [] => .ok r
  | r, (setting, value) :: rest =>
    if setting = .help then .error (.help part) else applyAll part (r.apply setting value) rest

def takeSwitch (switches : List (Switch Setting)) (s : Switch Setting) (name : Text)
    (attached : Option Attached) (rest : List (Word Setting)) :
    Except ArgumentFault (List (Switch.Given Setting) × List Text × List (Word Setting)) :=
  match attached with
  | some a => do
    let (given, left) ← Switch.withAttached switches s name a
    return (given, left, rest)
  | none =>
    if !s.takesValue then .ok ([(s.key, none)], [], rest)
    else
      match rest with
      | .argument t :: rest => .ok ([(s.key, some t)], [], rest)
      | _ => .error (.missingValue s.names)

def leftover : Word Setting → Text
  | .argument t | .unknown t => t
  | .switch _ name _ => name
  | .separator => "--"

/-- Reads the words behind the command: the first argument is the path, and all others are left over. A
separator next to the path is passed over. -/
def readWords (hasPath : Bool) :
    Nat → Request → List (Word Setting) → Except Refusal (Request × List Text)
  -- Never reached: every step takes a word, and there is a step more than words.
  | 0, r, ws => .ok (r, ws.map leftover)
  | _, r, [] => .ok (r, [])
  | fuel + 1, r, .switch s name attached :: rest => do
    let (given, left, rest) ←
      (takeSwitch generateSwitches s name attached rest).mapError (.wrong .generate)
    let r ← r.applyAll .generate given
    let (r, more) ← readWords hasPath fuel r rest
    return (r, left ++ more)
  | fuel + 1, r, .unknown t :: rest => do
    let (r, more) ← readWords hasPath fuel r rest
    return (r, t :: more)
  | fuel + 1, r, .argument t :: rest => do
    if hasPath then
      let (r, more) ← readWords true fuel r rest
      return (r, t :: more)
    else
      let rest := match rest with
        | .separator :: rest => rest
        | _ => rest
      readWords true fuel { r with path := t } rest
  | fuel + 1, r, .separator :: rest => do
    if hasPath then
      let (r, more) ← readWords true fuel r rest
      return (r, "--" :: more)
    else
      match rest with
      | .argument t :: rest => readWords true fuel { r with path := t } rest
      | rest => readWords true fuel r rest

def readGenerate (r : Request) (args : List Text) : Except Refusal (Request × List Text) := do
  let ws ← (Switch.words generateSwitches args).mapError (.wrong .generate)
  readWords false (ws.length + 1) r ws

/-- Reads the words up to the command, and then those behind it. `args` are the words `ws` as they were
written. -/
def readProgram : Request → List Text → List Text → List (Word Setting) →
    Except Refusal (Request × List Text)
  | _, _, _, [] => .error (.wrong .program (.missingArgument "command"))
  | r, left, args, .switch s name attached :: ws => do
    let (given, more, _) ← (takeSwitch programSwitches s name attached []).mapError (.wrong .program)
    let r ← r.applyAll .program given
    readProgram r (left ++ more) args.tail ws
  | r, left, args, .unknown t :: ws => readProgram r (left ++ [t]) args.tail ws
  -- What follows the command is cut into words once more, with the switches of the command.
  | r, left, args, .argument t :: _ =>
    if t = generateName then do
      let (r, more) ← readGenerate r args.tail
      return (r, left ++ more)
    else .error (.wrong .program (.wrongChoice "command" t [generateName]))
  | _, _, _, [.separator] => .error (.wrong .program (.missingArgument "command"))
  | _, _, _, .separator :: _ => .error (.wrong .program (.wrongChoice "command" "--" [generateName]))

def read (args : List Text) : Except Refusal Request := do
  let ws ← (Switch.words programSwitches args).mapError (.wrong .program)
  let (r, left) ← readProgram {} [] args ws
  if left = [] then return r else throw (.wrong .program (.unrecognized left))

end Request

end RouteScript.CommandLine
