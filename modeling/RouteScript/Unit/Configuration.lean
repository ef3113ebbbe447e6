import RouteScript.Files.Disk
import RouteScript.Log
import RouteScript.Text.Lines
import RouteScript.Unit.Alias

/-!
# Compiler configuration

A configuration lists the imports of every generated class and the aliases of every script. It is
read from lines: `#` begins a comment, `import ` an import, and `key=value` is an alias. Other lines
say nothing. A project can hold a file with the configuration, and a missing file is an empty one.
-/

namespace RouteScript

/-- Imports, in increasing order and each once, and aliases, one for each key. -/
structure Configuration where
  imports : List Text
  aliases : List Alias
  deriving DecidableEq, Repr, Inhabited

namespace Configuration

def create (imports : List Text) (aliases : List Alias) : Configuration :=
  ⟨Text.sortDistinct imports, aliases⟩

def isEmpty (c : Configuration) : Bool := c.imports.isEmpty && c.aliases.isEmpty

inductive Line where
  | nothing
  | importing (statement : Text)
  | aliasing (key value : Text)
  deriving DecidableEq, Repr

def Line.ofText (raw : Text) : Line :=
  let line := Text.strip raw
  if Text.startsWith line "#" then .nothing
  else if Text.startsWith line "import " then .importing line
  else match Text.cutFirst? (.char '=') line with
    | none => .nothing
    | some (key, value) =>
      let key := Text.strip key
      let value := Text.strip value
      if key = [] ∨ value = [] then .nothing else .aliasing key value

def addLine (c : Configuration) : Line → Configuration
  | .nothing => c
  | .importing statement => { c with imports := c.imports ++ [statement] }
  | .aliasing key value => { c with aliases := Alias.insert c.aliases key value }

def ofText (t : Text) : Configuration :=
  let c := ((Text.lines t).map Line.ofText).foldl addLine ⟨[], []⟩
  create c.imports c.aliases

end Configuration

inductive LoadFault where
  | unreadable (path : Path) (fault : FileFault)
  | undecodable (path : Path) (fault : Utf8Fault)
  | file (fault : FileFault)
  deriving DecidableEq, Repr

def LoadFault.message : LoadFault → Text
  | .unreadable path fault => "Cannot load " ++ path.toText ++ ": " ++ fault.message
  | .undecodable path fault => "Cannot load " ++ path.toText ++ ": " ++ fault.message
  | .file fault => fault.message

def Configuration.records (c : Configuration) (path : Path) : List Record :=
  if c.isEmpty then []
  else [⟨.info, .configuration,
    "Loaded csimple language imports: " ++ Text.ofNat c.imports.length ++ " and aliases: " ++
      Text.ofNat c.aliases.length ++ " from configuration: " ++ path.toText⟩]

def Configuration.load (d : Disk) (cwd : List Text) (path : Path) :
    Except LoadFault Configuration := do
  let found ← (d.exists? cwd path).mapError .file
  if !found then return ⟨[], []⟩
  let bytes ← (d.read cwd path).mapError (.unreadable path)
  let text ← (decodeUtf8 bytes).mapError (.undecodable path)
  return .ofText (Text.unifyNewlines text)

end RouteScript
