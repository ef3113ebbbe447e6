import RouteScript.Files.Account
import RouteScript.Files.Disk
import RouteScript.Project.SettingValue
import RouteScript.Text.Lines

/-!
# Settings of a project

A project can hold a settings file at its root. `Settings.load` finds the root and reads the file, and
`Settings.override` puts other values in place of those of the file.
-/

namespace RouteScript

/-- The settings of a project. The source roots and the patterns are as they were written. -/
structure Settings where
  root : Path
  sourceRoots : List Text
  testSourceRoots : List Text
  outputDir : Option Path
  outputResourceDir : Option Path
  resourceDir : Option Path
  includeJava : Bool
  includeXml : Bool
  includeTest : Bool
  includes : List Text
  excludes : List Text
  deriving DecidableEq, Repr

/-- Values in place of those of the settings file, and names that no setting has. -/
structure Overrides where
  root : Option Path := none
  sourceRoots : Option (List Text) := none
  testSourceRoots : Option (List Text) := none
  outputDir : Option Text := none
  outputResourceDir : Option Text := none
  resourceDir : Option Text := none
  includeJava : Option Bool := none
  includeXml : Option Bool := none
  includeTest : Option Bool := none
  includes : Option (List Text) := none
  excludes : Option (List Text) := none
  others : List Text := []
  deriving DecidableEq, Repr

inductive SettingsFault where
  | unreadable (path : Path) (fault : FileFault)
  | undecodable (fault : Utf8Fault)
  | malformed (fault : Yaml.FormatFault)
  | value (fault : Yaml.ValueFault)
  | noMapping
  | integer (fault : UnwritableInteger)
  | home (fault : UnknownHome)
  | file (fault : FileFault)
  | unknownSetting (name : Text)
  deriving DecidableEq, Repr

def settingsName : Text := ".csimplegen.yml"

def SettingsFault.message : SettingsFault → Text
  | .unreadable path fault => "Cannot load " ++ path.toText ++ ": " ++ fault.message
  | .undecodable fault => fault.message
  | .malformed fault => "Failed to parse " ++ settingsName ++ ": " ++ fault.message
  | .value fault => fault.message
  | .noMapping => settingsName ++ " must contain a mapping at the root"
  | .integer fault => fault.message
  | .home fault => fault.message
  | .file fault => fault.message
  | .unknownSetting name =>
    "ProjectSettings.__init__() got an unexpected keyword argument '" ++ name ++ "'"

namespace Settings

def defaultSourceRoots : List Text := ["src/main/java", "src/main/resources"]

def defaultTestSourceRoots : List Text := ["src/test/java", "src/test/resources"]

def rootsOr (root : Path) (usual given : List Text) : List Text :=
  if given = [] then usual.map fun t => (root.child t).toText else given

def complete (s : Settings) : Settings :=
  { s with
    sourceRoots := rootsOr s.root defaultSourceRoots s.sourceRoots
    testSourceRoots := rootsOr s.root defaultTestSourceRoots s.testSourceRoots
    outputDir := s.outputDir <|> some (s.root.child "src/generated/java")
    outputResourceDir := s.outputResourceDir <|> some (s.root.child "src/generated/resources")
    resourceDir := s.resourceDir <|> some (s.root.child "src/main/resources") }

def standard (root : Path) : Settings :=
  complete ⟨root, [], [], none, none, none, true, true, false, [], []⟩

def configurationPath (s : Settings) : Option Path :=
  s.resourceDir.map (·.child "camel-csimple.properties")

def located (a : Account) (root : Path) (t : Text) : Except SettingsFault Path := do
  return root.join (← (a.expandHome (.ofText t)).mapError .home)

/-- A directory that a value names. An empty text names none. -/
def directory (a : Account) (root : Path) (v : Yaml.Value) : Except SettingsFault (Option Path) := do
  match ← (SettingValue.text? v).mapError .integer with
  | some t => if t = [] then return none else return some (← located a root t)
  | none => return none

def directories (a : Account) (root : Path) (v : Yaml.Value) : Except SettingsFault (List Text) := do
  let texts ← (SettingValue.texts v).mapError .integer
  texts.mapM fun t => return (← located a root t).toText

def ofEntries (a : Account) (root : Path) (entries : List (Yaml.Value × Yaml.Value)) :
    Except SettingsFault Settings := do
  let entry (key : Text) : Yaml.Value := Yaml.entryOf key entries
  let sourceRoots ← directories a root (entry "source_roots")
  let testSourceRoots ← directories a root (entry "test_source_roots")
  let outputDir ← directory a root (entry "output_dir")
  let outputResourceDir ← directory a root (entry "output_resource_dir")
  let resourceDir ← directory a root (entry "resource_dir")
  let includes ← (SettingValue.patterns (entry "includes")).mapError .integer
  let excludes ← (SettingValue.patterns (entry "excludes")).mapError .integer
  return complete
    { root, sourceRoots, testSourceRoots, outputDir, outputResourceDir, resourceDir, includes, excludes
      includeJava := (SettingValue.boolean? (entry "include_java")).getD true
      includeXml := (SettingValue.boolean? (entry "include_xml")).getD true
      includeTest := (SettingValue.boolean? (entry "include_test")).getD false }

def entriesOfText (t : Text) : Except SettingsFault (List (Yaml.Value × Yaml.Value)) :=
  if t.isBlank then .ok []
  else
    match Yaml.readValue t with
    | .error (.format fault) => .error (.malformed fault)
    | .error (.value fault) => .error (.value fault)
    | .ok (.mapping entries) => .ok entries
    | .ok v => if v.isNothing then .ok [] else .error .noMapping

/-- The settings file that a path means: in the directory that it names, or beside the file. -/
def fileFor (d : Disk) (a : Account) (p : Path) : Except SettingsFault Path := do
  let p ← (a.expandHome p).mapError .home
  let isDirectory ← (d.isDirectory a.cwd p).mapError .file
  let file :=
    if isDirectory then p.child settingsName
    else if p.name = settingsName then p
    else p.parent.child settingsName
  file.checkName.mapError .file
  return file.resolve a.cwd

def load (d : Disk) (a : Account) (p : Path) : Except SettingsFault Settings := do
  let file ← fileFor d a p
  let root := file.parent
  if !(← (d.exists? a.cwd file).mapError .file) then return standard root
  let bytes ← (d.read a.cwd file).mapError (.unreadable file)
  let text ← (decodeUtf8 bytes).mapError .undecodable
  ofEntries a root (← entriesOfText (Text.unifyNewlines text))

def overrideDirectory (a : Account) (root : Path) (given : Option Text) (standing : Option Path) :
    Except SettingsFault (Option Path) :=
  match given with
  | some t => return some (← located a root t)
  | none => .ok standing

/-- The settings with other values. An empty list of roots stands for the usual ones. The given
directories are seen from the root that the settings had before. -/
def override (s : Settings) (a : Account) (o : Overrides) : Except SettingsFault Settings := do
  let outputDir ← overrideDirectory a s.root o.outputDir s.outputDir
  let outputResourceDir ← overrideDirectory a s.root o.outputResourceDir s.outputResourceDir
  let resourceDir ← overrideDirectory a s.root o.resourceDir s.resourceDir
  -- The directories are looked at first, so a fault in one of them is found before an unknown name.
  if let name :: _ := o.others then throw (.unknownSetting name)
  return complete
    { root := o.root.getD s.root
      outputDir, outputResourceDir, resourceDir
      sourceRoots := o.sourceRoots.getD s.sourceRoots
      testSourceRoots := o.testSourceRoots.getD s.testSourceRoots
      includeJava := o.includeJava.getD s.includeJava
      includeXml := o.includeXml.getD s.includeXml
      includeTest := o.includeTest.getD s.includeTest
      includes := o.includes.getD s.includes
      excludes := o.excludes.getD s.excludes }

end Settings

end RouteScript
