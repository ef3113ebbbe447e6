import RouteScript.Output.Writer
import RouteScript.Project.LogFile
import RouteScript.Project.Scan
import RouteScript.Project.Settings
import RouteScript.Route.Extraction
import RouteScript.Unit.Configuration

/-!
# Generating the classes of a project

A run scans the source files of a project, extracts the scripts from them, compiles all of them, and
only then writes the classes and the manifest. So a run that fails before it writes leaves the disk as
it was.
-/

namespace RouteScript

inductive RunFault where
  | missingProject (path : Text)
  | home (fault : UnknownHome)
  | file (fault : FileFault)
  | settings (fault : SettingsFault)
  | noOutputDirectory
  | noResourceDirectory
  | configuration (fault : LoadFault)
  | scan (fault : ScanFault)
  | fatal (f : Fatal)
  | oversizedInteger (digits : Nat)
  | write (fault : WriteFault)
  deriving DecidableEq, Repr

def RunFault.message : RunFault → Text
  | .missingProject path => "Project path not found: " ++ path
  | .home fault => fault.message
  | .file fault => fault.message
  | .settings fault => fault.message
  | .noOutputDirectory => "Output directories are not configured"
  | .noResourceDirectory => "resource_dir is not configured"
  | .configuration fault => fault.message
  | .scan fault => fault.message
  | .fatal f => f.describe
  | .oversizedInteger digits => oversizedIntegerMessage digits
  | .write fault => fault.message

/-- What a run came to. The warnings are about files from which nothing could be extracted. -/
structure Outcome where
  sites : List Site
  units : List GeneratedUnit
  written : List Path
  manifest : Option Path
  warnings : List (Path × Text)
  dryRun : Bool
  deriving DecidableEq, Repr

structure Progress where
  disk : Disk
  records : List Record
  deriving DecidableEq, Repr

/-- A part of a run. A fault does not undo what was done before. -/
abbrev Run := ExceptT RunFault (StateM Progress)

structure Surroundings where
  account : Account
  log : Option LogFile
  deriving Repr

namespace Run

def note (e : Surroundings) (r : Record) : Run Unit :=
  modify fun p => ⟨LogFile.append e.log p.disk r, p.records ++ [r]⟩

def noteAll (e : Surroundings) : List Record → Run Unit
  | [] => return ()
  | r :: rest => do
    note e r
    noteAll e rest

def report (e : Surroundings) (level : Level) (message : Text) : Run Unit :=
  note e ⟨level, .pipeline, message⟩

def disk : Run Disk := return (← get).disk

def ofExcept {ε α : Type} (f : ε → RunFault) (r : Except ε α) : Run α :=
  match r with
  | .ok a => return a
  | .error fault => throw (f fault)

def onDisk {α : Type} (f : Disk → Disk × Except WriteFault α) : Run α := do
  let (d, r) := f (← disk)
  modify fun p => { p with disk := d }
  ofExcept .write r

end Run

namespace Generation

open Run

def scanOf (s : Settings) : Scan :=
  { roots := s.sourceRoots
    testRoots := s.testSourceRoots
    includeTest := s.includeTest
    includeJava := s.includeJava
    includeXml := s.includeXml
    includes := s.includes
    excludes := s.excludes }

def dialectsOf (s : Settings) : List Dialect :=
  (if s.includeJava then [.code] else []) ++ (if s.includeXml then [.document] else [])

def configure (e : Surroundings) (path : Path) : Run Configuration := do
  let c ← ofExcept .configuration (Configuration.load (← disk) e.account.cwd path)
  noteAll e (c.records path)
  return c

def findFiles (e : Surroundings) (s : Settings) : Run (List SourceFile) := do
  let (records, result) := (scanOf s).run (← disk) e.account
  noteAll e records
  let files ← ofExcept .scan result
  report e .debug ("Scanner discovered " ++ Text.ofNat files.length ++ " candidate files")
  return files

def extractAll (e : Surroundings) : List SourceFile → Run (List Extraction)
  | [] => return []
  | f :: rest => do
    let (records, found) := extract (← disk) e.account.cwd f.dialect f.path
    noteAll e records
    return found :: (← extractAll e rest)

/-- The files in the order of extraction: those of the first dialect first, as far as the dialects are
wanted. -/
def ordered (dialects : List Dialect) (files : List SourceFile) : List SourceFile :=
  ([.code, .document].filter dialects.contains).flatMap fun dialect => Scan.ofDialect dialect files

def warningsOf (found : List Extraction) : List (Path × Text) :=
  found.filterMap fun x => x.warning.map fun reason => (x.path, reason)

def compileSites (e : Surroundings) (c : Configuration) (sites : List Site) :
    Run (List GeneratedUnit) := do
  let (units, fault) := compileAll c sites
  -- The units before a fault are reported, although none of them is written.
  noteAll e (units.map (·.record))
  match fault with
  | none => return units
  | some (.oversizedInteger digits) => throw (.oversizedInteger digits)
  | some (.fatal f) =>
    report e .error f.describe
    throw (.fatal f)

def writeUnits (e : Surroundings) (directory : Path) : List GeneratedUnit → Writer → Run Writer
  | [], w => return w
  | u :: rest, w => do
    let (w, changed) ← onDisk fun d => w.update d e.account.cwd (directory.join u.file) u.source
    if changed then report e .info ("Generated csimple source code file: " ++ u.file.toText)
    writeUnits e directory rest w

def writeManifest (e : Surroundings) (directory : Path) (units : List GeneratedUnit) (w : Writer) :
    Run (Writer × Option Path) := do
  let (after, path) ← onDisk fun d =>
    Manifest.write w d e.account.cwd directory (units.map (·.identity))
  -- The list grows just when the manifest changes.
  if w.written.length < after.written.length then
    report e .info ("Generated csimple resource file: " ++ (path.map Path.toText).getD [])
  return (after, path)

/-- Compiles the sites that were found, if there are any, and writes what has changed below the two
directories. -/
def produce (e : Surroundings) (outputDir resourceDir : Path) (c : Configuration) (found : List Extraction)
    (dryRun : Bool) : Run Outcome := do
  let sites := found.flatMap (·.sites)
  let warnings := warningsOf found
  if sites = [] then
    report e .info "No csimple expressions found"
    return ⟨[], [], [], none, warnings, dryRun⟩
  report e .info ("Discovered " ++ Text.ofNat sites.length ++ " csimple expressions")
  let units ← compileSites e c sites
  -- Every site has compiled when the first file is written.
  let w ← writeUnits e outputDir units (.new dryRun)
  let (w, manifest) ← writeManifest e resourceDir units w
  if dryRun then
    report e .info
      ("Dry-run completed; " ++ Text.ofNat w.written.length ++ " file(s) would change")
  return ⟨sites, units, w.written, manifest, warnings, dryRun⟩

def run (e : Surroundings) (s : Settings) (dialects : List Dialect) (dryRun : Bool) :
    Run Outcome := do
  report e .info ("Starting csimple generation for " ++ s.root.toText)
  let some outputDir := s.outputDir | throw .noOutputDirectory
  let some outputResourceDir := s.outputResourceDir | throw .noOutputDirectory
  let some configurationPath := s.configurationPath | throw .noResourceDirectory
  let c ← configure e configurationPath
  let files ← findFiles e s
  let found ← extractAll e (ordered dialects files)
  produce e outputDir outputResourceDir c found dryRun

def settingsAt (e : Surroundings) (path : Text) (o : Overrides) : Run Settings := do
  let p ← ofExcept .home (e.account.expandHome (.ofText path))
  ofExcept .file p.checkWay
  let p := p.resolve e.account.cwd
  if !(← ofExcept .file ((← disk).exists? e.account.cwd p)) then throw (.missingProject path)
  let s ← ofExcept .settings (Settings.load (← disk) e.account p)
  ofExcept .settings (s.override e.account o)

def runAt (e : Surroundings) (path : Text) (o : Overrides) (dryRun : Bool) : Run Outcome := do
  let s ← settingsAt e path o
  run e s (dialectsOf s) dryRun

end Generation

end RouteScript
