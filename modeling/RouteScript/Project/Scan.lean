import RouteScript.Files.Account
import RouteScript.Files.Disk
import RouteScript.Log
import RouteScript.Pattern.FilePattern
import RouteScript.Route.Site

/-!
# Finding source files

`Scan.run` walks the source roots of a project and gives the source files that the patterns select,
each once and in increasing order of their paths.
-/

namespace RouteScript

structure SourceFile where
  path : Path
  relative : Text
  dialect : Dialect
  deriving DecidableEq, Repr

/-- The names of a file that patterns are tried on: the path from the root, the same with points for
slashes, that without its last part, and the file name. -/
def matchNames (relative : Text) : List Text :=
  let dotted := Text.replaceEach (.char '/') (.char '.') relative
  let stem := ((Text.cutLast? (.char '.') dotted).map Prod.fst).getD dotted
  let name := ((Text.cutLast? (.char '/') relative).map Prod.snd).getD relative
  [relative, dotted, stem, name]

def Dialect.ofFileName? (name : Text) : Option Dialect :=
  let suffix := Text.asciiLower (Path.suffix name)
  if suffix = ".java" then some .code
  else if suffix = ".xml" then some .document
  else none

def excludedDirectories : List Text :=
  [".git", ".hg", ".svn", ".idea", ".gradle", ".mvn", "node_modules", "__pycache__"]

structure Scan where
  roots : List Text
  testRoots : List Text
  includeTest : Bool
  includeJava : Bool
  includeXml : Bool
  includes : List Text
  excludes : List Text
  deriving DecidableEq, Repr

inductive ScanFault where
  | pattern (fault : PatternFault)
  | home (fault : UnknownHome)
  | file (fault : FileFault)
  deriving DecidableEq, Repr

def ScanFault.message : ScanFault → Text
  | .pattern fault => fault.message
  | .home fault => fault.message
  | .file fault => fault.message

namespace Scan

structure Filter where
  includes : List FilePattern
  excludes : List FilePattern

/-- No exclude fits the file and, if there are includes, one of them does. -/
def Filter.selects (f : Filter) (relative : Text) : Bool :=
  let names := matchNames relative
  !f.excludes.any (·.matchesAny names) &&
    (f.includes.isEmpty || f.includes.any (·.matchesAny names))

def enables (s : Scan) : Dialect → Bool
  | .code => s.includeJava
  | .document => s.includeXml

def allRoots (s : Scan) : List Text :=
  if s.includeTest then s.roots ++ s.testRoots else s.roots

def sourcesBelow (d : Disk) (root : List Text) : List SourceFile :=
  (d.filesBelow root).filterMap fun names =>
    if names.dropLast.any excludedDirectories.contains then none
    else (Dialect.ofFileName? (names.getLast?.getD [])).map fun dialect =>
      ⟨.absolute (root ++ names), Text.joinWith "/" names, dialect⟩

/-- What a scan has found so far: the records it made, the files it met and those it selected. -/
structure Progress where
  records : List Record
  seen : List Path
  found : List SourceFile

def Progress.note (p : Progress) (message : Text) : Progress :=
  { p with records := p.records ++ [⟨.debug, .scanner, message⟩] }

def Progress.meet (s : Scan) (f : Filter) (p : Progress) (file : SourceFile) : Progress :=
  if !s.enables file.dialect || p.seen.contains file.path then p
  else
    -- The file is met before the patterns are tried. Below a second root it is passed over, also
    -- when its name from there would be selected.
    let p := { p with seen := file.path :: p.seen }
    if f.selects file.relative then { p with found := p.found ++ [file] }
    else p.note ("Filtered out " ++ file.relative)

def walk (s : Scan) (d : Disk) (a : Account) (f : Filter) :
    List Text → Progress → Progress × Option ScanFault
  | [], p => (p, none)
  | root :: rest, p =>
    match a.expandHome (.ofText root) with
    | .error fault => (p, some (.home fault))
    | .ok path =>
      match d.isDirectory a.cwd path with
      | .error fault => (p, some (.file fault))
      | .ok false => walk s d a f rest (p.note ("Skipping missing source root " ++ path.toText))
      | .ok true =>
        let files := sourcesBelow d (path.resolve a.cwd).names
        walk s d a f rest (files.foldl (Progress.meet s f) p)

def inOrder (files : List SourceFile) : List SourceFile :=
  files.mergeSort fun x y => Text.le x.path.toText y.path.toText

def ofDialect (dialect : Dialect) (files : List SourceFile) : List SourceFile :=
  files.filter (·.dialect = dialect)

def filter (s : Scan) : Except PatternFault Filter :=
  return ⟨← FilePattern.compile s.includes, ← FilePattern.compile s.excludes⟩

def run (s : Scan) (d : Disk) (a : Account) : List Record × Except ScanFault (List SourceFile) :=
  match s.filter with
  | .error fault => ([], .error (.pattern fault))
  | .ok f =>
    match s.walk d a f s.allRoots ⟨[], [], []⟩ with
    | (p, some fault) => (p.records, .error fault)
    | (p, none) =>
      let files := inOrder p.found
      let count (dialect : Dialect) : Text := Text.ofNat (ofDialect dialect files).length
      let summary : Text :=
        "Scanner found " ++ count .code ++ " java and " ++ count .document ++
          " xml candidate files"
      ((p.note summary).records, .ok files)

end Scan

end RouteScript
