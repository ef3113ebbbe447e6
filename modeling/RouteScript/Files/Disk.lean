import RouteScript.Files.Path
import RouteScript.Text.Printable

/-!
# A file system

A disk maps the absolute names of files and directories to what they hold. There are no links, so a
name followed by a double point leads back only when it is a directory. Operations fail the way the
system's calls do, and a failed one says which call failed on which path.
-/

namespace RouteScript

inductive Entry where
  | file (content : Bytes)
  | directory
  deriving DecidableEq, Repr

/-- Files and directories by their names from the root, which is always a directory. -/
structure Disk where
  entries : List (List Text × Entry)
  deriving DecidableEq, Repr, Inhabited

inductive Errno where
  | noEntry
  | exists
  | notDirectory
  | isDirectory
  | nameTooLong
  deriving DecidableEq, Repr

inductive FileFault where
  | refused (code : Errno) (path : Path)
  | nullByte
  | unencodable (fault : SurrogateFault)
  deriving DecidableEq, Repr

def Errno.description : Errno → Nat × Text
  | .noEntry => (2, "No such file or directory")
  | .exists => (17, "File exists")
  | .notDirectory => (20, "Not a directory")
  | .isDirectory => (21, "Is a directory")
  | .nameTooLong => (36, "File name too long")

def FileFault.message : FileFault → Text
  | .refused code path =>
    "[Errno " ++ Text.ofNat code.description.1 ++ "] " ++ code.description.2 ++ ": " ++
      Text.quoted path.toText
  | .nullByte => "embedded null byte"
  | .unencodable fault => fault.message

def maxNameBytes : Nat := 255

/-- The number of bytes of a name. A surrogate stands for one byte. -/
def nameBytes (name : Text) : Nat :=
  name.foldl (fun n c => n + match c with | .char c => c.utf8Size | .surrogate _ => 1) 0

/-- A code point that no file name can hold: a surrogate, except those that stand for a byte. -/
def isNameless : CodePoint → Bool
  | .char _ => false
  | .surrogate offset => !(0x480 ≤ offset.val && offset.val < 0x500)

def Path.checkName (p : Path) : Except FileFault Unit :=
  let t := p.toText
  let position := (t.takeWhile (!isNameless ·)).length
  match t.drop position with
  | .surrogate offset :: rest =>
    .error (.unencodable ⟨position, 1 + Utf8.surrogateRun rest, offset⟩)
  | _ => if t.contains (.char '\x00') then .error .nullByte else .ok ()

/-- Checks the names on the way of a path, one after the other. A double point takes back the name
before it, and at the beginning of a relative path it remains. -/
def Path.checkAlong (isAbsolute : Bool) (done : List Text) : List Text → Except FileFault Unit
  | [] => .ok ()
  | name :: rest =>
    if name = ".." then
      match done.getLast? with
      | none => checkAlong isAbsolute (if isAbsolute then [] else [name]) rest
      | some last => checkAlong isAbsolute (if last = name then done ++ [name] else done.dropLast) rest
    else do
      checkName ⟨isAbsolute.toNat, done ++ [name]⟩
      checkAlong isAbsolute (done ++ [name]) rest

/-- Whether a path can be resolved, which looks at each name on its way. -/
def Path.checkWay (p : Path) : Except FileFault Unit := checkAlong p.isAbsolute [] p.names

namespace Disk

def empty : Disk := ⟨[]⟩

def get? (d : Disk) (names : List Text) : Option Entry :=
  if names = [] then some .directory else d.entries.lookup names

def set (d : Disk) (names : List Text) (e : Entry) : Disk :=
  ⟨(names, e) :: d.entries.filter fun x => x.1 ≠ names⟩

def erase (d : Disk) (names : List Text) : Disk :=
  ⟨d.entries.filter fun x => !names.isPrefixOf x.1⟩

/-- Follows names from the directory `here`: the absolute names they lead to, and what is there.
Every name but the last has to be a directory. -/
def follow (d : Disk) (here : List Text) : List Text → Except Errno (List Text × Option Entry)
  | [] => .ok (here, some .directory)
  | name :: rest =>
    -- `here` is a directory and no link, so the way back is the name before it.
    if name = ".." then follow d here.dropLast rest
    else if maxNameBytes < nameBytes name then .error .nameTooLong
    else
      let there := here ++ [name]
      match d.get? there with
      | some .directory => follow d there rest
      | found =>
        if rest = [] then .ok (there, found)
        else .error (if found.isSome then .notDirectory else .noEntry)

def locate (d : Disk) (cwd : List Text) (p : Path) :
    Except FileFault (List Text × Option Entry) := do
  p.checkName
  (d.follow (if p.isAbsolute then [] else cwd) p.names).mapError (.refused · p)

/-- What `p` leads to, or nothing where it leads nowhere. A name of too many bytes is a fault. -/
def inspect (d : Disk) (cwd : List Text) (p : Path) : Except FileFault (Option Entry) :=
  match d.locate cwd p with
  | .ok (_, found) => .ok found
  | .error (.refused .nameTooLong q) => .error (.refused .nameTooLong q)
  | .error _ => .ok none

def isDirectory (d : Disk) (cwd : List Text) (p : Path) : Except FileFault Bool :=
  return (← d.inspect cwd p) == some .directory

def exists? (d : Disk) (cwd : List Text) (p : Path) : Except FileFault Bool :=
  return (← d.inspect cwd p).isSome

def read (d : Disk) (cwd : List Text) (p : Path) : Except FileFault Bytes := do
  match ← d.locate cwd p with
  | (_, some (.file content)) => return content
  | (_, some .directory) => throw (.refused .isDirectory p)
  | (_, none) => throw (.refused .noEntry p)

def makeDirectory (d : Disk) (cwd : List Text) (p : Path) : Except FileFault Disk := do
  match ← d.locate cwd p with
  | (_, some _) => throw (.refused .exists p)
  | (there, none) => return d.set there .directory

/-- A fault is no fault where `p` is a directory already. -/
def settle (d : Disk) (cwd : List Text) (p : Path) (fault : FileFault) :
    Disk × Except FileFault Unit :=
  match d.isDirectory cwd p with
  | .ok true => (d, .ok ())
  | _ => (d, .error fault)

/-- Makes the directory `p` and the missing ones above it. The directories made before a fault
remain. -/
def makeDirectories (d : Disk) (cwd : List Text) (p : Path) : Disk × Except FileFault Unit :=
  match d.makeDirectory cwd p with
  | .ok d' => (d', .ok ())
  | .error (.refused .noEntry q) =>
    -- There is nothing above the root.
    if p.names = [] then (d, .error (.refused .noEntry q))
    else
      match makeDirectories d cwd p.parent with
      | (d', .error fault) => (d', .error fault)
      | (d', .ok ()) =>
        match d'.makeDirectory cwd p with
        | .ok d'' => (d'', .ok ())
        | .error (.refused .noEntry q) => (d', .error (.refused .noEntry q))
        | .error fault => d'.settle cwd p fault
  | .error fault => d.settle cwd p fault
termination_by p.names.length
decreasing_by
  rename_i h
  have := List.length_pos_iff.mpr h
  simp only [Path.parent, List.length_dropLast]
  omega

def write (d : Disk) (cwd : List Text) (p : Path) (content : Bytes) : Except FileFault Disk := do
  match ← d.locate cwd p with
  | (_, some .directory) => throw (.refused .isDirectory p)
  | (there, _) => return d.set there (.file content)

/-- Whether the one name list stands before the other when a directory is walked: the files of a
directory come before its subdirectories, and both in increasing order. -/
def walksBefore : List Text → List Text → Bool
  | [], _ => true
  | _ :: _, [] => false
  | [a], [b] => Text.le a b
  | [_], _ :: _ :: _ => true
  | _ :: _ :: _, [_] => false
  | a :: s, b :: t => if a = b then walksBefore s t else Text.le a b

def filesBelow (d : Disk) (root : List Text) : List (List Text) :=
  (d.entries.filterMap fun (names, e) =>
    match e with
    | .file _ => root.isPrefixOf? names
    | .directory => none).mergeSort walksBefore

end Disk

end RouteScript
