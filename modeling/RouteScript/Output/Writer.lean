import RouteScript.Files.Disk
import RouteScript.Unit.Source

/-!
# Writing output

A writer writes a file only when its content changes, and keeps the list of the files it wrote. In a
dry run it keeps the list and writes nothing. The manifest lists the generated classes, one a line in
increasing order, after a line that marks the file as generated.
-/

namespace RouteScript

inductive WriteFault where
  | blocked (path : Path) (fault : FileFault)
  | noContent (fault : SurrogateFault)
  | noName (fault : FileFault)
  deriving DecidableEq, Repr

def WriteFault.ofFile (path : Path) : FileFault → WriteFault
  | .refused code p => .blocked path (.refused code p)
  | fault => .noName fault

def WriteFault.message : WriteFault → Text
  | .blocked path fault => "Cannot write " ++ path.toText ++ ": " ++ fault.message
  | .noContent fault => fault.message
  | .noName fault => fault.message

/-- The files written so far, in order. In a dry run they are those that would be written. -/
structure Writer where
  dryRun : Bool
  written : List Path
  deriving DecidableEq, Repr

namespace Writer

def new (dryRun : Bool) : Writer := ⟨dryRun, []⟩

def holds (d : Disk) (cwd : List Text) (p : Path) (content : Bytes) : Except FileFault Bool :=
  return (← d.inspect cwd p) == some (.file content)

def writeThrough (d : Disk) (cwd : List Text) (p : Path) (content : Bytes) :
    Disk × Except FileFault Unit :=
  match d.makeDirectories cwd p.parent with
  | (d', .error fault) => (d', .error fault)
  | (d', .ok ()) =>
    match d'.write cwd p content with
    | .ok d'' => (d'', .ok ())
    | .error fault => (d', .error fault)

/-- Brings the file at `p` to the given content: the disk after, the writer after, and whether the
file changed. -/
def update (w : Writer) (d : Disk) (cwd : List Text) (p : Path) (content : Text) :
    Disk × Except WriteFault (Writer × Bool) :=
  match content.toUtf8 with
  | .error fault => (d, .error (.noContent fault))
  | .ok bytes =>
    match holds d cwd p bytes with
    | .error fault => (d, .error (.ofFile p fault))
    | .ok true => (d, .ok (w, false))
    | .ok false =>
      let changed : Writer := { w with written := w.written ++ [p] }
      -- A dry run lists the file like any other.
      if w.dryRun then (d, .ok (changed, true))
      else
        match writeThrough d cwd p bytes with
        | (d', .error fault) => (d', .error (.ofFile p fault))
        | (d', .ok ()) => (d', .ok (changed, true))

end Writer

namespace Manifest

def file : Path := .ofText "META-INF/services/org/apache/camel/csimple.properties"

def entries (identities : List Text) : List Text := Text.sortDistinct identities

def render (identities : List Text) : Option Text :=
  match entries identities with
  | [] => none
  | names => some (Text.joinWith "\n" (("# " ++ generatedMessage) :: names) ++ "\n")

/-- Brings the manifest below `directory` up to date: the disk after, the writer after, and the path of
the manifest. When there is nothing to list, nothing is written. -/
def write (w : Writer) (d : Disk) (cwd : List Text) (directory : Path) (identities : List Text) :
    Disk × Except WriteFault (Writer × Option Path) :=
  match render identities with
  | none => (d, .ok (w, none))
  | some text =>
    let path := directory.join file
    match w.update d cwd path text with
    | (d', .ok (w', _)) => (d', .ok (w', some path))
    | (d', .error fault) => (d', .error fault)

end Manifest

end RouteScript
