import RouteScript.CommandLine.Session
import RouteScript.Project.LogFile
import RouteScript.Text.Lines
import Std.Time.DateTime

/-!
# The program

The outer layer. It takes a picture of the files that a request is about, has the request carried out on
the picture, and then changes on the disk what has changed in the picture.
-/

namespace RouteScript.Program

open CommandLine

def pathOf (names : List Text) : String := (Path.absolute names).toText.toDisplay

def namesOf (s : String) : List Text := (Path.ofText (Text.ofString s)).names

def entryAt (names : List Text) : IO (Option Entry) := do
  let path := pathOf names
  try
    let place ← IO.FS.realPath path
    match (← place.metadata).type with
    | .dir => return some .directory
    | .file => return some (.file (← IO.FS.readBinFile path).toList)
    | _ => return none
  catch _ => return none

def take (d : Disk) (names : List Text) : IO Disk := do
  let mut d := d
  for n in [1:names.length + 1] do
    let above := names.take n
    if (d.get? above).isNone then
      if let some e ← entryAt above then d := d.set above e
  return d

/-- The picture with everything below a directory. Links to directories are not followed. -/
partial def takeBelow (d : Disk) (names : List Text) : IO Disk := do
  let mut d ← take d names
  if d.get? names = some .directory then
    let place ← IO.FS.realPath (pathOf names)
    for e in ← place.readDir do
      let below := names ++ [Text.ofString e.fileName]
      let real ← IO.FS.realPath e.path
      if real.toString = pathOf below then d ← takeBelow d below
  return d

def seen (a : Account) (t : Text) : List Text :=
  match a.expandHome (.ofText t) with
  | .ok p => (p.resolve a.cwd).names
  | .error _ => []

def picture (a : Account) (r : Request) : IO Disk := do
  let project := seen a r.path
  let mut d ← take .empty a.cwd
  for names in [project ++ [settingsName], project.dropLast ++ [settingsName]] do
    d ← take d names
  if let some t := r.logFile then d ← take d ((Path.ofText t).resolve a.cwd).names
  -- The settings say what else the run looks at.
  let run := (Generation.settingsAt ⟨a, none⟩ r.path (Session.overridesOf r)).run.run ⟨d, []⟩
  if let (.ok s, _) := run then
    for root in s.sourceRoots ++ s.testSourceRoots do
      d ← takeBelow d (seen a root)
    for directory in [s.outputDir, s.outputResourceDir] do
      if let some p := directory then d ← takeBelow d (p.resolve a.cwd).names
    if let some p := s.configurationPath then d ← take d (p.resolve a.cwd).names
  return d

/-- Changes on the disk what has changed in the picture, directories before what they hold. -/
def bringUpToDate (before after : Disk) : IO Unit := do
  let changed := after.entries.filter fun (names, e) => before.get? names ≠ some e
  for (names, e) in changed.mergeSort fun x y => x.1.length ≤ y.1.length do
    match e with
    | .directory => IO.FS.createDirAll (pathOf names)
    | .file content => IO.FS.writeBinFile (pathOf names) ⟨content.toArray⟩

def account : IO Account := do
  let cwd ← IO.currentDir
  let home ← IO.getEnv "HOME"
  let table ← try IO.FS.readBinFile "/etc/passwd" catch _ => pure ⟨#[]⟩
  return {
    cwd := namesOf cwd.toString
    home := .ofText (Text.ofString ((home.filter (· ≠ "")).getD "/"))
    users := Account.usersOf (decodeUtf8Lossy table.toList).lines }

def run (args : List Text) : IO UInt32 := do
  let a ← account
  let d ← match Request.read args with
    | .ok r => picture a r
    | .error _ => pure .empty
  let now ← Std.Time.Timestamp.now
  let time := LogFile.stamp now.toMillisecondsSinceUnixEpoch.val.toNat
  let s := Session.run a time args d
  bringUpToDate d s.disk
  IO.print s.output.toDisplay
  IO.eprint s.errors.toDisplay
  match s.ending with
  | .code n => return UInt32.ofNat n
  | .fault f =>
    IO.eprintln f.message.toDisplay
    return 1

end RouteScript.Program

def main (args : List String) : IO UInt32 :=
  RouteScript.Program.run (args.map RouteScript.Text.ofString)
