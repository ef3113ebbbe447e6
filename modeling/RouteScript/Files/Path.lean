import RouteScript.Text.CodePoint

/-!
# Paths

A path is the number of slashes it begins with and the names after them. Empty names and single
points are dropped when a path is read; double points are kept until the path is resolved.
-/

namespace RouteScript

structure Path where
  slashes : Nat
  names : List Text
  deriving DecidableEq, Repr, Inhabited

namespace Path

/-- The path that `t` writes. Two slashes in front are kept, three or more are one. -/
def ofText (t : Text) : Path :=
  let n := (t.takeWhile (· = .char '/')).length
  { slashes := if n ≤ 2 then n else 1
    names := (Text.parts (.char '/') t).filter fun name => name ≠ [] ∧ name ≠ "." }

def toText (p : Path) : Text :=
  if p.slashes = 0 ∧ p.names = [] then "."
  else List.replicate p.slashes (.char '/') ++ Text.joinWith "/" p.names

def isAbsolute (p : Path) : Bool := p.slashes ≠ 0

def absolute (names : List Text) : Path := ⟨1, names⟩

def join (p q : Path) : Path := if q.isAbsolute then q else { p with names := p.names ++ q.names }

def child (p : Path) (t : Text) : Path := p.join (ofText t)

def parent (p : Path) : Path := { p with names := p.names.dropLast }

def name (p : Path) : Text := p.names.getLast?.getD []

/-- The names without the double points, each of which takes back the name before it. -/
def collapse (names : List Text) : List Text :=
  (names.foldl (fun (done : List Text) (name : Text) =>
    if name = ".." then done.tail else name :: done) []).reverse

def resolve (cwd : List Text) (p : Path) : Path :=
  absolute (collapse (if p.isAbsolute then p.names else cwd ++ p.names))

def relativeTo? (base p : Path) : Option Path :=
  if base.slashes = p.slashes then (base.names.isPrefixOf? p.names).map (⟨0, ·⟩) else none

/-- The end of a file name from its last point on. A name has none when its only point is at its
beginning or its end. -/
def suffix (name : Text) : Text :=
  match Text.cutLast? (.char '.') name with
  | some (stem, ext) => if stem = [] ∨ ext = [] then [] else .char '.' :: ext
  | none => []

def withSuffix (p : Path) (ext : Text) : Path :=
  match p.names.getLast? with
  | none => p
  | some last =>
    { p with names := p.names.dropLast ++ [last.take (last.length - (suffix last).length) ++ ext] }

end Path

end RouteScript
