import RouteScript.Text.CodePoint

/-!
# Wildcard patterns

In a wildcard pattern `*` stands for any text, `?` for any code point and `[...]` for one code point
of a set, or outside it when the set begins with `!`. All else stands for itself, an unclosed bracket
included.
-/

namespace RouteScript.Glob

inductive Atom where
  | literal (c : CodePoint)
  | any
  | star
  | set (negated : Bool) (members : List CodePoint) (ranges : List (Nat × Nat))
  deriving DecidableEq, Repr

def Atom.accepts (c : CodePoint) : Atom → Bool
  | .literal d => c = d
  | .any => true
  | .star => false
  | .set negated members ranges => negated != (members.contains c || inRanges ranges c.toNat)

/-- Splits the inside of a set at the hyphens that make ranges. A hyphen at the beginning or the end,
or too close to the hyphen before it, is a member. `first` is the least length of the next piece. -/
def splitRanges (first : Nat) (current : Text) : Text → List Text
  | [] => if current = [] then [] else [current]
  | c :: t =>
    if c = .char '-' ∧ first ≤ current.length then current :: splitRanges 2 [] t
    else splitRanges first (current ++ [c]) t

/-- A hyphen that ends the inside of a set belongs to the last piece. -/
def closeRanges (inside : Text) (pieces : List Text) : List Text :=
  match pieces.getLast? with
  | some last =>
    if inside.getLast? = some (.char '-') ∧ last.getLast? ≠ some (.char '-') then
      pieces.dropLast ++ [last ++ [.char '-']]
    else pieces
  | none => pieces

def dropEmptyRanges : List Text → List Text
  | [] => []
  | p :: rest =>
    match dropEmptyRanges rest with
    | [] => [p]
    | q :: more =>
      if (q.head?.map CodePoint.toNat).getD 0 < (p.getLast?.map CodePoint.toNat).getD 0 then
        (p.dropLast ++ q.tail) :: more
      else p :: q :: more

def rangesBetween : List Text → List (Nat × Nat)
  | p :: q :: rest =>
    match p.getLast?, q.head? with
    | some a, some b => (a.toNat, b.toNat) :: rangesBetween (q :: rest)
    | _, _ => rangesBetween (q :: rest)
  | _ => []

def setOf (inside : Text) : Atom :=
  let bang := inside.head? = some (.char '!')
  let pieces :=
    dropEmptyRanges (closeRanges inside (splitRanges (if bang then 2 else 1) [] inside))
  match pieces with
  | (.char '!' :: p) :: rest => .set true (p :: rest).flatten (rangesBetween (p :: rest))
  | pieces => .set false pieces.flatten (rangesBetween pieces)

/-- The inside of the set that begins here and its width. A bracket at the beginning belongs to it. -/
def readSet? (t : Text) : Option Text :=
  let bang := t.takeWhile (· = .char '!') |>.take 1
  let bracket := (t.drop bang.length).takeWhile (· = .char ']') |>.take 1
  let head := bang ++ bracket
  (Text.cutFirst? (.char ']') (t.drop head.length)).map fun (inside, _) => head ++ inside

def parse : Text → List Atom
  | [] => []
  | c :: t =>
    if c = .char '*' then .star :: parse t
    else if c = .char '?' then .any :: parse t
    else if c = .char '[' then
      match readSet? t with
      | some inside => setOf inside :: parse (t.drop (inside.length + 1))
      | none => .literal c :: parse t
    else .literal c :: parse t
termination_by t => t.length
decreasing_by all_goals (simp only [List.length_drop, List.length_cons]; omega)

def fits : List Atom → Text → Bool
  | [], t => t.isEmpty
  | .star :: rest, [] => fits rest []
  | .star :: rest, c :: t => fits rest (c :: t) || fits (.star :: rest) t
  | _ :: _, [] => false
  | a :: rest, c :: t => a.accepts c && fits rest t
termination_by atoms t => atoms.length + t.length

def matchesText (pattern t : Text) : Bool := fits (parse pattern) t

end RouteScript.Glob
