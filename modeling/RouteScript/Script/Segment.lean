import RouteScript.Script.Fault
import RouteScript.Text.Lines

/-!
# Functions and segments of a template

A function is `${body}` or `$simple{body}`. Braces nest inside the body, and blanks around it do not
count. A value script is literal text with functions in it. `segments` cuts it into both, and the
widths of the segments add up to the whole script.
-/

namespace RouteScript.Script

/-- The text before the brace that closes `depth` inner braces and one more, and the text after it. -/
def closeBrace : Nat → Text → Option (Text × Text)
  | _, [] => none
  | depth, c :: t =>
    let keep := Option.map fun ((inner, rest) : Text × Text) => (c :: inner, rest)
    if c = .char '{' then keep (closeBrace (depth + 1) t)
    else if c = .char '}' then
      match depth with
      | 0 => some ([], t)
      | depth + 1 => keep (closeBrace depth t)
    else keep (closeBrace depth t)

def functionOpenings : List Text := ["$\x7b", "$simple\x7b"]

def functionOpening? (t : Text) : Option Text := functionOpenings.find? (Text.startsWith t)

/-- The body of the function whose opening ends just before `t`, and the width of the body and its
closing brace. The function begins at `index`. -/
def readFunction (index : Nat) (t : Text) : Except SyntaxFault (Text × Nat) :=
  match closeBrace 0 t with
  | none => .error ⟨.unclosedFunction, index⟩
  | some (inner, _) =>
    let body := Text.strip inner
    if body = [] then .error ⟨.emptyFunction, index⟩ else .ok (body, inner.length + 1)

inductive Segment where
  | text (t : Text)
  | function (body : Text)
  deriving DecidableEq, Repr

/-- A segment, the index it begins at and the number of code points it stands for. -/
structure PlacedSegment where
  segment : Segment
  index : Nat
  width : Nat
  deriving DecidableEq, Repr

def textRun : Text → Text
  | [] => []
  | c :: t => if (functionOpening? (c :: t)).isSome then [] else c :: textRun t

def segmentsFrom (index : Nat) : Text → Except SyntaxFault (List PlacedSegment)
  | [] => .ok []
  | c :: t =>
    match functionOpening? (c :: t) with
    | some opening => do
      let (body, more) ← readFunction index ((c :: t).drop opening.length)
      let width := opening.length + more
      let rest ← segmentsFrom (index + width) (t.drop (width - 1))
      return ⟨.function body, index, width⟩ :: rest
    | none => do
      let run := textRun t
      let rest ← segmentsFrom (index + 1 + run.length) (t.drop run.length)
      return ⟨.text (c :: run), index, 1 + run.length⟩ :: rest
termination_by t => t.length
decreasing_by all_goals (simp only [List.length_drop, List.length_cons]; omega)

def segments (script : Text) : Except SyntaxFault (List PlacedSegment) := segmentsFrom 0 script

end RouteScript.Script
