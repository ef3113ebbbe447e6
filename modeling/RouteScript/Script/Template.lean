import RouteScript.Script.Call
import RouteScript.Script.Segment

/-!
# Code of a value script

A value script becomes one Java expression: the code of its parts joined by `+`. An empty literal
stands in front when there are several parts and the first is a function, so that `+` always joins
strings.
-/

namespace RouteScript.Script

inductive Part where
  | literal (value : Text)
  | call (code : Text)
  deriving DecidableEq, Repr

def Part.code : Part → Text
  | .literal value => Java.stringLiteral value
  | .call code => code

def PlacedSegment.part (s : PlacedSegment) : Except SyntaxFault Part :=
  match s.segment with
  | .text t => .ok (.literal t)
  | .function body => ((functionCode body).map .call).mapError (⟨·, s.index⟩)

/-- With an empty literal in front where the first of several operands is a function. -/
def startWithString : List Part → List Part
  | .call code :: part :: rest => .literal [] :: .call code :: part :: rest
  | parts => parts

def valueParts (script : Text) : Except SyntaxFault (List Part) := do
  let placed ← segments script
  if placed = [] then throw ⟨.emptyExpression, 0⟩
  let parts ← placed.mapM PlacedSegment.part
  return startWithString parts

def valueCode (script : Text) : Except SyntaxFault Text := do
  let parts ← valueParts script
  return Text.joinWith " + " (parts.map Part.code)

end RouteScript.Script
