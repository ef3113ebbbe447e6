import RouteScript.Script.Call
import RouteScript.Script.Token

/-!
# Code of a predicate script

A predicate is a sequence of comparisons joined by logical operators. `parse` groups the tokens into
comparisons up to the first token that does not fit, and `predicateCode` writes the comparisons in
order, so that the leftmost fault is the one reported.
-/

namespace RouteScript.Script

structure Operand where
  token : Token
  index : Nat
  deriving DecidableEq, Repr

structure Comparison where
  left : Operand
  right : Option (Operator × Operand)
  deriving DecidableEq, Repr

/-- Comparisons, each with the logical operator in front of it, and the fault that ended the reading.
The first comparison has no operator in front. -/
structure Reading where
  comparisons : List (Option Logical × Comparison)
  fault : Option SyntaxFault
  deriving DecidableEq, Repr

def PlacedToken.operand? (t : PlacedToken) : Option Operand :=
  match t.token with
  | .operator _ | .logical _ => none
  | token => some ⟨token, t.index⟩

def Reading.stopped (cause : SyntaxCause) (index : Nat) : Reading := ⟨[], some ⟨cause, index⟩⟩

def Reading.push (link : Option Logical) (c : Comparison) (r : Reading) : Reading :=
  { r with comparisons := (link, c) :: r.comparisons }

mutual

/-- Reads a comparison and what follows it. `link` is the operator in front. -/
def readComparison (link : Option Logical) : List PlacedToken → Reading
  | [] => ⟨[], none⟩
  | l :: rest =>
    match l.operand? with
    | none => .stopped (.expectedOperand l.token.value) l.index
    | some left =>
      match rest with
      | [] => .push link ⟨left, none⟩ ⟨[], none⟩
      | o :: more =>
        match o.token with
        | .operator op =>
          match more with
          | [] => .stopped (.missingRightOperand op.spelling) o.index
          | r :: after =>
            match r.operand? with
            | none => .stopped (.expectedOperand r.token.value) r.index
            | some right => .push link ⟨left, some (op, right)⟩ (readLink after)
        -- The operand stands alone. Whether `o` may follow it is for `readLink` to say.
        | _ => .push link ⟨left, none⟩ (readLink (o :: more))

def readLink : List PlacedToken → Reading
  | [] => ⟨[], none⟩
  | t :: rest =>
    match t.token with
    | .logical op =>
      match rest with
      | [] => .stopped (.danglingLogical op.spelling) t.index
      | next :: more => readComparison (some op) (next :: more)
    | token => .stopped (.expectedLogical token.value) t.index

end

def parse (ts : List PlacedToken) : Reading :=
  match ts with
  | [] => .stopped .emptyPredicate 0
  | ts => readComparison none ts

/-! ### Code -/

def maxInt : Nat := 0x7FFFFFFF

def unsigned : Text → Text
  | .char '-' :: digits => digits
  | digits => digits

def magnitude (numeral : Text) : Nat :=
  Java.ofDigits 10 ((unsigned numeral).filterMap CodePoint.digitValue?)

/-- The Java numeral of a number. One with a fraction is kept, and an integer beyond `int` is a
`long`. -/
def numberCode (numeral : Text) : Except ScriptFault Text :=
  if numeral.contains (.char '.') then .ok numeral
  -- The digits are counted before the number is read, zeros in front included.
  else if maxIntegerDigits < (unsigned numeral).length then
    .error (.oversizedInteger (unsigned numeral).length)
  else if maxInt < magnitude numeral then .ok (numeral ++ "L")
  else .ok numeral

def Operand.code (o : Operand) : Except ScriptFault Text :=
  match o.token with
  | .function body => (functionCode body).mapError fun cause => .malformed ⟨cause, o.index⟩
  | .number numeral => numberCode numeral
  | .boolean _ | .null => .ok o.token.value
  | token => .ok (Java.stringLiteral token.value)

/-- The type name that `t` is. A line feed may end it. -/
def isTypeOperand (t : Text) : Bool :=
  isDottedName t || (t.getLast? = some (.char '\n') && isDottedName t.dropLast)

def Operand.typeCode (o : Operand) : Except ScriptFault Text :=
  let fault := ScriptFault.malformed ⟨.invalidTypeName o.token.value, o.index⟩
  match o.token with
  | .word name | .quoted name => if isTypeOperand name then .ok (name ++ ".class") else .error fault
  | _ => .error fault

def Comparison.code (c : Comparison) : Except ScriptFault Text :=
  match c.right with
  | none =>
    match c.left.token with
    | .boolean _ => .ok c.left.token.value
    | _ => return apply "toBoolean" ["exchange", ← c.left.code]
  | some (op, right) => do
    let l ← c.left.code
    let r ← if op.takesType then right.typeCode else right.code
    let call := apply op.helper ["exchange", l, r]
    return if op.isNegated then .char '!' :: call else call

def linkedCode (link : Option Logical) (c : Comparison) : Except ScriptFault (List Text) :=
  return (link.map Logical.spelling).toList ++ [← c.code]

def predicateCode (script : Text) : Except ScriptFault Text := do
  let ts ← (tokens script).mapError .malformed
  let reading := parse ts
  -- A fault in a comparison stands to the left of the one that ended the reading.
  let pieces ← reading.comparisons.mapM fun (link, c) => linkedCode link c
  match reading.fault with
  | some fault => throw (.malformed fault)
  | none => return Text.joinWith " " pieces.flatten

end RouteScript.Script
