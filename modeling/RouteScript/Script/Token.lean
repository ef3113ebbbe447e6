import RouteScript.Script.Operator
import RouteScript.Script.Segment
import RouteScript.Text.WordCharacter

/-!
# Tokens of a predicate

A predicate script is a sequence of tokens with blanks between them. `tokens` reads it from left to
right. A token begins at the first code point that is not blank and takes the first form that fits:
a function, a quoted literal, a logical operator, an operator, a number, a word.
-/

namespace RouteScript.Script

inductive Token where
  | function (body : Text)
  | quoted (value : Text)
  | number (numeral : Text)
  | boolean (value : Bool)
  | null
  | operator (op : Operator)
  | logical (op : Logical)
  | word (value : Text)
  deriving DecidableEq, Repr

structure PlacedToken where
  token : Token
  index : Nat
  width : Nat
  deriving DecidableEq, Repr

/-- What a token says: the body of a function, the content of a literal, else its spelling. -/
def Token.value : Token → Text
  | .function body => body
  | .quoted value => value
  | .number numeral => numeral
  | .boolean true => "true"
  | .boolean false => "false"
  | .null => "null"
  | .operator op => op.spelling
  | .logical op => op.spelling
  | .word value => value

def atBoundary : Text → Bool
  | [] => true
  | c :: _ => c.isBlank

/-- The value of the literal that `quote` closes, and its width with the closing quote. A backslash
before the quote makes it part of the value. -/
def readQuoted (quote : CodePoint) : Text → Option (Text × Nat)
  | [] => none
  | [c] => if c = quote then some ([], 1) else none
  | c :: d :: t =>
    if c = .char '\\' ∧ d = quote then
      (readQuoted quote t).map fun (value, width) => (quote :: value, width + 2)
    else if c = quote then some ([], 1)
    else (readQuoted quote (d :: t)).map fun (value, width) => (c :: value, width + 1)

def logical? (t : Text) : Option Logical :=
  [Logical.and, .or].find? fun op => Text.startsWith t op.spelling

def symbol? (t : Text) : Option Operator :=
  Operator.symbols.find? fun op => Text.startsWith t op.spelling

/-- The width of `first`, blanks and `second` when `t` begins with them and then ends or goes on
with a blank. -/
def wordPair? (first second t : Text) : Option Nat := do
  let rest ← Text.after? first t
  let gap := rest.takeWhile CodePoint.isBlank
  if gap = [] then none
  else
    let tail ← Text.after? second (rest.drop gap.length)
    if atBoundary tail then some (first.length + gap.length + second.length) else none

def wordOperator? (t : Text) : Option (Operator × Nat) :=
  ((wordPair? "starts" "with" t).map (Operator.startsWithApart, ·)) <|>
  ((wordPair? "ends" "with" t).map (Operator.endsWithApart, ·)) <|>
  (Operator.words.find? fun op =>
      ((Text.after? op.spelling t).map atBoundary).getD false).map
    fun op => (op, op.spelling.length)

def digitRun (t : Text) : Text := t.takeWhile CodePoint.isDigit

def fraction : Text → Text
  | .char '.' :: t =>
    match digitRun t with
    | [] => []
    | digits => .char '.' :: digits
  | _ => []

def minusSign : Text → Text
  | .char '-' :: _ => [.char '-']
  | _ => []

/-- The numeral that `t` begins with: an optional minus, digits, an optional fraction, and then the
end or a blank. -/
def numeral? (t : Text) : Option Text :=
  let sign := minusSign t
  let whole := digitRun (t.drop sign.length)
  let part := fraction (t.drop (sign.length + whole.length))
  if whole ≠ [] ∧ atBoundary (t.drop (sign.length + whole.length + part.length)) then
    some (sign ++ whole ++ part)
  else none

def Token.ofWord (w : Text) : Token :=
  if w = "true" then .boolean true
  else if w = "false" then .boolean false
  else if w = "null" then .null
  else .word w

def nextToken (index : Nat) (c : CodePoint) (t : Text) : Except SyntaxFault (Token × Nat) :=
  match functionOpening? (c :: t) with
  | some opening => do
    let (body, more) ← readFunction index ((c :: t).drop opening.length)
    return (.function body, opening.length + more)
  | none =>
    if c = .char '\'' ∨ c = .char '"' then
      match readQuoted c t with
      | some (value, width) => .ok (.quoted value, width + 1)
      | none => .error ⟨.unclosedLiteral c, index⟩
    else if let some op := logical? (c :: t) then .ok (.logical op, op.spelling.length)
    else if let some op := symbol? (c :: t) then .ok (.operator op, op.spelling.length)
    else if let some (op, width) := wordOperator? (c :: t) then .ok (.operator op, width)
    else if let some numeral := numeral? (c :: t) then .ok (.number numeral, numeral.length)
    else
      -- From `tokensFrom` the first code point is not blank, and the run is not empty.
      match (c :: t).takeWhile (!·.isBlank) with
      | [] => .error ⟨.unexpectedCharacter c, index⟩
      | w => .ok (.ofWord w, w.length)

def tokensFrom (index : Nat) : Text → Except SyntaxFault (List PlacedToken)
  | [] => .ok []
  | c :: t =>
    if c.isBlank then tokensFrom (index + 1) t
    else do
      let (token, width) ← nextToken index c t
      -- The first code point of the token is not in `t` any more.
      let rest ← tokensFrom (index + width) (t.drop (width - 1))
      return ⟨token, index, width⟩ :: rest
termination_by t => t.length
decreasing_by all_goals (simp only [List.length_drop, List.length_cons]; omega)

def tokens (script : Text) : Except SyntaxFault (List PlacedToken) := tokensFrom 0 script

end RouteScript.Script
