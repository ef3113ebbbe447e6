import RouteScript.Text.Identifier
import RouteScript.Text.Lines

/-!
# Java tokens

`tokens` cuts a Java source into words, literals and symbols. Blanks and comments are dropped. Every
token keeps its text and the offset where it begins, so two symbols can be seen to stand side by side.
-/

namespace RouteScript.Java

inductive TokenKind where
  | word
  | number
  | character
  | string
  | symbol
  deriving DecidableEq, Repr

structure Token where
  kind : TokenKind
  text : Text
  start : Nat
  deriving DecidableEq, Repr

def Token.stop (t : Token) : Nat := t.start + t.text.length

def isWordStart (c : CodePoint) : Bool := c.isIdentifierStart || c = .char '$'

def isWordPart (c : CodePoint) : Bool :=
  c.isIdentifierPart || c = .char '$' || c = .char '¢'

def isGap (c : CodePoint) : Bool := c.isBlank && !c.inRange 0x1C 0x1F

def isNull (c : CodePoint) : Bool := c = .char '\x00'

/-! ### Comments and literals

Each function gives the length of what stands at the beginning of a text. -/

def lineCommentLength (t : Text) : Nat := (t.takeWhile fun c => c ≠ .char '\n' && !isNull c).length

def blockCommentLength? : Text → Option Nat
  | .char '*' :: .char '/' :: _ => some 2
  | c :: t => if isNull c then none else (blockCommentLength? t).map (· + 1)
  | [] => none

/-- The rest of a literal up to its closing quote. A backslash keeps the code point after it. -/
def quotedLength? (quote : Char) (oneLine : Bool) : Text → Option Nat
  | .char '\\' :: c :: t =>
    if isNull c then none else (quotedLength? quote oneLine t).map (· + 2)
  | c :: t =>
    if c = .char quote then some 1
    else if isNull c || c = .char '\\' || (oneLine && c = .char '\n') then none
    else (quotedLength? quote oneLine t).map (· + 1)
  | [] => none

def textBlockLength? : Text → Option Nat
  | .char '"' :: .char '"' :: .char '"' :: _ => some 3
  | .char '\\' :: c :: t => if isNull c then none else (textBlockLength? t).map (· + 2)
  | c :: t => if isNull c || c = .char '\\' then none else (textBlockLength? t).map (· + 1)
  | [] => none

/-! ### Numbers -/

def digitsLength (isDigit : CodePoint → Bool) (t : Text) : Nat :=
  let run := t.takeWhile fun c => isDigit c || c = .char '_'
  if t.head?.any isDigit then run.length - (run.reverse.takeWhile (· = .char '_')).length else 0

/-- The sum of lengths when the part that has to be there is there. -/
def withPart (part total : Nat) : Nat := if part = 0 then 0 else total

def exponentLength (letter : Char) : Text → Nat
  | c :: t =>
    if c.asciiLower = .char letter then
      let sign := match t with
        | .char '+' :: _ | .char '-' :: _ => 1
        | _ => 0
      let digits := digitsLength CodePoint.isAsciiDigit (t.drop sign)
      withPart digits (1 + sign + digits)
    else 0
  | [] => 0

def suffixLength (letters : List Char) : Text → Nat
  | c :: _ => if letters.any fun l => c.asciiLower = .char l then 1 else 0
  | [] => 0

def basedLength (isDigit : CodePoint → Bool) (t : Text) : Nat :=
  let digits := digitsLength isDigit t
  withPart digits (digits + suffixLength ['l'] (t.drop digits))

def hexLength (t : Text) : Nat :=
  let isHex (c : CodePoint) : Bool := c.hexValue?.isSome
  let whole := digitsLength isHex t
  let point := if (t.drop whole).head? = some (.char '.') then 1 else 0
  let fraction := if point = 1 then digitsLength isHex (t.drop (whole + 1)) else 0
  let mantissa := whole + point + fraction
  let exponent := exponentLength 'p' (t.drop mantissa)
  if exponent = 0 ∨ whole + fraction = 0 then basedLength isHex t
  else mantissa + exponent + suffixLength ['f', 'd'] (t.drop (mantissa + exponent))

/-- A decimal or octal number. Digits after a leading zero are octal, unless it is a number with a
point, an exponent or one of its letters. -/
def decimalLength (t : Text) : Nat :=
  let whole := digitsLength CodePoint.isAsciiDigit t
  let point := if (t.drop whole).head? = some (.char '.') then 1 else 0
  let fraction := if point = 1 then digitsLength CodePoint.isAsciiDigit (t.drop (whole + 1)) else 0
  if whole + fraction = 0 then 0
  else
    let mantissa := whole + point + fraction
    let exponent := exponentLength 'e' (t.drop mantissa)
    let size := mantissa + exponent
    let suffix := suffixLength ['f', 'd'] (t.drop size)
    if point + exponent + suffix ≠ 0 then size + suffix
    else if t.head? = some (.char '0') ∧ whole ≠ 1 then
      let octal := digitsLength (·.octalValue?.isSome) t
      octal + suffixLength ['l'] (t.drop octal)
    else whole + suffixLength ['l'] (t.drop whole)

def numberLength : Text → Nat
  | .char '0' :: c :: t =>
    if c.asciiLower = .char 'x' then
      let n := hexLength t
      if n = 0 then 1 else 2 + n
    else if c.asciiLower = .char 'b' then
      let n := basedLength (fun d => d = .char '0' || d = .char '1') t
      if n = 0 then 1 else 2 + n
    else decimalLength (.char '0' :: c :: t)
  | t => decimalLength t

/-! ### Symbols -/

/-- The symbols, where one that begins with another comes before it. A closing angle bracket is
always alone. -/
def symbols : List Text :=
  let long : List Text := ["<<=", "...", "->", "::", "++", "--", "&&", "||", "==", "!=", "<=", "<<",
    "+=", "-=", "*=", "/=", "&=", "|=", "^=", "%="]
  let single : Text := "()\x7b\x7d[];,.@=<>!~?:+-*/&|^%"
  long ++ single.map fun c => [c]

def symbolLength? (t : Text) : Option Nat :=
  (symbols.find? fun s => s.isPrefixOf t).map List.length

/-! ### Tokens -/

/-- What stands at the beginning of a text that is not empty: a token or, where there is no kind,
something that is dropped. -/
def firstToken (t : Text) : Option (Option TokenKind × Nat) :=
  match t with
  | [] => none
  | .char '/' :: .char '/' :: rest => some (none, 2 + lineCommentLength rest)
  | .char '"' :: .char '"' :: .char '"' :: rest =>
    (textBlockLength? rest).map fun n => (some .string, 3 + n)
  | .char '"' :: rest => (quotedLength? '"' false rest).map fun n => (some .string, 1 + n)
  | .char '\'' :: rest =>
    if rest.head? = some (.char '\'') then none
    else (quotedLength? '\'' true rest).map fun n => (some .character, 1 + n)
  | c :: rest =>
    if isGap c then some (none, 1)
    else if isWordStart c then some (some .word, 1 + (rest.takeWhile isWordPart).length)
    else
      let comment := if c = .char '/' ∧ rest.head? = some (.char '*') then
        blockCommentLength? rest.tail else none
      match comment with
      | some n => some (none, 2 + n)
      | none =>
        -- A number can begin with a point, so it is tried before the symbols.
        let n := numberLength t
        if n ≠ 0 then some (some .number, n)
        else (symbolLength? t).map fun n => (some .symbol, n)

/-- The tokens of a text that begins at the given offset. A fault is the offset of something that is
no token. -/
def tokensFrom (offset : Nat) (t : Text) : Except Nat (List Token) :=
  match t with
  | [] => .ok []
  | c :: rest =>
    match firstToken (c :: rest) with
    | none => .error offset
    | some (kind, n) =>
      -- Written with `n - 1`, so that the recursion is seen to end.
      let more := tokensFrom (offset + (n - 1) + 1) (rest.drop (n - 1))
      match kind with
      | none => more
      | some k => more.map (⟨k, c :: rest.take (n - 1), offset⟩ :: ·)
termination_by t.length
decreasing_by simp only [List.length_drop, List.length_cons]; omega

def tokens (source : Text) : Except Nat (List Token) :=
  match source with
  | .char '\uFEFF' :: t => tokensFrom 1 t
  | t => tokensFrom 0 t

end RouteScript.Java
