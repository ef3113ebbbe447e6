import RouteScript.Text.Lines

/-!
# Java string literals

`stringLiteral` writes a text as an ordinary literal, and `literalValue` is the value of an ordinary
literal or of a text block.
-/

namespace RouteScript.Java

def escaped (c : CodePoint) : Text :=
  if c = .char '\\' then "\\\\"
  else if c = .char '"' then "\\\""
  else if c = .char '\n' then "\\n"
  else if c = .char '\r' then "\\r"
  else if c = .char '\t' then "\\t"
  else if c = .char '\x08' then "\\b"
  else if c = .char '\x0c' then "\\f"
  else [c]

def stringLiteral (t : Text) : Text := .char '"' :: t.flatMap escaped ++ [.char '"']

def simpleEscape? : Char → Option Text
  | 'b' => some "\x08"
  | 't' => some "\t"
  | 'n' => some "\n"
  | 'f' => some "\x0c"
  | 'r' => some "\r"
  | 's' => some " "
  | '"' => some "\""
  | '\'' => some "'"
  | '\\' => some "\\"
  | '\n' => some ""
  | _ => none

def ofDigits (base : Nat) (digits : List Nat) : Nat := digits.foldl (fun n d => n * base + d) 0

/-- A code point by its number: letters `u` and four hexadecimal digits. The result is the value and
the width. -/
def unicodeEscape? (t : Text) : Option (Text × Nat) :=
  let marks := (t.takeWhile (· = .char 'u')).length
  let digits := ((t.drop marks).take 4).filterMap CodePoint.hexValue?
  if marks ≠ 0 ∧ digits.length = 4 then
    some ([CodePoint.ofNat (ofDigits 16 digits)], marks + 4)
  else none

/-- A code point below 256 by its number: up to three octal digits, the third only where the first is
at most 3. The result is the value and the width. -/
def octalEscape? (t : Text) : Option (Text × Nat) :=
  let limit := if ((t.head?.bind CodePoint.octalValue?).getD 0) ≤ 3 then 3 else 2
  let digits := ((t.take limit).takeWhile (·.octalValue?.isSome)).filterMap CodePoint.octalValue?
  if digits = [] then none else some ([CodePoint.ofNat (ofDigits 8 digits)], digits.length)

/-- The value of the escape that follows a backslash, and its width. A line end stands for nothing. -/
def escape? : Text → Option (Text × Nat)
  | .char '\r' :: .char '\n' :: _ => some ([], 2)
  | .char c :: t =>
    match simpleEscape? c with
    | some value => some (value, 1)
    | none => unicodeEscape? (.char c :: t) <|> octalEscape? (.char c :: t)
  | _ => none

/-- The text that the inside of a literal stands for. A backslash that begins no escape stands for
itself. -/
def unescape : Text → Text
  | [] => []
  | c :: t =>
    if c = .char '\\' then
      match escape? t with
      | some (value, width) => value ++ unescape (t.drop width)
      | none => c :: unescape t
    else c :: unescape t
termination_by t => t.length
decreasing_by all_goals (simp only [List.length_drop, List.length_cons]; omega)

def inside (n : Nat) (t : Text) : Text := (t.take (t.length - n)).drop n

/-- The lines of a text block without their common margin and without the blanks at their ends. -/
def blockLines (body : Text) : Text :=
  Text.joinWith "\n" ((Text.parts (.char '\n') (Text.dedent body)).map Text.stripRight)

def literalValue (literal : Text) : Text :=
  if Text.startsWith literal "\"\"\"" then
    let content := ((Text.cutFirst? (.char '\n') (inside 3 literal)).map (·.2)).getD []
    unescape (blockLines content)
  else unescape (inside 1 literal)

end RouteScript.Java
