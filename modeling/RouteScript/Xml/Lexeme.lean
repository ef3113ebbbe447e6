import RouteScript.Xml.Fault
import RouteScript.Xml.NameCharacter

/-!
# Lexemes of XML documents

Names, references, attributes, tags, comments and processing instructions. A lexeme can have a
character that does not belong there, or the end of the document can cut it off.
-/

namespace RouteScript.Xml

/-- Why no lexeme can be read: the rest begins with something wrong, the document ends within the
lexeme, or within a character of it. -/
inductive Trouble where
  | wrong (rest : Source)
  | unclosed
  | cut
  deriving DecidableEq, Repr

abbrev Reading := Except Trouble

def Trouble.fault (start : Source) : Trouble → Fault
  | .wrong rest => ⟨.invalidToken, rest⟩
  | .unclosed => ⟨.unclosedToken, start⟩
  | .cut => ⟨.partialCharacter, start⟩

def stuck (rest : Source) : Trouble :=
  match rest with
  | [] => .unclosed
  | .cut :: _ => .cut
  | _ => .wrong rest

def missing (rest : Source) : Trouble := if rest = [] then .unclosed else .wrong rest

def isSpace (g : Glyph) : Bool :=
  match g with
  | .char n => n = 0x20 || n = 0x09 || n = 0x0A || n = 0x0D
  | _ => false

def startsName : Glyph → Bool
  | .char n => isNameStart n
  | _ => false

def continuesName : Glyph → Bool
  | .char n => isNamePart n
  | _ => false

def after? (letters : String) (s : Source) : Option Source :=
  (letters.toList.map mark).isPrefixOf? s

def nameRest (s : Source) : Text × Source :=
  (textOf (s.takeWhile continuesName), s.dropWhile continuesName)

def name (s : Source) : Reading (Text × Source) :=
  if s.head?.any startsName then .ok (nameRest s) else .error (stuck s)

def qualifiedName (s : Source) : Reading ((Option Text × Text) × Source) := do
  let (first, s) ← name s
  match s with
  | .char 0x3A :: t =>
    let (second, t) ← name t
    if t.head? = some (mark ':') then .error (.wrong t) else return ((some first, second), t)
  | _ => return ((none, first), s)

/-! ### References -/

inductive Reference where
  | entity (name : Text)
  | character (number : Nat)
  deriving DecidableEq, Repr

def numberReference (base : Nat) (value? : CodePoint → Option Nat) (s : Source) :
    Reading (Reference × Source) :=
  let digit? : Glyph → Option Nat
    | .char n => (CodePoint.ofNat? n).bind value?
    | _ => none
  let digits := (s.takeWhile fun g => (digit? g).isSome).filterMap digit?
  let rest := s.drop digits.length
  match rest with
  | .char 0x3B :: t =>
    if digits = [] then .error (.wrong rest)
    else .ok (.character (digits.foldl (fun n d => n * base + d) 0), t)
  | _ => .error (missing rest)

def decimalValue? (c : CodePoint) : Option Nat :=
  if c.isAsciiDigit then some (c.toNat - 0x30) else none

def reference (s : Source) : Reading (Reference × Source) :=
  match s with
  | .char 0x23 :: .char 0x78 :: t => numberReference 16 CodePoint.hexValue? t
  | .char 0x23 :: t => numberReference 10 decimalValue? t
  | _ => do
    let (n, s) ← name s
    match s with
    | .char 0x3B :: t => return (.entity n, t)
    | _ => .error (stuck s)

def predefined? (name : Text) : Option Char :=
  if name = "lt" then some '<'
  else if name = "gt" then some '>'
  else if name = "amp" then some '&'
  else if name = "quot" then some '"'
  else if name = "apos" then some '\''
  else none

/-! ### Tags -/

/-- An attribute as it is written: its name, the rest of the document from the name on and from the
value on, and the length of the value. -/
structure RawAttribute where
  name : Option Text × Text
  place : Source
  value : Source
  length : Nat

structure StartTag where
  name : Option Text × Text
  attributes : List RawAttribute
  isEmpty : Bool

def valueLength (quote : Glyph) (fuel : Nat) (s : Source) : Reading (Nat × Source) :=
  match fuel with
  | 0 => .error .unclosed
  | fuel + 1 =>
    match s with
    | [] => .error .unclosed
    | g :: t =>
      if g = quote then .ok (0, s)
      else if g = mark '&' then do
        let (_, t') ← reference t
        let (n, rest) ← valueLength quote fuel t'
        return (n + (s.length - t'.length), rest)
      else if g = mark '<' ∨ !g.isChar then .error (stuck s)
      else do
        let (n, rest) ← valueLength quote fuel t
        return (n + 1, rest)

def tagEnd (s : Source) : Reading (Bool × Source) :=
  match s with
  | .char 0x3E :: t => .ok (false, t)
  | .char 0x2F :: .char 0x3E :: t => .ok (true, t)
  | .char 0x2F :: t => .error (missing t)
  | _ => .error (stuck s)

def rawAttribute (s : Source) : Reading (RawAttribute × Source) := do
  let (n, t) ← qualifiedName s
  match t.dropWhile isSpace with
  | .char 0x3D :: u =>
    let u := u.dropWhile isSpace
    match u with
    | q :: value =>
      if q = mark '"' ∨ q = mark '\'' then
        let (length, rest) ← valueLength q (value.length + 1) value
        return (⟨n, s, value, length⟩, rest.tail)
      else .error (.wrong u)
    | [] => .error .unclosed
  | u => .error (if t.head?.any isSpace then missing u else stuck u)

/-- The attributes of a tag and its end. There is a blank before every attribute, and behind one that
is not the last. -/
def tagRest (fuel : Nat) (s : Source) : Reading ((List RawAttribute × Bool) × Source) :=
  match fuel with
  | 0 => .error .unclosed
  | fuel + 1 =>
    if s.head?.any isSpace then
      let t := s.dropWhile isSpace
      if t.head?.any startsName then do
        let (a, t) ← rawAttribute t
        if t.head? = some .cut then throw (.wrong t)
        let ((more, isEmpty), t) ← tagRest fuel t
        return ((a :: more, isEmpty), t)
      else do
        let (isEmpty, t) ← tagEnd t
        return (([], isEmpty), t)
    else do
      let (isEmpty, t) ← tagEnd s
      return (([], isEmpty), t)

def startTag (s : Source) : Reading (StartTag × Source) := do
  let (n, t) ← qualifiedName s
  let ((attributes, isEmpty), t) ← tagRest (t.length + 1) t
  return (⟨n, attributes, isEmpty⟩, t)

/-- The name in an end tag after its opening. Colons are like other characters of the name. -/
def endTag (s : Source) : Reading (Text × Source) :=
  if s.head?.any startsName then
    let inName (g : Glyph) : Bool := continuesName g || g = mark ':'
    let t := s.dropWhile inName
    match t.dropWhile isSpace with
    | .char 0x3E :: rest => .ok (textOf (s.takeWhile inName), rest)
    | u => .error (if t.head?.any isSpace then missing u else stuck u)
  else .error (stuck s)

/-! ### Comments and processing instructions -/

def commentRest : Source → Reading Source
  | .char 0x2D :: .char 0x2D :: .char 0x3E :: t => .ok t
  | .char 0x2D :: .char 0x2D :: t => .error (missing t)
  | [.char 0x2D] => .error .unclosed
  | g :: t => if g.isChar then commentRest t else .error (stuck (g :: t))
  | [] => .error .unclosed

def comment (s : Source) : Reading Source :=
  match s with
  | .char 0x2D :: t => commentRest t
  | _ => .error (missing s)

def instructionRest : Source → Reading Source
  | .char 0x3F :: .char 0x3E :: t => .ok t
  | g :: t => if g.isChar then instructionRest t else .error (stuck (g :: t))
  | [] => .error .unclosed

def instruction (s : Source) : Reading (Bool × Source) := do
  let (target, t) ← name s
  let isXml := Text.asciiLower target = "xml"
  if t.head?.any isSpace ∨ t.head? = some (mark '?') then
    if isXml ∧ target ≠ "xml" then .error (.wrong t)
    else
      match t with
      | .char 0x3F :: .char 0x3E :: rest => return (isXml, rest)
      | .char 0x3F :: rest => .error (missing rest)
      | _ => return (isXml, ← instructionRest t)
  else .error (stuck t)

end RouteScript.Xml
