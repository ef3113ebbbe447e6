import RouteScript.Text.Utf8

/-!
# Characters of XML documents

The bytes of a document are read as characters in one of a few encodings. Bytes that are no legal
character stay in the source, so that a fault can point at them.
-/

namespace RouteScript.Xml

/-- What stands at a place of a document: a character by its number, a byte that is no legal character,
a byte that begins a character which is not legal, or a character that the end of the document cuts
off. -/
inductive Glyph where
  | char (n : Nat)
  | illegal
  | broken
  | cut
  deriving DecidableEq, Repr

def Glyph.isChar : Glyph → Bool
  | .char _ => true
  | _ => false

abbrev Source := List Glyph

inductive Encoding where
  | utf8
  | utf16 (bigEndian : Bool)
  | latin1
  | ascii
  deriving DecidableEq, Repr

def isLegal (n : Nat) : Bool :=
  inRanges [(0x09, 0x0A), (0x0D, 0x0D), (0x20, 0xD7FF), (0xE000, 0xFFFD), (0x10000, 0x10FFFF)] n

def glyphOr (other : Glyph) (n : Nat) : Glyph := if isLegal n then .char n else other

def glyph (n : Nat) : Glyph := glyphOr .illegal n

def utf8Width (b : UInt8) : Nat :=
  if 0xC0 ≤ b && b < 0xE0 then 2
  else if 0xE0 ≤ b && b < 0xF0 then 3
  else if 0xF0 ≤ b && b < 0xF5 then 4
  else 1

def ofUtf8 (bytes : Bytes) : Source :=
  match bytes with
  | [] => []
  | b :: rest =>
    let width := utf8Width b
    let other := if width = 1 then .illegal else .broken
    let more := rest.take (width - 1)
    if more.length < width - 1 then [.cut]
    else
      match decodeUtf8 (b :: more) with
      | .ok [c] => glyphOr other c.toNat :: ofUtf8 (rest.drop (width - 1))
      -- One byte is given up, and the reading goes on behind it.
      | _ => other :: ofUtf8 rest
termination_by bytes.length
decreasing_by all_goals (simp only [List.length_drop, List.length_cons]; omega)

/-- Reads units of sixteen bits. A high surrogate and the unit after it are one character. -/
def ofUnits : List Nat → Source
  | [] => []
  | u :: rest =>
    if 0xD800 ≤ u ∧ u < 0xDC00 then
      match rest with
      | [] => [.cut]
      | v :: rest' =>
        if 0xDC00 ≤ v ∧ v < 0xE000 then
          .char (0x10000 + (u - 0xD800) * 0x400 + (v - 0xDC00)) :: ofUnits rest'
        else .broken :: ofUnits rest'
    else glyph u :: ofUnits rest

def units (bigEndian : Bool) : Bytes → List Nat
  | a :: b :: rest =>
    (if bigEndian then a.toNat * 256 + b.toNat else b.toNat * 256 + a.toNat) :: units bigEndian rest
  | _ => []

def Encoding.decode (e : Encoding) (bytes : Bytes) : Source :=
  match e with
  | .utf8 => ofUtf8 bytes
  | .utf16 bigEndian =>
    ofUnits (units bigEndian bytes) ++ (if bytes.length % 2 = 1 then [.cut] else [])
  | .latin1 => bytes.map fun b => glyph b.toNat
  | .ascii => bytes.map fun b => if b < 0x80 then glyph b.toNat else .illegal

def Encoding.detect : Bytes → Encoding
  | 0xFE :: 0xFF :: _ => .utf16 true
  | 0xFF :: 0xFE :: _ => .utf16 false
  | 0x00 :: _ :: _ => .utf16 true
  | _ :: 0x00 :: _ => .utf16 false
  | _ => .utf8

def textOf (s : Source) : Text :=
  s.filterMap fun
    | .char n => CodePoint.ofNat? n
    | _ => none

def ofText (t : Text) : Source := t.map fun c => .char c.toNat

def mark (c : Char) : Glyph := .char c.toNat

/-- The line and the column, from 1 and from 0, behind the given characters. A carriage return with
or without a line feed ends a line. -/
def lineAndColumn (line column : Nat) : Source → Nat × Nat
  | [] => (line, column)
  | .char 0x0D :: .char 0x0A :: rest => lineAndColumn (line + 1) 0 rest
  | g :: rest =>
    if g = .char 0x0A ∨ g = .char 0x0D then lineAndColumn (line + 1) 0 rest
    else lineAndColumn line (column + 1) rest

end RouteScript.Xml
