import RouteScript.Yaml.Fault

/-!
# Places in a document

A cursor is what is left of a document and where in it that begins. The end of a document counts as a
gap wherever a word has to end.
-/

namespace RouteScript.Yaml

def isBreak (c : CodePoint) : Bool :=
  c = .char '\n' || c = .char '\u0085' || c = .char '\u2028' || c = .char '\u2029'

def isSpaceOrBreak (c : CodePoint) : Bool := c = .char ' ' || isBreak c

def isGap (c : CodePoint) : Bool := c = .char '\t' || isSpaceOrBreak c

def isTabOrSpace (c : CodePoint) : Bool := c = .char ' ' || c = .char '\t'

def isAcceptable : CodePoint → Bool
  | .surrogate _ => false
  | .char c =>
    inRanges [(0x09, 0x0A), (0x0D, 0x0D), (0x20, 0x7E), (0x85, 0x85), (0xA0, 0xFFFD),
      (0x10000, 0x10FFFF)] c.toNat

def isNameCharacter (c : CodePoint) : Bool :=
  c.isAsciiLetter || c.isAsciiDigit || c = .char '-' || c = .char '_'

def isOneOf (signs : String) (c : CodePoint) : Bool := (Text.ofString signs).contains c

/-- The rest of a document, the number of code points before it, and its line and column. -/
structure Cursor where
  rest : Text
  index : Nat
  line : Nat
  column : Nat
  deriving Repr, Inhabited

namespace Cursor

def start (t : Text) : Cursor := ⟨t, 0, 0, 0⟩

def peek (c : Cursor) (n : Nat) : Option CodePoint := c.rest[n]?

def sees (c : Cursor) (x : Char) : Bool := c.rest.head? = some (.char x)

/-- The place after the next code point. A mark of the byte order has no width. -/
def advance (c : Cursor) : Cursor :=
  match c.rest with
  | [] => c
  | x :: t =>
    if isBreak x then ⟨t, c.index + 1, c.line + 1, 0⟩
    else ⟨t, c.index + 1, c.line, if x = .char '\ufeff' then c.column else c.column + 1⟩

def advanceBy (c : Cursor) : Nat → Cursor
  | 0 => c
  | n + 1 => c.advance.advanceBy n

def span (c : Cursor) (p : CodePoint → Bool) : Text × Cursor :=
  let run := c.rest.takeWhile p
  (run, c.advanceBy run.length)

def skip (c : Cursor) (p : CodePoint → Bool) : Cursor := (c.span p).2

def skipSpaces (c : Cursor) : Cursor := c.skip (· = .char ' ')

def skipComment (c : Cursor) : Cursor := if c.sees '#' then c.skip (!isBreak ·) else c

/-- The end of a line as text, and the place after it: a line feed, or the separator that it is. -/
def lineBreak (c : Cursor) : Text × Cursor :=
  match c.rest with
  | x :: _ =>
    if isBreak x then ([if x = .char '\u0085' then .char '\n' else x], c.advance) else ([], c)
  | [] => ([], c)

def gapAfter (c : Cursor) (n : Nat) : Bool := (c.peek n).all isGap

def atPartEnd (c : Cursor) : Bool := c.rest.head?.all isSpaceOrBreak

def atLineEnd (c : Cursor) : Bool := c.rest.head?.all isBreak

def seesMarker (c : Cursor) (marker : Text) : Bool :=
  c.rest.startsWith marker && c.gapAfter marker.length

def seesDocumentMarker (c : Cursor) : Bool := c.seesMarker "---" || c.seesMarker "..."

def fail {α : Type} (c : Cursor) : Reading α := .error (.format (.malformed c.line))

def restOfLine (c : Cursor) : Reading Cursor :=
  let c := c.skipSpaces.skipComment
  if c.atLineEnd then .ok c.lineBreak.2 else c.fail

end Cursor

end RouteScript.Yaml
