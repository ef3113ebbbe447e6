import RouteScript.Text.CodePoint

/-!
# Blanks and lines

Blanks are the white space of Unicode together with the four information separators, and `Text.strip`
removes them from both ends of a text. `Text.lines` cuts a text at every Unicode line boundary,
`Text.unifyNewlines` writes each of CR LF, CR and LF as LF, and `Text.dedent` removes the margin that
the lines have in common.
-/

namespace RouteScript

def CodePoint.isBlank (c : CodePoint) : Bool :=
  inRanges [(0x09, 0x0D), (0x1C, 0x20), (0x85, 0x85), (0xA0, 0xA0), (0x1680, 0x1680),
    (0x2000, 0x200A), (0x2028, 0x2029), (0x202F, 0x202F), (0x205F, 0x205F), (0x3000, 0x3000)] c.toNat

def CodePoint.isLineBreak (c : CodePoint) : Bool :=
  inRanges [(0x0A, 0x0D), (0x1C, 0x1E), (0x85, 0x85), (0x2028, 0x2029)] c.toNat

namespace Text

def isBlank (t : Text) : Bool := t.all CodePoint.isBlank

def stripLeft (t : Text) : Text := t.dropWhile CodePoint.isBlank

def stripRight (t : Text) : Text := (t.reverse.dropWhile CodePoint.isBlank).reverse

def strip (t : Text) : Text := stripRight (stripLeft t)

def unifyNewlines : Text → Text
  | .char '\r' :: .char '\n' :: t => .char '\n' :: unifyNewlines t
  | .char '\r' :: t => .char '\n' :: unifyNewlines t
  | c :: t => c :: unifyNewlines t
  | [] => []

def pushFirst (c : CodePoint) : List Text → List Text
  | [] => [[c]]
  | line :: rest => (c :: line) :: rest

/-- The lines of `t` without their ends. CR LF is one end, and an end closes the last line. -/
def lines : Text → List Text
  | .char '\r' :: .char '\n' :: t => [] :: lines t
  | c :: t => if c.isLineBreak then [] :: lines t else pushFirst c (lines t)
  | [] => []

def isMarginBlank (c : CodePoint) : Bool := c == .char ' ' || c == .char '\t'

def commonStart : Text → Text → Text
  | a :: s, b :: t => if a = b then a :: commonStart s t else []
  | _, _ => []

def margin (line : Text) : Text := line.takeWhile isMarginBlank

def commonMargin (ls : List Text) : Text :=
  match (ls.filter fun line => !line.all isMarginBlank).map margin with
  | [] => []
  | m :: ms => ms.foldl commonStart m

/-- Removes the common margin. Lines of spaces and tabs alone do not count, and become empty. -/
def dedent (t : Text) : Text :=
  let ls := parts (.char '\n') t
  let m := commonMargin ls
  joinWith "\n" <| ls.map fun line =>
    if line.all isMarginBlank then [] else line.drop m.length

end Text

end RouteScript
