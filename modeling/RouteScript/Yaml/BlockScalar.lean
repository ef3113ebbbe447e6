import RouteScript.Yaml.Cursor

/-!
# Block scalars

The lines of a block scalar are those that are indented enough. The folded style joins neighbouring
lines that do not begin with a blank, and the header says what happens to the line ends at the end.
-/

namespace RouteScript.Yaml

/-- What happens to the line ends behind the last line: all are dropped, one is kept, or all are. -/
inductive Chomping where
  | strip
  | clip
  | keep
  deriving DecidableEq, Repr

def chomping? : Option CodePoint → Option Chomping
  | some (.char '+') => some .keep
  | some (.char '-') => some .strip
  | _ => none

def increment? (c : Option CodePoint) : Option Nat :=
  match c with
  | some x => if x.isAsciiDigit then some (x.toNat - 0x30) else none
  | none => none

/-- The header of a block scalar: the chomping and the indentation, in either order. -/
def blockHeader (c : Cursor) : Reading (Chomping × Option Nat × Cursor) :=
  let (chomping, increment, count) :=
    match chomping? (c.peek 0), increment? (c.peek 0) with
    | some chomping, _ =>
      match increment? (c.peek 1) with
      | some n => (chomping, some n, 2)
      | none => (chomping, none, 1)
    | none, some n =>
      match chomping? (c.peek 1) with
      | some chomping => (chomping, some n, 2)
      | none => (.clip, some n, 1)
    | none, none => (.clip, none, 0)
  let c := c.advanceBy count
  if increment = some 0 || !c.atPartEnd then c.fail else .ok (chomping, increment, c)

def leadingBreaks : Nat → Nat → Cursor → Text × Nat × Cursor
  | 0, widest, c => ([], widest, c)
  | fuel + 1, widest, c =>
    let c := c.skipSpaces
    let widest := max widest c.column
    if c.atLineEnd && c.rest ≠ [] then
      let (ending, c) := c.lineBreak
      let (more, widest, c) := leadingBreaks fuel widest c
      (ending ++ more, widest, c)
    else ([], widest, c)

def skipIndent (indent : Nat) (c : Cursor) : Cursor :=
  c.advanceBy ((c.rest.takeWhile (· = .char ' ')).length.min (indent - c.column))

def innerBreaks (indent : Nat) : Nat → Cursor → Text × Cursor
  | 0, c => ([], c)
  | fuel + 1, c =>
    let c := skipIndent indent c
    if c.atLineEnd && c.rest ≠ [] then
      let (ending, c) := c.lineBreak
      let (more, c) := innerBreaks indent fuel c
      (ending ++ more, c)
    else ([], c)

def atBlockLine (indent : Nat) (c : Cursor) : Bool := c.column = indent && c.rest ≠ []

def isMoreIndented (c : Cursor) : Bool := c.rest.head?.any isTabOrSpace

/-- The lines of a block scalar, the last line end and the empty lines behind it. -/
def blockLines (folded : Bool) (indent : Nat) : Nat → Cursor → Text × Text × Text × Cursor
  | 0, c => ([], [], [], c)
  | fuel + 1, c =>
    let (line, next) := c.span (!isBreak ·)
    let (ending, next) := next.lineBreak
    let (breaks, next) := innerBreaks indent (next.rest.length + 1) next
    if atBlockLine indent next then
      let joint : Text :=
        if folded && ending = "\n" && !isMoreIndented c && !isMoreIndented next then
          if breaks = [] then " " else []
        else ending
      let (more, last, behind, place) := blockLines folded indent fuel next
      (line ++ joint ++ breaks ++ more, last, behind, place)
    else (line, ending, breaks, next)

/-- The empty lines in front of a block scalar, its indentation and the place after them. -/
def blockStart (least : Nat) (increment : Option Nat) (c : Cursor) : Text × Nat × Cursor :=
  match increment with
  | none =>
    let (breaks, widest, c) := leadingBreaks (c.rest.length + 1) 0 c
    (breaks, max least widest, c)
  | some n =>
    let indent := least + n - 1
    let (breaks, c) := innerBreaks indent (c.rest.length + 1) c
    (breaks, indent, c)

def blockScalar (folded : Bool) (indent : Int) (c : Cursor) : Reading (Text × Cursor) := do
  let (chomping, increment, c) ← blockHeader c.advance
  let c ← c.restOfLine
  let (leading, indent, c) := blockStart (max (indent + 1) 1).toNat increment c
  let (text, last, behind, c) :=
    if atBlockLine indent c then
      let (text, last, behind, c) := blockLines folded indent (c.rest.length + 1) c
      (leading ++ text, last, behind, c)
    else ([], [], leading, c)
  let ending := match chomping with
    | .strip => []
    | .clip => last
    | .keep => last ++ behind
  return (text ++ ending, c)

end RouteScript.Yaml
