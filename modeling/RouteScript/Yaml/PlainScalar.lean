import RouteScript.Yaml.Cursor

/-!
# Plain scalars

A scalar without quotes goes on over several lines as long as they are indented. A single line end in
it is a space, and of several line ends all but the first are kept.
-/

namespace RouteScript.Yaml

def isFlowSign (c : CodePoint) : Bool :=
  c = .char ',' || c = .char '?' || c = .char '[' || c = .char ']' || c = .char '\x7b' ||
    c = .char '\x7d'

def endsKey (inFlow : Bool) (c : Option CodePoint) : Bool :=
  c.all fun c => isGap c || (inFlow && isFlowSign c && c ≠ .char '?')

def plainRun (inFlow : Bool) : Text → Text
  | [] => []
  | c :: t =>
    if isGap c || (c = .char ':' && endsKey inFlow t.head?) || (inFlow && isFlowSign c) then []
    else c :: plainRun inFlow t

def moreBreaks : Nat → Cursor → Option Text × Cursor
  | 0, c => (some [], c)
  | fuel + 1, c =>
    let c := c.skipSpaces
    if c.atLineEnd && c.rest ≠ [] then
      let (ending, c) := c.lineBreak
      if c.seesDocumentMarker then (none, c)
      else
        let (more, c) := moreBreaks fuel c
        (more.map (ending ++ ·), c)
    else (some [], c)

/-- The line ends as they are kept: the first is a space if it is alone and a line feed. -/
def fold (first more : Text) : Text :=
  if first ≠ "\n" then first ++ more else if more = [] then " " else more

/-- What the gap in a plain scalar stands for, whether there is a line end in it, and the place after
it. A gap that stands for nothing ends the scalar. -/
def plainGap (c : Cursor) : Text × Bool × Cursor :=
  let (spaces, c) := c.span (· = .char ' ')
  if c.atLineEnd && c.rest ≠ [] then
    let (first, c) := c.lineBreak
    if c.seesDocumentMarker then ([], true, c)
    else
      match moreBreaks (c.rest.length + 1) c with
      | (none, c) => ([], true, c)
      | (some more, c) => (fold first more, true, c)
  else (spaces, false, c)

/-- The rest of a plain scalar after `text` and the gap `gap`: the scalar, whether a line end follows
its last part, and the place after it. -/
def plainRest (inFlow : Bool) (indent : Int) :
    Nat → Text → Text → Bool → Cursor → Text × Bool × Cursor
  | 0, text, _, broken, c => (text, broken, c)
  | fuel + 1, text, gap, broken, c =>
    let run := plainRun inFlow c.rest
    if c.sees '#' || run = [] then (text, broken, c)
    else
      let text := text ++ gap ++ run
      let (gap, broken, c) := plainGap (c.advanceBy run.length)
      if gap = [] || c.sees '#' || (!inFlow && (c.column : Int) < indent) then (text, broken, c)
      else plainRest inFlow indent fuel text gap broken c

def plainScalar (inFlow : Bool) (indent : Int) (c : Cursor) : Text × Bool × Cursor :=
  plainRest inFlow (indent + 1) (c.rest.length + 1) [] [] false c

end RouteScript.Yaml
