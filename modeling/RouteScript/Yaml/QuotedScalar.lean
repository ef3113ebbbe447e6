import RouteScript.Yaml.PlainScalar

/-!
# Quoted scalars

Between single quotes only a doubled quote is special; between double quotes a backslash begins an
escape. Line ends are folded as in plain scalars.
-/

namespace RouteScript.Yaml

def simpleEscape? : CodePoint → Option CodePoint
  | .char '0' => some (.char '\x00')
  | .char 'a' => some (.char '\x07')
  | .char 'b' => some (.char '\x08')
  | .char 't' => some (.char '\t')
  | .char '\t' => some (.char '\t')
  | .char 'n' => some (.char '\n')
  | .char 'v' => some (.char '\x0B')
  | .char 'f' => some (.char '\x0C')
  | .char 'r' => some (.char '\r')
  | .char 'e' => some (.char '\x1B')
  | .char ' ' => some (.char ' ')
  | .char '"' => some (.char '"')
  | .char '\\' => some (.char '\\')
  | .char '/' => some (.char '/')
  | .char 'N' => some (.char '\u0085')
  | .char '_' => some (.char '\u00a0')
  | .char 'L' => some (.char '\u2028')
  | .char 'P' => some (.char '\u2029')
  | _ => none

def escapeWidth? : CodePoint → Option Nat
  | .char 'x' => some 2
  | .char 'u' => some 4
  | .char 'U' => some 8
  | _ => none

def hexNumber (width : Nat) (c : Cursor) : Reading Nat :=
  let digits := c.rest.take width
  match digits.mapM CodePoint.hexValue? with
  | some values => if values.length = width then .ok (Numeral.ofDigits 16 values) else c.fail
  | none => c.fail

/-- The line ends that follow one in a quoted scalar. No document marker may come. -/
def quotedBreaks : Nat → Cursor → Reading (Text × Cursor)
  | 0, c => .ok ([], c)
  | fuel + 1, c => do
    if c.seesDocumentMarker then c.fail
    let c := c.skip isTabOrSpace
    if c.atLineEnd && c.rest ≠ [] then
      let (ending, c) := c.lineBreak
      let (more, c) ← quotedBreaks fuel c
      return (ending ++ more, c)
    else return ([], c)

def escape (c : Cursor) : Reading (Text × Cursor) :=
  match c.rest with
  | [] => c.fail
  | x :: _ =>
    match simpleEscape? x, escapeWidth? x with
    | some y, _ => .ok ([y], c.advance)
    | none, some width => do
      let n ← hexNumber width c.advance
      match CodePoint.ofNat? n with
      | some y => return ([y], c.advance.advanceBy width)
      | none => throw (.value (.character n))
    | none, none =>
      if isBreak x then quotedBreaks (c.rest.length + 1) c.lineBreak.2 else c.fail

def quotedRun (double : Bool) : Nat → Cursor → Reading (Text × Cursor)
  | 0, c => .ok ([], c)
  | fuel + 1, c =>
    let go (part : Text) (c : Cursor) : Reading (Text × Cursor) := do
      let (more, c) ← quotedRun double fuel c
      return (part ++ more, c)
    match c.rest with
    | [] => .ok ([], c)
    | .char '\'' :: t =>
      if double then go "'" c.advance
      else if t.head? = some (.char '\'') then go "'" (c.advanceBy 2)
      else .ok ([], c)
    | .char '"' :: _ => if double then .ok ([], c) else go "\"" c.advance
    | .char '\\' :: _ =>
      if double then do
        let (part, c) ← escape c.advance
        go part c
      else go "\\" c.advance
    | x :: _ => if isGap x then .ok ([], c) else go [x] c.advance

def quotedGap (c : Cursor) : Reading (Text × Cursor) := do
  let (spaces, c) := c.span isTabOrSpace
  if c.rest = [] then c.fail
  else if c.atLineEnd then
    let (first, c) := c.lineBreak
    let (more, c) ← quotedBreaks (c.rest.length + 1) c
    return (fold first more, c)
  else return (spaces, c)

def quotedRest (double : Bool) : Nat → Cursor → Reading (Text × Cursor)
  | 0, c => c.fail
  | fuel + 1, c => do
    let (run, c) ← quotedRun double (c.rest.length + 1) c
    if c.sees (if double then '"' else '\'') then return (run, c.advance)
    let (gap, c) ← quotedGap c
    let (more, c) ← quotedRest double fuel c
    return (run ++ gap ++ more, c)

def quotedScalar (double : Bool) (c : Cursor) : Reading (Text × Cursor) :=
  quotedRest double (c.rest.length + 1) c.advance

end RouteScript.Yaml
