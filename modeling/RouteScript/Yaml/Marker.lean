import RouteScript.Text.Utf8
import RouteScript.Yaml.Cursor

/-!
# Anchors, tags and directives

The words in front of a node that name it or say what it is, and the lines in front of a document that
introduce handles for tags.
-/

namespace RouteScript.Yaml

/-- A tag as it is written: the handle, unless the tag is written out or is a lone mark, and the
rest. -/
structure WrittenTag where
  handle : Option Text
  rest : Text
  deriving DecidableEq, Repr

/-- A line in front of a document: the version, a handle for tags, or something that is ignored. -/
inductive Directive where
  | version (major : Nat)
  | handle (name : Text) (stands : Text)
  | unknown
  deriving DecidableEq, Repr

def endsAnchor (c : Option CodePoint) : Bool :=
  c.all fun c => isGap c || isOneOf "?:,]\x7d%@`" c

def anchorName (c : Cursor) : Reading (Text × Cursor) :=
  let (name, c) := c.advance.span isNameCharacter
  if name = [] || !endsAnchor (c.peek 0) then c.fail else .ok (name, c)

def isUriCharacter (c : CodePoint) : Bool :=
  c.isAsciiLetter || c.isAsciiDigit || isOneOf "-;/?:@&=+$,_.!~*'()[]" c

def escapedBytes : Nat → Cursor → Reading (Bytes × Cursor)
  | 0, c => .ok ([], c)
  | fuel + 1, c =>
    if !c.sees '%' then .ok ([], c)
    else
      match c.rest with
      | _ :: a :: b :: _ =>
        match a.hexValue?, b.hexValue? with
        | some high, some low => do
          let (more, c) ← escapedBytes fuel (c.advanceBy 3)
          return (UInt8.ofNat (16 * high + low) :: more, c)
        | _, _ => c.fail
      | _ => c.fail

def uriRest : Nat → Cursor → Reading (Text × Cursor)
  | 0, c => .ok ([], c)
  | fuel + 1, c => do
    let (run, c) := c.span isUriCharacter
    if c.sees '%' then
      let (bytes, c) ← escapedBytes (c.rest.length + 1) c
      match decodeUtf8 bytes with
      | .error _ => c.fail
      | .ok text =>
        let (more, c) ← uriRest fuel c
        return (run ++ text ++ more, c)
    else return (run, c)

def uri (c : Cursor) : Reading (Text × Cursor) := do
  let (text, after) ← uriRest (c.rest.length + 1) c
  if after.index = c.index then c.fail else return (text, after)

def tagHandle (c : Cursor) : Reading (Text × Cursor) :=
  if !c.sees '!' then c.fail
  else if c.peek 1 = some (.char ' ') then .ok ("!", c.advance)
  else
    let (name, after) := c.advance.span isNameCharacter
    if after.sees '!' then .ok ("!" ++ name ++ "!", after.advance) else after.fail

def hasNamedHandle (c : Cursor) : Bool :=
  ((c.rest.drop 1).takeWhile (!isSpaceOrBreak ·)).contains (.char '!')

def writtenTag (c : Cursor) : Reading (WrittenTag × Cursor) := do
  let (tag, c) ←
    if c.peek 1 = some (.char '<') then do
      let (text, c) ← uri (c.advanceBy 2)
      if c.sees '>' then pure (WrittenTag.mk none text, c.advance) else c.fail
    else if c.gapAfter 1 then pure (WrittenTag.mk none "!", c.advance)
    else do
      let (handle, c) ← if hasNamedHandle c then tagHandle c else pure (Text.ofString "!", c.advance)
      let (text, c) ← uri c
      pure (WrittenTag.mk (some handle) text, c)
  if c.atPartEnd then return (tag, c) else c.fail

def directiveNumber (c : Cursor) : Reading (Nat × Cursor) :=
  let (digits, c) := c.span CodePoint.isAsciiDigit
  if digits = [] then c.fail
  else
    match Numeral.integer 10 digits with
    | .ok n => .ok (n.toNat, c)
    | .error fault => .error (.value (.numeral fault))

def directiveVersion (c : Cursor) : Reading (Directive × Cursor) := do
  let (major, c) ← directiveNumber c.skipSpaces
  if !c.sees '.' then c.fail
  let (_, c) ← directiveNumber c.advance
  if c.atPartEnd then return (.version major, c) else c.fail

def directiveHandle (c : Cursor) : Reading (Directive × Cursor) := do
  let (name, c) ← tagHandle c.skipSpaces
  if !c.sees ' ' then c.fail
  let (stands, c) ← uri c.skipSpaces
  if c.atPartEnd then return (.handle name stands, c) else c.fail

def directive (c : Cursor) : Reading (Directive × Cursor) := do
  let (name, c) := c.advance.span isNameCharacter
  if name = [] || !c.atPartEnd then c.fail
  let (directive, c) ←
    if name = "YAML" then directiveVersion c
    else if name = "TAG" then directiveHandle c
    else pure (.unknown, c.skip (!isBreak ·))
  return (directive, ← c.restOfLine)

end RouteScript.Yaml
