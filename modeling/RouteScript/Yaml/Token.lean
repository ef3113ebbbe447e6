import RouteScript.Yaml.BlockScalar
import RouteScript.Yaml.Marker
import RouteScript.Yaml.QuotedScalar

/-!
# Tokens of a YAML document

Indentation and the line of a key become tokens of their own, so that the rules for nodes need to look
at tokens only. A key is recognised by the colon behind it: where a key can begin, the place is noted,
and when the colon comes the token of the key is put there.
-/

namespace RouteScript.Yaml

inductive Token where
  | directive (d : Directive)
  | documentStart
  | documentEnd
  | blockSequenceStart
  | blockMappingStart
  | blockEnd
  | flowSequenceStart
  | flowSequenceEnd
  | flowMappingStart
  | flowMappingEnd
  | blockEntry
  | flowEntry
  | key
  | value
  | alias (name : Text)
  | anchor (name : Text)
  | tag (t : WrittenTag)
  | scalar (text : Text) (plain : Bool)
  deriving DecidableEq, Repr

/-- A place where a key may have begun: the number of tokens before it, the place, and whether it has
to be a key, since nothing else can begin at the indentation of a block. -/
structure PossibleKey where
  count : Nat
  index : Nat
  line : Nat
  column : Nat
  required : Bool
  deriving Repr

/-- What reading tokens keeps: the place, the depth of flow collections, the indentation and those
around it, whether a key can begin here, the possible keys by depth, and the tokens, the last first. -/
structure Layout where
  cursor : Cursor
  depth : Nat
  indent : Int
  outer : List Int
  allowsKey : Bool
  keys : List (Nat × PossibleKey)
  tokens : List Token
  deriving Inhabited

abbrev Scanning := StateT Layout Reading

namespace Scanning

def place : Scanning Cursor := return (← get).cursor

def moveTo (c : Cursor) : Scanning Unit := modify fun s => { s with cursor := c }

def emit (t : Token) : Scanning Unit := modify fun s => { s with tokens := t :: s.tokens }

def allowKey (b : Bool) : Scanning Unit := modify fun s => { s with allowsKey := b }

def fail {α : Type} : Scanning α := fun s => s.cursor.fail

/-- A possible key of an earlier line, or of too far back, is none. -/
def dropStaleKeys : Scanning Unit := do
  let s ← get
  let isStale (k : PossibleKey) : Bool :=
    k.line ≠ s.cursor.line || 1024 < s.cursor.index - k.index
  if s.keys.any fun (_, k) => isStale k && k.required then fail
  set { s with keys := s.keys.filter fun (_, k) => !isStale k }

def dropKey : Scanning Unit := do
  let s ← get
  if (s.keys.lookup s.depth).any (·.required) then fail
  set { s with keys := s.keys.filter fun (depth, _) => depth ≠ s.depth }

def noteKey : Scanning Unit := do
  if (← get).allowsKey then
    dropKey
    modify fun s =>
      let c := s.cursor
      let required := s.depth = 0 && s.indent = c.column
      { s with keys := (s.depth, ⟨s.tokens.length, c.index, c.line, c.column, required⟩) :: s.keys }

def unwind (column : Int) : Scanning Unit :=
  modify fun s =>
    -- Inside a flow collection indentation means nothing.
    if s.depth ≠ 0 then s
    else
      let ended := (s.indent :: s.outer).takeWhile (column < ·)
      match (s.indent :: s.outer).dropWhile (column < ·) with
      | indent :: outer =>
        { s with
          indent, outer
          tokens := List.replicate ended.length .blockEnd ++ s.tokens }
      | [] => s

/-- Begins a block at `column`, unless it goes on with one. -/
def indentTo (column : Int) : Scanning Bool := do
  let s ← get
  if s.indent < column then
    set { s with indent := column, outer := s.indent :: s.outer }
    return true
  else return false

def emitAt (k : PossibleKey) (ts : List Token) : Scanning Unit :=
  modify fun s =>
    -- The last token stands first.
    let later := s.tokens.length - k.count
    { s with tokens := s.tokens.take later ++ ts.reverse ++ s.tokens.drop later }

def sign (n : Nat) (t : Token) : Scanning Unit := do
  moveTo ((← place).advanceBy n)
  emit t

def marker (n : Nat) (t : Token) : Scanning Unit := do
  unwind (-1)
  dropKey
  allowKey false
  sign n t

def opening (t : Token) : Scanning Unit := do
  noteKey
  modify fun s => { s with depth := s.depth + 1 }
  allowKey true
  sign 1 t

def closing (t : Token) : Scanning Unit := do
  dropKey
  if (← get).depth = 0 then fail
  modify fun s => { s with depth := s.depth - 1 }
  allowKey false
  sign 1 t

def beginBlock (t : Token) : Scanning Unit := do
  let s ← get
  if s.depth = 0 then
    if !s.allowsKey then fail
    if ← indentTo s.cursor.column then emit t

def blockEntry : Scanning Unit := do
  beginBlock .blockSequenceStart
  allowKey true
  dropKey
  sign 1 .blockEntry

def explicitKey : Scanning Unit := do
  beginBlock .blockMappingStart
  allowKey ((← get).depth = 0)
  dropKey
  sign 1 .key

/-- Takes the colon in front of a value. The possible key of this depth is one now. -/
def colon : Scanning Unit := do
  let s ← get
  match s.keys.lookup s.depth with
  | some k =>
    set { s with keys := s.keys.filter fun (depth, _) => depth ≠ s.depth }
    let begins ← if s.depth = 0 then indentTo k.column else pure false
    emitAt k (if begins then [.blockMappingStart, .key] else [.key])
    allowKey false
  | none =>
    beginBlock .blockMappingStart
    allowKey (s.depth = 0)
    dropKey
  sign 1 .value

def word {α : Type} (read : Cursor → Reading (α × Cursor)) (token : α → Token) : Scanning Unit := do
  noteKey
  allowKey false
  let (a, c) ← read (← place)
  moveTo c
  emit (token a)

def block (folded : Bool) : Scanning Unit := do
  allowKey true
  dropKey
  let s ← get
  let (text, c) ← blockScalar folded s.indent s.cursor
  moveTo c
  emit (.scalar text false)

def plain : Scanning Unit := do
  noteKey
  let s ← get
  let (text, broken, c) := plainScalar (s.depth ≠ 0) s.indent s.cursor
  allowKey broken
  moveTo c
  emit (.scalar text true)

def beginsPlain (depth : Nat) (c : Cursor) : Bool :=
  match c.rest with
  | [] => false
  | x :: _ =>
    !(isGap x || isOneOf "-?:,[]\x7b\x7d#&*!|>'\"%@`" x) ||
      (!c.gapAfter 1 &&
        (x = .char '-' || (depth = 0 && (x = .char '?' || x = .char ':'))))

/-- Skips spaces, comments and line ends. A key can begin in a new line of a block. -/
def skipGap : Nat → Scanning Unit
  | 0 => return ()
  | fuel + 1 => do
    let c := (← place).skipSpaces.skipComment
    if c.atLineEnd && c.rest ≠ [] then
      moveTo c.lineBreak.2
      if (← get).depth = 0 then allowKey true
      skipGap fuel
    else moveTo c

def next : Scanning Bool := do
  let c ← place
  skipGap (c.rest.length + 1)
  dropStaleKeys
  unwind (← place).column
  let s ← get
  let c := s.cursor
  let flow := s.depth ≠ 0
  let alone := c.gapAfter 1
  match c.rest with
  | [] =>
    unwind (-1)
    dropKey
    return false
  | x :: _ =>
    if x = .char '%' && c.column = 0 then
      unwind (-1)
      dropKey
      allowKey false
      let (d, c) ← directive c
      moveTo c
      emit (.directive d)
    else if c.column = 0 && c.seesMarker "---" then marker 3 .documentStart
    else if c.column = 0 && c.seesMarker "..." then marker 3 .documentEnd
    else if x = .char '[' then opening .flowSequenceStart
    else if x = .char '\x7b' then opening .flowMappingStart
    else if x = .char ']' then closing .flowSequenceEnd
    else if x = .char '\x7d' then closing .flowMappingEnd
    else if x = .char ',' then
      allowKey true
      dropKey
      sign 1 .flowEntry
    else if x = .char '-' && alone then blockEntry
    else if x = .char '?' && (flow || alone) then explicitKey
    else if x = .char ':' && (flow || alone) then colon
    else if x = .char '*' then word anchorName .alias
    else if x = .char '&' then word anchorName .anchor
    else if x = .char '!' then word writtenTag .tag
    else if x = .char '|' && !flow then block false
    else if x = .char '>' && !flow then block true
    else if x = .char '\'' then word (quotedScalar false) (.scalar · false)
    else if x = .char '"' then word (quotedScalar true) (.scalar · false)
    else if beginsPlain s.depth c then plain
    else fail
    return true

/-- All tokens. Every one takes a code point at least. -/
def all : Nat → Scanning Unit
  | 0 => return ()
  | fuel + 1 => do if ← next then all fuel

end Scanning

/-- The tokens of a document. A mark of the byte order may stand at its beginning. -/
def tokens (t : Text) : Reading (List Token) := do
  if !t.all isAcceptable then throw (.format .unprintable)
  let c := Cursor.start t
  let c := if c.sees '\ufeff' then c.advance else c
  let start : Layout := ⟨c, 0, -1, [], true, [], []⟩
  let (_, s) ← (Scanning.all (t.length + 1)).run start
  return s.tokens.reverse

end RouteScript.Yaml
