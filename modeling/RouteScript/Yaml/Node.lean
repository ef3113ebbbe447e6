import RouteScript.Yaml.Tag
import RouteScript.Yaml.Token

/-!
# Nodes of a YAML document

The tokens of a document as a tree. An alias is replaced by the node that its anchor names, except
inside that node itself.
-/

namespace RouteScript.Yaml

/-- A node. `enclosing` is an alias of a collection that it stands in. -/
inductive Node where
  | scalar (tag : Tag) (text : Text)
  | sequence (tag : Tag) (items : List Node)
  | mapping (tag : Tag) (entries : List (Node × Node))
  | enclosing
  deriving Repr, Inhabited

/-- What reading nodes keeps: the tokens that are left, what the handles of tags stand for, and the
nodes that have anchors, without those that are still being read. -/
structure Stream where
  tokens : List Token
  handles : List (Text × Text)
  anchors : List (Text × Option Node)

abbrev Parsing := StateT Stream Reading

namespace Parsing

def misplaced {α : Type} : Parsing α := throw (.format .misplaced)

def peek : Parsing (Option Token) := return (← get).tokens.head?

def pass : Parsing Unit := modify fun s => { s with tokens := s.tokens.tail }

def sees (ts : List Token) : Parsing Bool := return (← peek).any ts.contains

def passes (t : Token) : Parsing Bool := do
  if ← sees [t] then
    pass
    return true
  else return false

def expect (t : Token) : Parsing Unit := do if !(← passes t) then misplaced

def fuel : Parsing Nat := return (← get).tokens.length + 1

def emptyNode : Node := .scalar .null []

def tagName (t : WrittenTag) : Parsing Text := do
  match t.handle with
  | none => return t.rest
  | some handle =>
    match (← get).handles.lookup handle with
    | some stands => return stands ++ t.rest
    | none => throw (.format (.unknownHandle handle))

def anchor? : Parsing (Option Text) := do
  match ← peek with
  | some (.anchor name) =>
    pass
    return some name
  | _ => return none

def tag? : Parsing (Option WrittenTag) := do
  match ← peek with
  | some (.tag t) =>
    pass
    return some t
  | _ => return none

def properties : Parsing (Option Text × Option Text) := do
  let first ← anchor?
  let tag ← tag?
  -- The anchor may stand on either side of the tag.
  let second ← if first.isNone && tag.isSome then anchor? else pure none
  let name ← match tag with
    | some t => do
      let name ← tagName t
      pure (some name)
    | none => pure none
  return (first <|> second, name)

def tagOr (standard : Tag) (name : Option Text) : Tag :=
  match name with
  | none => standard
  | some name => if name = "!" then standard else .ofName name

/-- The tag of a scalar. A lone mark has it taken for a plain one. -/
def scalarTag (name : Option Text) (text : Text) (plain : Bool) : Tag :=
  if plain || name = some "!" then tagOr (.ofPlain text) name else tagOr .text name

/-- Reads a node: in a block or not, and with or without sequences that are not indented. -/
abbrev NodeRule := Bool → Bool → Parsing Node

def nodeUnless (node : Parsing Node) (ends : List Token) : Parsing Node := do
  if ← sees ends then return emptyNode else node

def blockItems (self : NodeRule) : Nat → Parsing (List Node)
  | 0 => misplaced
  | fuel + 1 => do
    if ← passes .blockEntry then
      let item ← nodeUnless (self true false) [.blockEntry, .blockEnd]
      return item :: (← blockItems self fuel)
    expect .blockEnd
    return []

/-- The entries of a sequence at the indentation of its mapping. -/
def levelItems (self : NodeRule) : Nat → Parsing (List Node)
  | 0 => misplaced
  | fuel + 1 => do
    if ← passes .blockEntry then
      let item ← nodeUnless (self true false) [.blockEntry, .key, .value, .blockEnd]
      return item :: (← levelItems self fuel)
    return []

def blockEntries (self : NodeRule) : Nat → Parsing (List (Node × Node))
  | 0 => misplaced
  | fuel + 1 => do
    let ends := [Token.key, .value, .blockEnd]
    if ← passes .key then
      let key ← nodeUnless (self true true) ends
      let value ← if ← passes .value then nodeUnless (self true true) ends else pure emptyNode
      return (key, value) :: (← blockEntries self fuel)
    expect .blockEnd
    return []

def flowValue (self : NodeRule) (last : Token) : Parsing Node := do
  if ← passes .value then nodeUnless (self false false) [.flowEntry, last] else return emptyNode

def flowKey (self : NodeRule) (last : Token) : Parsing Node :=
  nodeUnless (self false false) [.value, .flowEntry, last]

/-- The entries of a flow sequence, its end taken. An entry with a key is a mapping. -/
def flowItems (self : NodeRule) (first : Bool) : Nat → Parsing (List Node)
  | 0 => misplaced
  | fuel + 1 => do
    let last := Token.flowSequenceEnd
    if ← passes last then return []
    if !first then expect .flowEntry
    if ← passes .key then
      let key ← flowKey self last
      let value ← flowValue self last
      return .mapping .mapping [(key, value)] :: (← flowItems self false fuel)
    -- A comma may stand before the end.
    if ← passes last then return []
    let item ← self false false
    return item :: (← flowItems self false fuel)

/-- The entries of a flow mapping, its end taken. An entry without a key is a key alone. -/
def flowEntries (self : NodeRule) (first : Bool) : Nat → Parsing (List (Node × Node))
  | 0 => misplaced
  | fuel + 1 => do
    let last := Token.flowMappingEnd
    if ← passes last then return []
    if !first then expect .flowEntry
    if ← passes .key then
      let key ← flowKey self last
      let value ← flowValue self last
      return (key, value) :: (← flowEntries self false fuel)
    -- A comma may stand before the end.
    if ← passes last then return []
    let key ← self false false
    return (key, emptyNode) :: (← flowEntries self false fuel)

def content (self : NodeRule) (block level : Bool) (name : Option Text) (isNamed : Bool) :
    Parsing Node := do
  let sequenceTag := tagOr .sequence name
  let mappingTag := tagOr .mapping name
  match ← peek with
  | some (.scalar text plain) =>
    pass
    return .scalar (scalarTag name text plain) text
  | some .flowSequenceStart =>
    pass
    return .sequence sequenceTag (← flowItems self true (← fuel))
  | some .flowMappingStart =>
    pass
    return .mapping mappingTag (← flowEntries self true (← fuel))
  | some t =>
    if level && t = .blockEntry then return .sequence sequenceTag (← levelItems self (← fuel))
    else if block && t = .blockSequenceStart then
      pass
      return .sequence sequenceTag (← blockItems self (← fuel))
    else if block && t = .blockMappingStart then
      pass
      return .mapping mappingTag (← blockEntries self (← fuel))
    else if isNamed then return .scalar (scalarTag name [] true) []
    else misplaced
  | none => if isNamed then return .scalar (scalarTag name [] true) [] else misplaced

def anchored (name : Text) : Parsing Node := do
  match (← get).anchors.lookup name with
  | some (some n) => return n
  | some none => return .enclosing
  | none => throw (.format (.unknownAnchor name))

/-- Gives a node its anchor: nothing while it is read, and the node afterwards. -/
def nameNode (name : Option Text) (n : Option Node) : Parsing Unit :=
  match name with
  | none => return ()
  | some name => modify fun s => { s with anchors := (name, n) :: s.anchors }

def node : Nat → NodeRule
  | 0, _, _ => misplaced
  | fuel + 1, block, level => do
    match ← peek with
    | some (.alias name) =>
      pass
      anchored name
    | _ =>
      let (name, tag) ← properties
      if let some a := name then
        if ((← get).anchors.lookup a).isSome then throw (.format (.repeatedAnchor a))
      nameNode name none
      let n ← content (node fuel) block level tag (name.isSome || tag.isSome)
      nameNode name (some n)
      return n

def standardHandles : List (Text × Text) := [("!", "!"), ("!!", Tag.standardFront)]

def directives (version : Bool) (handles : List (Text × Text)) :
    Nat → Parsing (List (Text × Text))
  | 0 => return handles
  | fuel + 1 => do
    match ← peek with
    | some (.directive d) =>
      pass
      match d with
      | .version major =>
        if version || major ≠ 1 then throw (.format .directive)
        directives true handles fuel
      | .handle name stands =>
        if (handles.lookup name).isSome then throw (.format .directive)
        directives version ((name, stands) :: handles) fuel
      | .unknown => directives version handles fuel
    | _ => return handles

def markedDocument : Parsing Node := do
  let handles ← directives false [] (← fuel)
  modify fun s => { s with handles := handles ++ standardHandles }
  expect .documentStart
  match ← peek with
  | none | some (.directive _) => return emptyNode
  | _ => nodeUnless (do node (← fuel) true false) [.documentStart, .documentEnd]

def ending : Nat → Parsing Unit
  | 0 => return ()
  | fuel + 1 => do
    if ← passes .documentEnd then ending fuel
    else if (← peek).isSome then throw (.format .severalDocuments)

def document : Parsing (Option Node) := do
  match ← peek with
  | none => return none
  | some first =>
    let isMarked := match first with
      | .directive _ | .documentStart => true
      | _ => false
    let n ← if isMarked then markedDocument else do node (← fuel) true false
    ending (← fuel)
    return some n

end Parsing

def readNode (t : Text) : Reading (Option Node) := do
  let ts ← tokens t
  let (n, _) ← Parsing.document.run ⟨ts, Parsing.standardHandles, []⟩
  return n

end RouteScript.Yaml
