import RouteScript.Xml.Prolog

/-!
# Document type declarations

A document type declaration defines entities and gives attributes their types and default values.
Declarations are read up to a reference to a parameter entity, whose text might change what the
following ones mean.
-/

namespace RouteScript.Xml

/-- An entity: its replacement text, when it stands in the document, and whether it is no text. -/
structure Entity where
  text : Option Source
  isBinary : Bool
  deriving DecidableEq, Repr

/-- What is declared of an attribute of an element: whether its value is kept as it is, and its
default. -/
structure AttributeRule where
  element : Option Text × Text
  name : Option Text × Text
  keepsBlanks : Bool
  value : Option Text
  deriving DecidableEq, Repr

structure Doctype where
  entities : List (Text × Entity)
  rules : List AttributeRule
  isIncomplete : Bool
  isStandalone : Bool
  isReading : Bool
  deriving DecidableEq, Repr

def Doctype.isComplete (d : Doctype) : Bool := !d.isIncomplete || d.isStandalone

/-! ### Values -/

/-- What is wrong with a value, and where, unless it is somewhere in the text of an entity. -/
structure ValueFault where
  cause : Cause
  rest : Option Source

def Trouble.valueFault (start : Source) (t : Trouble) : ValueFault :=
  match t with
  | .wrong rest => ⟨.invalidToken, some rest⟩
  | _ => ⟨.invalidToken, some start⟩

/-- Adds a blank to a value, whose last character comes first. A value that does not keep its blanks
has none at its beginning and no two in a row. -/
def addBlank (keeps : Bool) (done : Text) : Text :=
  if !keeps && (done = [] || done.head? = some (.char ' ')) then done else .char ' ' :: done

def addNumber (keeps : Bool) (n : Nat) (done : Text) : Text :=
  if n = 0x20 && !keeps then addBlank false done else CodePoint.ofNat n :: done

/-- Reads the value of an attribute. Line ends and tabs become blanks, and `expand` adds the text of an
entity of the given name and text. -/
def valueWith (d : Doctype) (keeps : Bool)
    (expand : Text → Source → Text → Except ValueFault Text) :
    Nat → Text → Source → Except ValueFault Text
  | 0, done, _ => .ok done
  | _, done, [] => .ok done
  | fuel + 1, done, .char 0x0D :: .char 0x0A :: t =>
    valueWith d keeps expand fuel (addBlank keeps done) t
  | fuel + 1, done, .char 0x26 :: t => do
    let s : Source := mark '&' :: t
    let (r, t) ← (reference t).mapError (·.valueFault s)
    match r with
    | .character n =>
      if isLegal n then valueWith d keeps expand fuel (addNumber keeps n done) t
      else .error ⟨.invalidCharacterNumber, some s⟩
    | .entity name =>
      match predefined? name, d.entities.lookup name with
      | some c, _ => valueWith d keeps expand fuel (.char c :: done) t
      | none, none =>
        if d.isComplete then .error ⟨.undefinedEntity, none⟩
        else valueWith d keeps expand fuel done t
      | none, some ⟨_, true⟩ => .error ⟨.binaryEntity, some s⟩
      | none, some ⟨none, false⟩ => .error ⟨.externalEntityInAttribute, some s⟩
      | none, some ⟨some text, false⟩ => do
        valueWith d keeps expand fuel (← expand name text done) t
  | fuel + 1, done, .char n :: t =>
    if n = 0x3C then .error ⟨.invalidToken, some (.char n :: t)⟩
    else if isSpace (.char n) then valueWith d keeps expand fuel (addBlank keeps done) t
    else valueWith d keeps expand fuel (CodePoint.ofNat n :: done) t
  | _, _, s => .error ⟨.invalidToken, some s⟩

/-- Adds the text of an entity to a value. The entities in `opened` are being expanded, and `depth`
bounds how many there can be. -/
def expandInValue (d : Doctype) (keeps : Bool) :
    Nat → List Text → Text → Source → Text → Except ValueFault Text
  | 0, _, _, _, _ => .error ⟨.recursiveEntity, none⟩
  | depth + 1, opened, name, text, done =>
    if opened.contains name then .error ⟨.recursiveEntity, none⟩
    else
      (valueWith d keeps (expandInValue d keeps depth (name :: opened)) (text.length + 1) done
        text).mapError fun f => ⟨f.cause, none⟩

def placeIn (value : Source) (length : Nat) (rest : Source) : Source :=
  value.drop (length - rest.length)

/-- The value of an attribute, which is the given number of characters long. A fault without a place
is at `start`. -/
def attributeValue (d : Doctype) (keeps : Bool) (start value : Source) (length : Nat) :
    Except Fault Text :=
  let written := value.take length
  let expand := expandInValue d keeps (d.entities.length + 1) []
  match valueWith d keeps expand (length + 1) [] written with
  | .ok done =>
    .ok (if !keeps && done.head? = some (.char ' ') then done.tail.reverse else done.reverse)
  | .error f => .error ⟨f.cause, (f.rest.map (placeIn value length)).getD start⟩

/-- The replacement text of an entity with the given literal. References to characters are replaced,
those to entities are kept. -/
def replacementText (fuel : Nat) (s : Source) : Except ValueFault Source :=
  match fuel with
  | 0 => .ok []
  | fuel + 1 =>
    match s with
    | [] => .ok []
    | .char 0x0D :: .char 0x0A :: t => (replacementText fuel t).map (mark '\n' :: ·)
    | .char 0x0D :: t => (replacementText fuel t).map (mark '\n' :: ·)
    | .char 0x26 :: t =>
      match reference t with
      | .error trouble => .error (trouble.valueFault s)
      | .ok (.character n, t) =>
        if isLegal n then (replacementText fuel t).map (.char n :: ·)
        else .error ⟨.invalidCharacterNumber, some s⟩
      | .ok (.entity name, t) =>
        (replacementText fuel t).map (mark '&' :: ofText name ++ mark ';' :: ·)
    | .char 0x25 :: t =>
      match percent t with
      | .ok (.percent, rest) => .error ⟨.invalidToken, some rest⟩
      | .ok _ => .error ⟨.parameterReference, some s⟩
      | .error trouble => .error (trouble.valueFault s)
    | g :: t => (replacementText fuel t).map (g :: ·)

/-! ### Reading declarations -/

structure DoctypeState where
  rest : Source
  doctype : Doctype

abbrev DoctypeReader := StateT DoctypeState (Except Fault)

namespace DoctypeReader

def token : DoctypeReader (PrologToken × Source) := do
  let s ← get
  let start := s.rest.dropWhile isSpace
  if start = [] then throw ⟨.noElement, []⟩
  match prologToken start with
  | .error trouble => throw (trouble.fault start)
  | .ok (t, rest) =>
    set { s with rest }
    return (t, start)

def refuse {α : Type} (t : PrologToken) (start : Source) : DoctypeReader α :=
  match t with
  | .parameterReference => throw ⟨.parameterReference, start⟩
  | .declaration => throw ⟨.misplacedDeclaration, start⟩
  | _ => throw ⟨.unexpected, start⟩

def learn (f : Doctype → Doctype) : DoctypeReader Unit :=
  modify fun s => if s.doctype.isReading then { s with doctype := f s.doctype } else s

def splitName (t : Text) : Option Text × Text :=
  match Text.cutFirst? (.char ':') t with
  | some (front, back) => (some front, back)
  | none => (none, t)

def plainName : DoctypeReader Text := do
  match ← token with
  | (.name t, _) => return t
  | (t, start) => refuse t start

def anyName : DoctypeReader (Option Text × Text) := do
  match ← token with
  | (.name t, _) | (.prefixedName t, _) => return splitName t
  | (t, start) => refuse t start

def anyLiteral : DoctypeReader (Source × Nat × Source) := do
  match ← token with
  | (.literal value length, start) => return (value, length, start)
  | (t, start) => refuse t start

def close : DoctypeReader Unit := do
  match ← token with
  | (.closing, _) => return ()
  | (t, start) => refuse t start

def isPublic : Glyph → Bool
  | .char n =>
    match CodePoint.ofNat? n with
    | some c => c.isAsciiLetter || c.isAsciiDigit ||
        " \r\n-'()+,./:=?;!*#@$_%".toList.any fun m => c = .char m
    | none => false
  | _ => false

def publicId : DoctypeReader Unit := do
  let (value, length, _) ← anyLiteral
  let written := value.take length
  let good := (written.takeWhile isPublic).length
  if good ≠ written.length then throw ⟨.malformedPublicId, value.drop good⟩

/-! ### Entities -/

/-- Declares an entity, unless it is declared already or stands in every document. -/
def declareEntity (name : Text) (e : Entity) : DoctypeReader Unit :=
  learn fun d =>
    if (predefined? name).isSome || (d.entities.lookup name).isSome then d
    else { d with entities := d.entities ++ [(name, e)] }

def entityLiteral (value : Source) (length : Nat) (start : Source) : DoctypeReader Source := do
  if (← get).doctype.isReading then
    match replacementText (length + 1) (value.take length) with
    | .ok text => return text
    | .error f => throw ⟨f.cause, (f.rest.map (placeIn value length)).getD start⟩
  else return []

def externalId (word : Text) (t : PrologToken) (start : Source) : DoctypeReader Unit := do
  if word = "SYSTEM" then
    let _ ← anyLiteral
  else if word = "PUBLIC" then
    publicId
    let _ ← anyLiteral
  else refuse t start

def entity : DoctypeReader Unit := do
  let (first, start) ← token
  let isParameter := first = .percent
  let name ← match first with
    | .percent => plainName
    | .name t => pure t
    | t => refuse t start
  match ← token with
  | (.literal value length, start) =>
    let text ← entityLiteral value length start
    if !isParameter then declareEntity name ⟨some text, false⟩
    close
  | (.name word, start) =>
    externalId word (.name word) start
    match ← token with
    | (.closing, _) => if !isParameter then declareEntity name ⟨none, false⟩
    | (.name word, start) =>
      if isParameter || word ≠ "NDATA" then refuse (.name word) start
      let _ ← plainName
      declareEntity name ⟨none, true⟩
      close
    | (t, start) => refuse t start
  | (t, start) => refuse t start

def notationDeclaration : DoctypeReader Unit := do
  let _ ← plainName
  let (t, start) ← token
  match t with
  | .name word =>
    if word = "SYSTEM" then
      let _ ← anyLiteral
      close
    else if word = "PUBLIC" then
      publicId
      match ← token with
      | (.closing, _) => return ()
      | (.literal _ _, _) => close
      | (t, start) => refuse t start
    else refuse t start
  | _ => refuse t start

/-! ### Attributes -/

def attributeTypes : List Text :=
  ["CDATA", "ID", "IDREF", "IDREFS", "ENTITY", "ENTITIES", "NMTOKEN", "NMTOKENS"]

def choices (onlyNames : Bool) : Nat → DoctypeReader Unit
  | 0 => do throw ⟨.noElement, []⟩
  | fuel + 1 => do
    let (t, start) ← token
    match t with
    | .name _ => pure ()
    | .prefixedName _ | .nameToken => if onlyNames then refuse t start
    | _ => refuse t start
    match ← token with
    | (.bar, _) => choices onlyNames fuel
    | (.closeParen .once, _) => return ()
    | (t, start) => refuse t start

def attributeType : DoctypeReader Bool := do
  let fuel := (← get).rest.length
  let (t, start) ← token
  match t with
  | .openParen =>
    choices false fuel
    return false
  | .name word =>
    if word = "NOTATION" then
      match ← token with
      | (.openParen, _) =>
        choices true fuel
        return false
      | (t, start) => refuse t start
    else if attributeTypes.contains word then return word = "CDATA"
    else refuse t start
  | _ => refuse t start

/-- Declares an attribute, unless it has a default already. -/
def declareAttribute (r : AttributeRule) : DoctypeReader Unit :=
  learn fun d =>
    if d.rules.any fun q => q.element = r.element && q.name = r.name && r.value.isSome then d
    else { d with rules := d.rules ++ [r] }

def defaultValue (element name : Option Text × Text) (keeps : Bool) (value : Source) (length : Nat)
    (start : Source) : DoctypeReader Unit := do
  let d := (← get).doctype
  if d.isReading then
    match attributeValue d keeps start value length with
    | .ok v => declareAttribute ⟨element, name, keeps, some v⟩
    | .error fault => throw fault

def attributeList (element : Option Text × Text) : Nat → DoctypeReader Unit
  | 0 => do throw ⟨.noElement, []⟩
  | fuel + 1 => do
    match ← token with
    | (.closing, _) => return ()
    | (.name t, _) | (.prefixedName t, _) =>
      let name := splitName t
      let keeps ← attributeType
      match ← token with
      | (.literal value length, start) => defaultValue element name keeps value length start
      | (.poundName word, start) =>
        if word = "FIXED" then
          let (value, length, start) ← anyLiteral
          defaultValue element name keeps value length start
        else if word = "IMPLIED" || word = "REQUIRED" then
          declareAttribute ⟨element, name, keeps, none⟩
        else refuse (.poundName word) start
      | (t, start) => refuse t start
      attributeList element fuel
    | (t, start) => refuse t start

/-! ### Elements -/

def mixedContent : Nat → Bool → DoctypeReader Unit
  | 0, _ => do throw ⟨.noElement, []⟩
  | fuel + 1, hasNames => do
    match ← token with
    | (.closeParen .anyNumber, _) => return ()
    | (.closeParen .once, start) => if hasNames then refuse (.closeParen .once) start
    | (.bar, _) =>
      let _ ← anyName
      mixedContent fuel true
    | (t, start) => refuse t start

/-- A content model inside its parentheses. For each open parenthesis there is the sign that stands
between its members, once there was one. `before` says that a member is expected. -/
def contentModel : Nat → Bool → List (Option PrologToken) → DoctypeReader Unit
  | 0, _, _ => do throw ⟨.noElement, []⟩
  | _, _, [] => return ()
  | fuel + 1, true, signs => do
    match ← token with
    | (.openParen, _) => contentModel fuel true (none :: signs)
    | (.name _, _) | (.prefixedName _, _) | (.countedName _, _) => contentModel fuel false signs
    | (t, start) => refuse t start
  | fuel + 1, false, sign :: outer => do
    match ← token with
    | (.closeParen _, _) => contentModel fuel false outer
    | (t, start) =>
      if (t = .comma ∨ t = .bar) ∧ (sign = none ∨ sign = some t) then
        contentModel fuel true (some t :: outer)
      else refuse t start

def element : DoctypeReader Unit := do
  let fuel := (← get).rest.length
  let _ ← anyName
  let (t, start) ← token
  match t with
  | .name word => if word ≠ "EMPTY" ∧ word ≠ "ANY" then refuse t start
  | .openParen =>
    match ← token with
    | (.poundName word, start) =>
      if word = "PCDATA" then mixedContent fuel false else refuse (.poundName word) start
    | (.openParen, _) => contentModel fuel true [none, none]
    | (.name _, _) | (.prefixedName _, _) | (.countedName _, _) => contentModel fuel false [none]
    | (t, start) => refuse t start
  | _ => refuse t start
  close

/-! ### The whole declaration -/

def internalSubset : Nat → DoctypeReader Unit
  | 0 => do throw ⟨.noElement, []⟩
  | fuel + 1 => do
    let (t, start) ← token
    match t with
    | .closeBracket => return ()
    | .comment | .instruction => internalSubset fuel
    | .parameterReference =>
      modify fun s => { s with doctype := { s.doctype with
        isIncomplete := true
        isReading := s.doctype.isStandalone } }
      internalSubset fuel
    | .opening word =>
      if word = "ENTITY" then entity
      else if word = "ATTLIST" then attributeList (← anyName) fuel
      else if word = "ELEMENT" then element
      else if word = "NOTATION" then notationDeclaration
      else refuse t start
      internalSubset fuel
    | _ => refuse t start

def subsetAndEnd : DoctypeReader Unit := do
  let fuel := (← get).rest.length
  match ← token with
  | (.closing, _) => return ()
  | (.openBracket, _) =>
    internalSubset fuel
    close
  | (t, start) => refuse t start

def incomplete : DoctypeReader Unit :=
  modify fun s => { s with doctype := { s.doctype with isIncomplete := true } }

def declaration : DoctypeReader Unit := do
  let fuel := (← get).rest.length
  let _ ← anyName
  let (t, start) ← token
  match t with
  | .closing => return ()
  | .openBracket =>
    internalSubset fuel
    close
  | .name word =>
    if word = "SYSTEM" ∨ word = "PUBLIC" then
      incomplete
      externalId word t start
      subsetAndEnd
    else refuse t start
  | _ => refuse t start

end DoctypeReader

end RouteScript.Xml
