import RouteScript.Xml.Element

/-!
# XML documents

`Document.read` reads the bytes of a document and gives its root element.
-/

namespace RouteScript.Xml

/-! ### Content -/

def addNode (n : Node) : List Frame → List Frame
  | [] => []
  | f :: outer => { f with children := n :: f.children } :: outer

def addText (s : Source) (frames : List Frame) : List Frame := addNode (.text (textOf s)) frames

def markedSection : Source → Except Fault (Source × Source)
  | .char 0x5D :: .char 0x5D :: .char 0x3E :: t => .ok ([], t)
  | [] => .error ⟨.unclosedCdata, []⟩
  | .char 0x0D :: .char 0x0A :: t => (markedSection t).map fun (text, rest) => (mark '\n' :: text, rest)
  | g :: t =>
    if g = .cut then .error ⟨.partialCharacter, g :: t⟩
    else if !g.isChar then .error ⟨.invalidToken, g :: t⟩
    else if g :: t = [mark ']'] ∨ g :: t = [mark ']', mark ']'] ∨ g :: t = [mark '\r'] then
      .error ⟨.unclosedCdata, g :: t⟩
    else
      (markedSection t).map fun (text, rest) =>
        ((if g = mark '\r' then mark '\n' else g) :: text, rest)

/-- How content ends: the root element is closed, or the text of an entity is over. -/
inductive ContentEnd where
  | closed (root : Node) (rest : Source)
  | over (frames : List Frame)

def isPlain : Glyph → Bool
  | .char n => n ≠ 0x3C && n ≠ 0x26 && n ≠ 0x5D && n ≠ 0x0D
  | _ => false

def marginal? (s : Source) : Option (Except Fault Source) :=
  match s with
  | .char 0x3C :: .char 0x21 :: .char 0x2D :: t => some ((comment t).mapError (·.fault s))
  | .char 0x3C :: .char 0x3F :: t => some do
    let (isXml, rest) ← (instruction t).mapError (·.fault s)
    if isXml then throw ⟨.misplacedDeclaration, s⟩
    return rest
  | _ => none

def openSection (s : Source) (t : Source) : Except Fault (Source × Source) :=
  let letters := "CDATA[".toList.map mark
  let found := t.take letters.length
  if found.length < letters.length then .error ⟨.unclosedToken, s⟩
  else if found = letters then markedSection (t.drop letters.length)
  else
    let same := ((found.zip letters).takeWhile fun (a, b) => a = b).length
    .error ⟨.invalidToken, t.drop same⟩

/-- Reads content. `expand` reads the text of an entity in the open elements, and there are `base` open
elements that this text may not close. -/
def contentWith (d : Doctype) (base : Nat)
    (expand : Text → Source → List Frame → Except Fault (List Frame)) :
    Nat → List Frame → Source → Except Fault ContentEnd
  | 0, _, s => .error ⟨.noElement, s⟩
  | _, frames, [] =>
    if base = 0 then .error ⟨.noElement, []⟩
    else if frames.length ≠ base then .error ⟨.asynchronousEntity, []⟩
    else .ok (.over frames)
  | fuel + 1, frames, .char 0x0D :: t => do
    if base = 0 ∧ t = [] then throw ⟨.noElement, mark '\r' :: t⟩
    let t := if t.head? = some (mark '\n') then t.tail else t
    contentWith d base expand fuel (addText [mark '\n'] frames) t
  | fuel + 1, frames, .char 0x5D :: t =>
    match t with
    | .char 0x5D :: .char 0x3E :: rest => .error ⟨.invalidToken, mark '>' :: rest⟩
    | _ => contentWith d base expand fuel (addText [mark ']'] frames) t
  | fuel + 1, frames, .char 0x26 :: t => do
    let s : Source := mark '&' :: t
    let (r, t) ← (reference t).mapError (·.fault s)
    match r with
    | .character n =>
      if isLegal n then contentWith d base expand fuel (addText [.char n] frames) t
      else throw ⟨.invalidCharacterNumber, s⟩
    | .entity name =>
      match predefined? name, d.entities.lookup name with
      | some c, _ => contentWith d base expand fuel (addText [mark c] frames) t
      | none, none =>
        throw ⟨if d.isComplete then .undefinedEntity else .unresolvedEntity name, s⟩
      | none, some ⟨_, true⟩ => throw ⟨.binaryEntity, s⟩
      | none, some ⟨none, false⟩ => throw ⟨.unresolvedEntity name, s⟩
      | none, some ⟨some text, false⟩ =>
        let frames ← (expand name text frames).mapError fun f => ⟨f.cause, s⟩
        contentWith d base expand fuel frames t
  | fuel + 1, frames, .char 0x3C :: .char 0x2F :: t => do
    let s : Source := mark '<' :: mark '/' :: t
    let (tag, rest) ← (endTag t).mapError (·.fault s)
    if frames.length = base then throw ⟨.asynchronousEntity, s⟩
    match frames with
    | [] => throw ⟨.asynchronousEntity, s⟩
    | f :: outer =>
      if f.tag ≠ tag then throw ⟨.tagMismatch, t⟩
      if outer = [] then return .closed f.close rest
      contentWith d base expand fuel (addNode f.close outer) rest
  | fuel + 1, frames, .char 0x3C :: .char 0x21 :: .char 0x5B :: t => do
    let (text, rest) ← openSection (mark '<' :: mark '!' :: mark '[' :: t) t
    contentWith d base expand fuel (addText text frames) rest
  | fuel + 1, frames, .char 0x3C :: t => do
    let s : Source := mark '<' :: t
    match marginal? s with
    | some rest => contentWith d base expand fuel frames (← rest)
    | none =>
      if t.head? = some (mark '!') then throw ((missing t.tail).fault s)
      let (tag, rest) ← (startTag t).mapError (·.fault s)
      let bindings := (frames.head?.map (·.bindings)).getD firstBindings
      let f ← openElement d bindings s tag
      if tag.isEmpty then
        if frames = [] then return .closed f.close rest
        contentWith d base expand fuel (addNode f.close frames) rest
      else contentWith d base expand fuel (f :: frames) rest
  | fuel + 1, frames, g :: t =>
    match g with
    | .char _ =>
      contentWith d base expand fuel (addText (g :: t.takeWhile isPlain) frames) (t.dropWhile isPlain)
    | .illegal | .broken => .error ⟨.invalidToken, g :: t⟩
    | .cut => .error ⟨.partialCharacter, g :: t⟩

/-- Reads the text of an entity in the open elements. The entities in `opened` are being expanded, and
`depth` bounds how many there can be. -/
def expandInContent (d : Doctype) :
    Nat → List Text → Text → Source → List Frame → Except Fault (List Frame)
  | 0, _, _, _, _ => .error ⟨.recursiveEntity, []⟩
  | depth + 1, opened, name, text, frames => do
    if opened.contains name then throw ⟨.recursiveEntity, []⟩
    let expand := expandInContent d depth (name :: opened)
    match ← contentWith d frames.length expand (text.length + 1) frames text with
    | .over frames => return frames
    | .closed _ _ => throw ⟨.asynchronousEntity, []⟩

def rootElement (d : Doctype) (s : Source) : Except Fault (Node × Source) := do
  let expand := expandInContent d (d.entities.length + 1) []
  match ← contentWith d 0 expand (s.length + 1) [] s with
  | .closed root rest => return (root, rest)
  | .over _ => throw ⟨.noElement, []⟩

/-! ### The declaration of a document -/

structure Pseudo where
  name : Text
  nameRest : Source
  value : Text
  valueRest : Source

def isPseudoValue : Glyph → Bool
  | .char n =>
    let c := CodePoint.ofNat n
    c.isAsciiLetter || c.isAsciiDigit || c = .char '.' || c = .char '-' || c = .char '_'
  | _ => false

def isPseudoName (g : Glyph) : Bool :=
  match g with
  | .char n => n < 0x80 && !isSpace g && g ≠ mark '='
  | _ => false

/-- The next attribute of the declaration, if there is one. A fault is the rest from where it is. -/
def pseudo (s : Source) : Except Source (Option Pseudo × Source) := do
  if s = [] then return (none, [])
  if !s.head?.any isSpace then throw s
  let start := s.dropWhile isSpace
  if start = [] then return (none, [])
  let name := start.takeWhile isPseudoName
  let t := (start.dropWhile isPseudoName).dropWhile isSpace
  match t with
  | .char 0x3D :: t' =>
    if name = [] then throw t
    let t := t'.dropWhile isSpace
    match t with
    | q :: value =>
      if q ≠ mark '"' ∧ q ≠ mark '\'' then throw t
      let rest := value.dropWhile isPseudoValue
      if rest.head? ≠ some q then throw rest
      return (some ⟨textOf name, start, textOf (value.takeWhile isPseudoValue), value⟩, rest.tail)
    | [] => throw []
  | _ => throw t

/-- The encoding and whether the document stands alone, as far as the declaration says so. The encoding
comes with the rest from its name on. -/
structure Declared where
  encoding : Option (Text × Source)
  standalone : Bool

def declaredStandalone (encoding : Option (Text × Source)) (p : Pseudo) (rest : Source) :
    Except Source Declared := do
  if p.name ≠ "standalone" then throw p.nameRest
  if p.value ≠ "yes" ∧ p.value ≠ "no" then throw p.valueRest
  let rest := rest.dropWhile isSpace
  if rest ≠ [] then throw rest
  return ⟨encoding, p.value = "yes"⟩

def declared (s : Source) : Except Source Declared := do
  match ← pseudo s with
  | (none, _) => throw s
  | (some version, s) =>
    if version.name ≠ "version" then throw version.nameRest
    match ← pseudo s with
    | (none, _) => return ⟨none, false⟩
    | (some second, s) =>
      if second.name = "encoding" then
        let letter := match second.valueRest with
          | .char n :: _ => (CodePoint.ofNat n).isAsciiLetter
          | _ => false
        if !letter then throw second.valueRest
        let encoding := some (second.value, second.valueRest)
        match ← pseudo s with
        | (none, _) => return ⟨encoding, false⟩
        | (some third, s) => declaredStandalone encoding third s
      else declaredStandalone none second s

/-- The encodings by their names, which are compared without regard to case. An encoding of two bytes
that the document already shows can be named without its order. -/
def Encoding.ofName? (current : Encoding) (name : Text) : Option Encoding :=
  let lower := Text.asciiLower name
  let plain := Text.replaceEach (.char '_') (.char '-') lower
  let isOneOf (names : List Text) : Bool := names.contains plain
  if lower = "utf-8" then some .utf8
  else if lower = "utf-16" then some (if current = .utf16 false then current else .utf16 true)
  else if lower = "utf-16be" then some (.utf16 true)
  else if lower = "utf-16le" then some (.utf16 false)
  else if isOneOf ["iso-8859-1", "latin1", "latin-1", "iso8859-1", "8859", "cp819", "l1"] then
    some .latin1
  else if isOneOf ["us-ascii", "ascii", "646", "utf8", "utf", "u8"] then some .ascii
  else none

def Encoding.isWide : Encoding → Bool
  | .utf16 _ => true
  | _ => false

/-! ### Documents -/

inductive DocumentFault where
  | unknownEncoding (name : Text)
  | malformed (document : Source) (fault : Fault)

def DocumentFault.message : DocumentFault → Text
  | .unknownEncoding name => "unknown encoding: " ++ name
  | .malformed document fault => fault.message document

def prolog (d : Doctype) (hasDoctype : Bool) : Nat → Source → Except Fault (Source × Doctype)
  | 0, _ => .error ⟨.noElement, []⟩
  | fuel + 1, s => do
    if s = [] then throw ⟨.noElement, []⟩
    let (t, rest) ← (prologToken s).mapError (·.fault s)
    match t with
    | .space | .comment | .instruction => prolog d hasDoctype fuel rest
    | .elementStart => return (s, d)
    | .declaration => throw ⟨.misplacedDeclaration, s⟩
    | .parameterReference => throw ⟨.parameterReference, s⟩
    | .opening word =>
      if word = "DOCTYPE" ∧ !hasDoctype then
        let (_, after) ← DoctypeReader.declaration.run ⟨rest, d⟩
        prolog after.doctype true fuel after.rest
      else throw ⟨.unexpected, s⟩
    | _ => throw ⟨.unexpected, s⟩

def epilog : Nat → Source → Except Fault Unit
  | 0, _ => .ok ()
  | fuel + 1, s => do
    if s = [] then return ()
    let (t, rest) ← (prologToken s).mapError (·.fault s)
    match t with
    | .space | .comment | .instruction => epilog fuel rest
    | _ => throw ⟨.junkAfterRoot, s⟩

def body (standalone : Bool) (s : Source) : Except Fault Node := do
  let d : Doctype := ⟨[], [], false, standalone, true⟩
  let (s, d) ← prolog d false (s.length + 1) s
  let (root, rest) ← rootElement d s
  epilog (rest.length + 1) rest
  return root

def byteOrderMark : Glyph := .char 0xFEFF

def isCutOff (bytes : Bytes) : Bool := bytes = [0xFE] || bytes = [0xFF] || bytes = [0xEF] || bytes = [0x00]

/-- Reads the document after its declaration, whose content and rest are given. It may change the
encoding; `skipped` is the number of bytes up to the rest. -/
def afterDeclaration (bytes : Bytes) (current : Encoding) (document start content rest : Source)
    (skipped : Nat) : Except DocumentFault Node := do
  let fault (cause : Cause) (inside : Source) : DocumentFault :=
    .malformed document ⟨cause, placeIn (start.drop 5) content.length inside⟩
  let found ← (declared content).mapError (fault .malformedDeclaration)
  match found.encoding with
  | none => (body found.standalone rest).mapError (.malformed document)
  | some (name, place) =>
    match current.ofName? name with
    | none => throw (.unknownEncoding name)
    | some encoding =>
      if encoding.isWide ≠ current.isWide ∨ (encoding.isWide ∧ encoding ≠ current) then
        throw (fault .wrongEncoding place)
      else if encoding = current then
        (body found.standalone rest).mapError (.malformed document)
      else
        let document := encoding.decode bytes
        (body found.standalone (document.drop skipped)).mapError (.malformed document)

def readDocument (bytes : Bytes) : Except DocumentFault Node :=
  let encoding := Encoding.detect bytes
  let document := encoding.decode bytes
  let start := if document.head? = some byteOrderMark then document.tail else document
  if isCutOff bytes then .error (.malformed document ⟨.unclosedToken, document⟩)
  else
    match after? "<?" start with
    | some t =>
      match instruction t with
      | .ok (true, rest) =>
        let content := (start.take (start.length - rest.length - 2)).drop 5
        let mark := if start.length = document.length then 0 else 3
        afterDeclaration bytes encoding document start content rest
          (mark + (start.length - rest.length))
      | _ => (body false start).mapError (.malformed document)
    | none => (body false start).mapError (.malformed document)

end RouteScript.Xml
