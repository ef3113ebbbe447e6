import RouteScript.Number.Shortest
import RouteScript.Text.LetterCase
import RouteScript.Yaml.Node

/-!
# Values of a YAML document

`readValue` gives the value of the one document that a text holds. Binary values are written in base
64, with six bits to a character: characters that write no bits are passed over, and a complete padding
ends the data.
-/

namespace RouteScript.Yaml

namespace Base64

def sextet? (c : CodePoint) : Option Nat :=
  if c.inRange 0x41 0x5A then some (c.toNat - 0x41)
  else if c.inRange 0x61 0x7A then some (c.toNat - 0x61 + 26)
  else if c.isAsciiDigit then some (c.toNat - 0x30 + 52)
  else if c = .char '+' then some 62
  else if c = .char '/' then some 63
  else none

/-- Reads on after `count` characters of a group of four, whose bits not yet in a byte are `left`, and
`pads` signs of padding. -/
def decodeFrom (count left pads : Nat) : Text → Option Bytes
  | [] => if count = 0 then some [] else none
  | c :: t =>
    if c = .char '=' then
      if 2 ≤ count ∧ 4 ≤ count + pads + 1 then some []
      else decodeFrom count left (if 2 ≤ count then pads + 1 else pads) t
    else
      match sextet? c with
      | none => decodeFrom count left pads t
      | some bits =>
        let byte (n : Nat) : UInt8 := UInt8.ofNat n
        match count with
        | 0 => decodeFrom 1 bits 0 t
        | 1 => (decodeFrom 2 (bits % 16) 0 t).map (byte (left * 4 + bits / 16) :: ·)
        | 2 => (decodeFrom 3 (bits % 4) 0 t).map (byte (left * 16 + bits / 4) :: ·)
        | _ => (decodeFrom 0 0 0 t).map (byte (left * 64 + bits) :: ·)

def decode? (t : Text) : Option Bytes :=
  if t.all fun c => c.toNat < 0x80 then decodeFrom 0 0 0 t else none

end Base64

/-- A value. Of a date only that it is one is kept. -/
inductive Value where
  | null
  | boolean (b : Bool)
  | integer (n : Int)
  | real (x : Binary64)
  | text (t : Text)
  | binary (bytes : Bytes)
  | moment
  | sequence (items : List Value)
  | mapping (entries : List (Value × Value))
  | set (members : List Value)
  deriving Repr, Inhabited

namespace Value

def isKey : Value → Bool
  | .sequence _ | .mapping _ | .set _ => false
  | _ => true

def isNothing : Value → Bool
  | .null => true
  | .boolean b => !b
  | .integer n => n = 0
  | .real x => x.isZero
  | .text t => t.isEmpty
  | .binary bytes => bytes.isEmpty
  | .moment => false
  | .sequence items => items.isEmpty
  | .mapping entries => entries.isEmpty
  | .set members => members.isEmpty

def isText (t : Text) : Value → Bool
  | .text u => t = u
  | _ => false

end Value

def entryOf (key : Text) (entries : List (Value × Value)) : Value :=
  ((entries.reverse.find? fun e => e.1.isText key).map Prod.snd).getD .null

/-! ### Scalars -/

def signed (t : Text) : Except ValueFault (Bool × Text) :=
  let t := t.filter (· ≠ .char '_')
  if t = [] then .error .emptyNumeral else .ok (Numeral.sign t)

def integerIn (base : Nat) (t : Text) : Except ValueFault Int :=
  (Numeral.integer base t).mapError .numeral

def sixties (parts : List Int) : Int := parts.foldl (fun n part => 60 * n + part) 0

def integerOf (t : Text) : Except ValueFault Int := do
  let (negative, digits) ← signed t
  let n ← match digits with
    | [.char '0'] => pure 0
    | .char '0' :: .char 'b' :: rest => integerIn 2 rest
    | .char '0' :: .char 'x' :: rest => integerIn 16 rest
    | .char '0' :: _ => integerIn 8 digits
    | [] => throw .emptyNumeral
    | _ =>
      if digits.contains (.char ':') then do
        let parts ← (Text.parts (.char ':') digits).mapM (integerIn 10)
        pure (sixties parts)
      else integerIn 10 digits
  return if negative then -n else n

def fractionOf (t : Text) : Except ValueFault Binary64 := (Numeral.real t).mapError .numeral

/-- The rounded sum of the parts of a number in base sixty, the last part first. -/
def sixtiesReal (sum : Binary64) (base : Nat) : List Binary64 → Except ValueFault Binary64
  | [] => .ok sum
  | part :: rest =>
    match Binary64.ofNat base with
    | .infinite _ => .error .oversizedBase
    | factor => sixtiesReal (sum.add (part.mul factor)) (60 * base) rest

def realOf (t : Text) : Except ValueFault Binary64 := do
  let lower : Text := t.map fun c => .ofNat (lowerCase c.toNat)
  let (negative, digits) ← signed lower
  if digits = ".nan" then return .undefined
  let x ←
    if digits = ".inf" then pure (.infinite false)
    else if digits.contains (.char ':') then do
      let parts ← (Text.parts (.char ':') digits).mapM fractionOf
      sixtiesReal (.zero false) 1 parts.reverse
    else fractionOf digits
  return if negative then x.neg else x

def booleanOf (t : Text) : Except ValueFault Bool :=
  let lower : Text := t.map fun c => .ofNat (lowerCase c.toNat)
  if Tag.trueWords.contains lower then .ok true
  else if Tag.falseWords.contains lower then .ok false
  else .error (.truth lower)

def momentOf (t : Text) : Except ValueFault Unit :=
  match Moment.ofText? t with
  | none => .error .noMoment
  | some m => m.check.mapError .moment

def wrongTag {α : Type} (tag : Tag) : Reading α :=
  throw <| .format <| match tag with
    | .merge | .default | .other _ => .unknownTag tag.name
    | _ => .wrongKind tag.name

def scalarValue (tag : Tag) (t : Text) : Reading Value :=
  let lift {α : Type} (r : Except ValueFault α) (f : α → Value) : Reading Value :=
    (r.map f).mapError .value
  match tag with
  | .null => .ok .null
  | .boolean => lift (booleanOf t) .boolean
  | .integer => lift (integerOf t) .integer
  | .real => lift (realOf t) .real
  | .binary =>
    match Base64.decode? t with
    | some bytes => .ok (.binary bytes)
    | none => .error (.format .wrongBinary)
  | .moment => lift (momentOf t) fun _ => .moment
  | .text => .ok (.text t)
  | tag => wrongTag tag

/-! ### Collections -/

mutual

/-- The text of a node that a scalar is asked of: of a mapping, that of its default entry. -/
def Node.scalarText? : Node → Option Text
  | .scalar _ text => some text
  | .mapping _ entries => defaultText? entries
  | _ => none

def defaultText? : List (Node × Node) → Option Text
  | [] => none
  | (.scalar .default _, value) :: _ => value.scalarText?
  | _ :: rest => defaultText? rest

end

def Node.isMerge : Node → Bool
  | .scalar .merge _ => true
  | _ => false

mutual

def Node.value : Node → Reading Value
  | .scalar tag text => scalarValue tag text
  | .sequence tag items =>
    match tag with
    | .sequence => return .sequence (← valuesOf items)
    | .pairs | .orderedMap => return .sequence (← pairsOf items)
    | _ => wrongTag tag
  | .mapping tag entries =>
    match tag with
    | .mapping => return .mapping (← entriesOf entries)
    | .set => return .set ((← entriesOf entries).map Prod.fst)
    | .sequence | .pairs | .orderedMap => wrongTag tag
    | _ =>
      match defaultText? entries with
      | some text => scalarValue tag text
      | none => wrongTag tag
  | .enclosing => .ok (.mapping [])

def valuesOf : List Node → Reading (List Value)
  | [] => .ok []
  | n :: rest => return (← n.value) :: (← valuesOf rest)

def pairsOf : List Node → Reading (List Value)
  | [] => .ok []
  | .mapping _ [(key, value)] :: rest => do
    let pair := Value.sequence [← key.value, ← value.value]
    return pair :: (← pairsOf rest)
  | _ :: _ => .error (.format (.wrongKind Tag.orderedMap.name))

/-- The entries of a mapping, in front of them those that are merged into it. -/
def entriesOf (entries : List (Node × Node)) : Reading (List (Value × Value)) :=
  return (← mergedOf entries) ++ (← ownOf entries)

def mergedOf : List (Node × Node) → Reading (List (Value × Value))
  | [] => .ok []
  | (key, value) :: rest =>
    if key.isMerge then return (← value.entries) ++ (← mergedOf rest) else mergedOf rest

def ownOf : List (Node × Node) → Reading (List (Value × Value))
  | [] => .ok []
  | (key, value) :: rest =>
    if key.isMerge then ownOf rest
    else do
      let k ← match key with
        | .scalar .default text => pure (.text text)
        | key => key.value
      if !k.isKey then throw (.format .collectionKey)
      let v ← value.value
      return (k, v) :: (← ownOf rest)

/-- The entries of a mapping to merge, or of several, the first of which counts most. -/
def Node.entries : Node → Reading (List (Value × Value))
  | .mapping _ entries => entriesOf entries
  | .sequence _ items => allEntries items
  | .enclosing => .ok []
  | .scalar .. => .error (.format .wrongMerge)

def allEntries : List Node → Reading (List (Value × Value))
  | [] => .ok []
  | .mapping _ entries :: rest => do
    let first ← entriesOf entries
    return (← allEntries rest) ++ first
  | .enclosing :: rest => allEntries rest
  | _ :: _ => .error (.format .wrongMerge)

end

def readValue (t : Text) : Reading Value := do
  match ← readNode t with
  | some n => n.value
  | none => return .null

end RouteScript.Yaml
