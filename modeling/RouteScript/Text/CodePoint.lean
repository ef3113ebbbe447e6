/-!
# Text as code points

A script can name half of a surrogate pair, so text here is a list of code points rather than of
characters: every character is a code point, and so is each of the 2048 surrogates.
-/

namespace RouteScript

/-- A Unicode code point: a character, or the surrogate `0xD800 + offset`. -/
inductive CodePoint where
  | char (c : Char)
  | surrogate (offset : Fin 2048)
  deriving DecidableEq, Repr, Inhabited

abbrev Text := List CodePoint

def Text.ofString (s : String) : Text := s.toList.map .char

instance : Coe String Text := ⟨Text.ofString⟩

namespace CodePoint

def toNat : CodePoint → Nat
  | .char c => c.toNat
  | .surrogate offset => 0xD800 + offset.val

def ofNat? (n : Nat) : Option CodePoint :=
  if h : 0xD800 ≤ n ∧ n < 0xE000 then some (.surrogate ⟨n - 0xD800, by omega⟩)
  else if h' : n.isValidChar then some (.char (Char.ofNatAux n h'))
  else none

def ofNat (n : Nat) : CodePoint := (ofNat? n).getD (.char '�')

def inRange (first last : Nat) (c : CodePoint) : Bool :=
  decide (first ≤ c.toNat) && decide (c.toNat ≤ last)

def isAsciiDigit (c : CodePoint) : Bool := c.inRange 0x30 0x39

def isAsciiLetter (c : CodePoint) : Bool := c.inRange 0x41 0x5A || c.inRange 0x61 0x7A

def hexValue? (c : CodePoint) : Option Nat :=
  if c.isAsciiDigit then some (c.toNat - 0x30)
  else if c.inRange 0x41 0x46 then some (c.toNat - 0x37)
  else if c.inRange 0x61 0x66 then some (c.toNat - 0x57)
  else none

def octalValue? (c : CodePoint) : Option Nat :=
  if c.inRange 0x30 0x37 then some (c.toNat - 0x30) else none

def asciiLower (c : CodePoint) : CodePoint :=
  if c.inRange 0x41 0x5A then ofNat (c.toNat + 0x20) else c

end CodePoint

def inRanges (ranges : List (Nat × Nat)) (n : Nat) : Bool :=
  ranges.any fun (first, last) => decide (first ≤ n) && decide (n ≤ last)

namespace Text

def toDisplay (t : Text) : String :=
  String.ofList <| t.map fun
    | .char c => c
    | .surrogate _ => '�'

def ofNat (n : Nat) : Text := (Nat.toDigits 10 n).map .char

def ofInt : Int → Text
  | .ofNat n => ofNat n
  | .negSucc n => .char '-' :: ofNat (n + 1)

/-- Order by code points, the shorter text first where one begins the other. -/
def le : Text → Text → Bool
  | [], _ => true
  | _ :: _, [] => false
  | a :: s, b :: t =>
    if a.toNat < b.toNat then true else if b.toNat < a.toNat then false else le s t

def sortDistinct (ts : List Text) : List Text :=
  (ts.mergeSort le).foldr (fun t acc => if acc.head? = some t then acc else t :: acc) []

def after? (front t : Text) : Option Text := front.isPrefixOf? t

def startsWith (t front : Text) : Bool := front.isPrefixOf t

def parts (sep : CodePoint) : Text → List Text
  | [] => [[]]
  | c :: t =>
    if c = sep then [] :: parts sep t
    else match parts sep t with
      | [] => [[c]]
      | part :: rest => (c :: part) :: rest

def joinWith (sep : Text) : List Text → Text
  | [] => []
  | [t] => t
  | t :: ts => t ++ sep ++ joinWith sep ts

def cutFirst? (sep : CodePoint) : Text → Option (Text × Text)
  | [] => none
  | c :: t => if c = sep then some ([], t) else (cutFirst? sep t).map fun (a, b) => (c :: a, b)

def cutLast? (sep : CodePoint) : Text → Option (Text × Text)
  | [] => none
  | c :: t =>
    match cutLast? sep t with
    | some (a, b) => some (c :: a, b)
    | none => if c = sep then some ([], t) else none

def replaceEach (old new : CodePoint) (t : Text) : Text := t.map fun c => if c = old then new else c

def asciiLower (t : Text) : Text := t.map CodePoint.asciiLower

end Text

end RouteScript
