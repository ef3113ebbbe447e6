import RouteScript.Number.Binary64
import RouteScript.Script.Fault
import RouteScript.Text.Lines
import RouteScript.Text.Printable
import RouteScript.Text.WordCharacter

/-!
# Numerals

Reading integers and decimal fractions from text. Digits may be those of any script, and blanks around
a numeral do not count.
-/

namespace RouteScript

inductive NumeralFault where
  | noInteger (base : Nat) (t : Text)
  | oversizedInteger (digits : Nat)
  | noReal (t : Text)
  deriving DecidableEq, Repr

def maxQuotedLength : Nat := 200

def NumeralFault.message : NumeralFault → Text
  | .noInteger base t =>
    "invalid literal for int() with base " ++ Text.ofNat base ++ ": " ++
      (Text.quoted t).take maxQuotedLength
  | .oversizedInteger digits => oversizedIntegerMessage digits
  | .noReal t => "could not convert string to float: " ++ Text.quoted t

namespace Numeral

/-- A blank that may stand around a numeral: all but the information separators. -/
def isAround (c : CodePoint) : Bool := c.isBlank && !c.inRange 0x1C 0x1F

def trim (t : Text) : Text :=
  ((t.dropWhile isAround).reverse.dropWhile isAround).reverse

def sign : Text → Bool × Text
  | .char '-' :: t => (true, t)
  | .char '+' :: t => (false, t)
  | t => (false, t)

def digit? (base : Nat) (c : CodePoint) : Option Nat :=
  (c.digitValue? <|> c.hexValue?).filter (· < base)

def baseLetter? : Nat → Option Char
  | 2 => some 'b'
  | 8 => some 'o'
  | 16 => some 'x'
  | _ => none

def withoutMark (base : Nat) : Text → Text
  | .char '0' :: c :: t =>
    if (baseLetter? base).any (fun letter => c.asciiLower = .char letter) then t
    else .char '0' :: c :: t
  | t => t

def digits? (base : Nat) (t : Text) : Option (List Nat) :=
  if t = [] then none else t.mapM (digit? base)

def ofDigits (base : Nat) (digits : List Nat) : Nat := digits.foldl (fun n d => n * base + d) 0

/-- The integer that `t` writes. The number of its digits is limited in base ten. -/
def integer (base : Nat) (t : Text) : Except NumeralFault Int :=
  let (negative, rest) := sign (trim t)
  match digits? base (withoutMark base rest) with
  | none => .error (.noInteger base t)
  | some digits =>
    if base = 10 ∧ maxIntegerDigits < digits.length then .error (.oversizedInteger digits.length)
    else
      let n : Int := ofDigits base digits
      .ok (if negative then -n else n)

def leadingDigits (t : Text) : List Nat × Text :=
  ((t.takeWhile CodePoint.isDigit).filterMap CodePoint.digitValue?, t.dropWhile CodePoint.isDigit)

def exponent? : Text → Option Int
  | [] => some 0
  | e :: t =>
    if e.asciiLower = .char 'e' then
      let (negative, rest) := sign t
      (digits? 10 rest).map fun digits =>
        let n : Int := ofDigits 10 digits
        if negative then -n else n
    else none

def named? (negative : Bool) (t : Text) : Option Binary64 :=
  let lower := Text.asciiLower t
  if lower = "inf" ∨ lower = "infinity" then some (.infinite negative)
  else if lower = "nan" then some .undefined
  else none

def fraction? (negative : Bool) (t : Text) : Option Binary64 := do
  let (whole, t) := leadingDigits t
  let (part, t) := match t with
    | .char '.' :: rest => leadingDigits rest
    | _ => ([], t)
  let digits := whole ++ part
  if digits = [] then failure
  let e ← exponent? t
  return .ofDecimal negative (ofDigits 10 digits) digits.length (e - part.length)

def real (t : Text) : Except NumeralFault Binary64 :=
  let (negative, rest) := sign (trim t)
  match named? negative rest <|> fraction? negative rest with
  | some x => .ok x
  | none => .error (.noReal t)

end Numeral

end RouteScript
