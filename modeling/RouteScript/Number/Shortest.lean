import RouteScript.Number.Binary64

/-!
# The shortest decimal

A binary number is written with the fewest decimal digits that read back as the same number, and among
those the nearest ones. `Binary64.toText` puts them down positionally from `10 ^ -4` to `10 ^ 16` and
with an exponent elsewhere.
-/

namespace RouteScript.Binary64

/-- Four times a positive number and the ends of the interval that rounds to it, over one denominator. -/
structure Interval where
  low : Nat
  value : Nat
  high : Nat
  den : Nat
  closed : Bool
  deriving Repr

/-- The interval of the numbers that round to `mantissa · 2 ^ exponent`. The gap below a power of two
is half as wide as the gap above it, unless the exponent is the least one. -/
def interval (mantissa : Nat) (exponent : Int) : Interval :=
  let below := if mantissa = mantissaBound / 2 ∧ exponent ≠ minExponent then 1 else 2
  let (value, den) := scale (4 * mantissa) 4 exponent
  let unit := value / (4 * mantissa)
  ⟨value - below * unit, value, value + 2 * unit, den, mantissa % 2 = 0⟩

def decimalRatio (digits : Nat) (exponent : Int) : Nat × Nat :=
  if 0 ≤ exponent then (digits * Nat.pow 10 exponent.toNat, 1)
  else (digits, Nat.pow 10 (-exponent).toNat)

namespace Interval

def holds (i : Interval) (digits : Nat) (exponent : Int) : Bool :=
  let (n, d) := decimalRatio digits exponent
  if i.closed then i.low * d ≤ n * i.den && n * i.den ≤ i.high * d
  else i.low * d < n * i.den && n * i.den < i.high * d

def floor (i : Interval) (exponent : Int) : Nat :=
  let (n, d) := decimalRatio 1 exponent
  i.value * d / (n * i.den)

/-- Of two neighbours on a decimal grid, the one nearer to the number; a tie goes to the even one. -/
def nearer (i : Interval) (below : Nat) (exponent : Int) : Nat :=
  let (n, d) := decimalRatio (2 * below + 1) exponent
  let middle := n * i.den
  let twice := 2 * i.value * d
  if twice < middle ∨ (twice = middle ∧ below % 2 = 0) then below else below + 1

def onGrid? (i : Interval) (exponent : Int) : Option Nat :=
  let below := i.floor exponent
  match i.holds below exponent && below ≠ 0, i.holds (below + 1) exponent with
  | true, true => some (i.nearer below exponent)
  | true, false => some below
  | false, true => some (below + 1)
  | false, false => none

def firstExponent (i : Interval) : Int :=
  let guess : Int := (Nat.toDigits 10 i.value).length - (Nat.toDigits 10 i.den).length
  if i.floor guess = 0 then guess - 1 else guess

/-- The coarsest grid from `exponent` down that holds the number. -/
def search (i : Interval) (exponent : Int) : Nat → Nat × Int
  | 0 => (i.floor exponent, exponent)
  | fuel + 1 =>
    match i.onGrid? exponent with
    | some digits => (digits, exponent)
    | none => search i (exponent - 1) fuel

end Interval

/-- No number of 53 binary digits needs more decimal digits than these. -/
def maxDecimalDigits : Nat := 17

def shortest (mantissa : Nat) (exponent : Int) : List Char × Int :=
  let i := interval mantissa exponent
  let (digits, unit) := i.search i.firstExponent maxDecimalDigits
  let all := Nat.toDigits 10 digits
  let kept := (all.reverse.dropWhile (· = '0')).reverse
  (kept, unit + all.length - 1)

def exponentText (e : Int) : Text :=
  let digits := Text.ofNat e.natAbs
  "e" ++ (if e < 0 then [CodePoint.char '-'] else [CodePoint.char '+']) ++
    (if digits.length < 2 then .char '0' :: digits else digits)

def place (digits : List Char) (first : Int) : Text :=
  let zeros (n : Int) : Text := List.replicate n.toNat (.char '0')
  let written : Text := digits.map .char
  if first < -4 ∨ 16 ≤ first then
    let rest : Text := if written.length ≤ 1 then [] else .char '.' :: written.drop 1
    written.take 1 ++ rest ++ exponentText first
  else if first < 0 then "0." ++ zeros (-first - 1) ++ written
  else
    let whole := written.take (first + 1).toNat ++ zeros (first + 1 - written.length)
    let rest := written.drop (first + 1).toNat
    whole ++ "." ++ (if rest = [] then zeros 1 else rest)

def toText : Binary64 → Text
  | .undefined => "nan"
  | .infinite negative => if negative then "-inf" else "inf"
  | .finite negative mantissa exponent =>
    let magnitude : Text :=
      if mantissa = 0 then "0.0" else
        let (digits, first) := shortest mantissa exponent
        place digits first
    if negative then .char '-' :: magnitude else magnitude

end RouteScript.Binary64
