import RouteScript.Text.CodePoint

/-!
# Binary floating point

Numbers of 53 binary digits with an exponent of 11 bits. `Binary64.ofRatio` rounds a quotient of
natural numbers to the nearest of them, a tie to the even one, and everything else is exact arithmetic
followed by that rounding.
-/

namespace RouteScript

/-- `± mantissa · 2 ^ exponent`, an infinity, or no number at all. A finite number is kept with the
largest mantissa below `2 ^ 53` that the least exponent `-1074` leaves. -/
inductive Binary64 where
  | finite (negative : Bool) (mantissa : Nat) (exponent : Int)
  | infinite (negative : Bool)
  | undefined
  deriving DecidableEq, Repr, Inhabited

namespace Binary64

def mantissaBound : Nat := 0x20000000000000

def mantissaLog : Nat := 52

def minExponent : Int := -1074

def maxExponent : Int := 971

def zero (negative : Bool) : Binary64 := .finite negative 0 minExponent

/-- The quotient rounded to the nearest natural number, a tie to the even one. -/
def roundDiv (num den : Nat) : Nat :=
  let floor := num / den
  let twice := 2 * (num % den)
  if den < twice ∨ (twice = den ∧ floor % 2 = 1) then floor + 1 else floor

def scale (num den : Nat) (e : Int) : Nat × Nat :=
  if 0 ≤ e then (num * Nat.pow 2 e.toNat, den) else (num, den * Nat.pow 2 (-e).toNat)

def ratioLog (num den : Nat) : Int :=
  let guess : Int := (num.log2 : Int) - (den.log2 : Int)
  let (n, d) := scale num den (-guess)
  if n < d then guess - 1 else guess

def ofRatio (negative : Bool) (num den : Nat) : Binary64 :=
  if num = 0 ∨ den = 0 then zero negative
  else
    let exponent := max (ratioLog num den - mantissaLog) minExponent
    let (n, d) := scale num den (-exponent)
    let mantissa := roundDiv n d
    -- Rounding up can give a binary digit too many.
    let (mantissa, exponent) :=
      if mantissa = mantissaBound then (mantissaBound / 2, exponent + 1)
      else (mantissa, exponent)
    if maxExponent < exponent then .infinite negative else .finite negative mantissa exponent

def ofNat (n : Nat) : Binary64 := ofRatio false n 1

/-- Decimal exponents beyond this one give no finite number but zero, whatever the digits. -/
def maxDecimalExponent : Int := 400

/-- The number nearest to `± digits · 10 ^ exponent`, where `digits` has `count` digits. -/
def ofDecimal (negative : Bool) (digits count : Nat) (exponent : Int) : Binary64 :=
  if digits = 0 ∨ (count : Int) + exponent < -maxDecimalExponent then zero negative
  else if maxDecimalExponent < exponent then .infinite negative
  else if 0 ≤ exponent then ofRatio negative (digits * Nat.pow 10 exponent.toNat) 1
  else ofRatio negative digits (Nat.pow 10 (-exponent).toNat)

def neg : Binary64 → Binary64
  | .finite negative mantissa exponent => .finite (!negative) mantissa exponent
  | .infinite negative => .infinite (!negative)
  | .undefined => .undefined

def units (negative : Bool) (mantissa : Nat) (exponent least : Int) : Int :=
  let m : Int := .ofNat (mantissa * Nat.pow 2 (exponent - least).toNat)
  if negative then -m else m

def add : Binary64 → Binary64 → Binary64
  | .finite s m e, .finite s' m' e' =>
    let least := min e e'
    let sum := units s m e least + units s' m' e' least
    let (n, d) := scale sum.natAbs 1 least
    -- A zero is negative only as the sum of two negative zeros.
    ofRatio (sum < 0 || (m = 0 && m' = 0 && s && s')) n d
  | .infinite s, .infinite s' => if s = s' then .infinite s else .undefined
  | .infinite s, .finite .. | .finite .., .infinite s => .infinite s
  | .undefined, _ | _, .undefined => .undefined

def mul : Binary64 → Binary64 → Binary64
  | .finite s m e, .finite s' m' e' =>
    let (n, d) := scale (m * m') 1 (e + e')
    ofRatio (s != s') n d
  | .infinite s, .infinite s' => .infinite (s != s')
  | .infinite s, .finite s' m _ | .finite s' m _, .infinite s =>
    if m = 0 then .undefined else .infinite (s != s')
  | .undefined, _ | _, .undefined => .undefined

def isZero : Binary64 → Bool
  | .finite _ mantissa _ => mantissa = 0
  | _ => false

end Binary64

end RouteScript
