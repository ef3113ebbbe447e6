import Mathlib.Algebra.Group.Nat.Defs
import Mathlib.Algebra.Ring.Int.Defs
import Mathlib.Data.List.Induction
import RouteScript.Java.Literal
import RouteScript.Text.WordCharacter

/-!
# Integer literals

The value of an integer literal of the Java language, with a minus before it or not: decimal unless several digits begin
with `0`, of 64 bits with the suffix `L` and of 32 bits without. `digitsLiteral?_eq_some_iff` says when digits that are
read as decimal elsewhere have the same value there.
-/

namespace RouteScript.Java

/-- The number that ASCII digits of the given base write. -/
def ofNumeral? (base : Nat) (t : Text) : Option Nat :=
  if t.all fun c => c.isAsciiDigit && decide (c.toNat - 0x30 < base) then
    some (ofDigits base (t.map fun c => c.toNat - 0x30))
  else none

def withSign (negative : Bool) (n : Nat) : Int := if negative then -n else n

/-- The integer fits a type of this many bits. -/
def Fits (bits : Nat) (n : Int) : Prop := -2 ^ (bits - 1) ≤ n ∧ n < 2 ^ (bits - 1)

instance (bits : Nat) (n : Int) : Decidable (Fits bits n) :=
  inferInstanceAs (Decidable (-2 ^ (bits - 1) ≤ n ∧ n < 2 ^ (bits - 1)))

/-- The value of the digits of a literal. Several digits that begin with `0` are octal, and may set the highest bit; a
decimal literal has to fit. -/
def digitsLiteral? (negative : Bool) (bits : Nat) : Text → Option Int
  | [] => none
  | .char '0' :: d :: more => do
    let n ← ofNumeral? 8 (d :: more)
    if n < 2 ^ bits then some ((withSign negative n).bmod (2 ^ bits)) else none
  | digits => do
    let n ← ofNumeral? 10 digits
    if Fits bits (withSign negative n) then some (withSign negative n) else none

def suffixedLiteral? (negative : Bool) (t : Text) : Option Int :=
  match t.getLast? with
  | some (.char 'L') | some (.char 'l') => digitsLiteral? negative 64 t.dropLast
  | _ => digitsLiteral? negative 32 t

/-- The value of an integer literal, or of a minus and an integer literal. -/
def integerLiteral? : Text → Option Int
  | .char '-' :: t => suffixedLiteral? true t
  | t => suffixedLiteral? false t

/-! ### Digits of two bases -/

theorem ofDigits_concat (base : Nat) (ds : List Nat) (d : Nat) :
    ofDigits base (ds ++ [d]) = ofDigits base ds * base + d := by
  simp [ofDigits]

theorem ofDigits_zero_cons (base : Nat) (ds : List Nat) : ofDigits base (0 :: ds) = ofDigits base ds := by
  simp [ofDigits]

/-- A number below eight is written with one digit behind zeros, which is the same in octal. -/
theorem octal_of_lt_eight {ds : List Nat} (small : ofDigits 10 ds < 8) :
    (∀ d ∈ ds, d < 8) ∧ ofDigits 8 ds = ofDigits 10 ds := by
  induction ds using List.reverseRecOn with
  | nil => simp [ofDigits]
  | append_singleton ds d ih =>
    rw [ofDigits_concat] at small
    obtain ⟨octal, same⟩ := ih (by omega)
    refine ⟨?_, by rw [ofDigits_concat, ofDigits_concat, same]; omega⟩
    simp only [List.mem_append, List.mem_singleton]
    rintro x (member | rfl)
    · exact octal x member
    · omega

theorem octal_le (ds : List Nat) : ofDigits 8 ds ≤ ofDigits 10 ds := by
  induction ds using List.reverseRecOn with
  | nil => simp [ofDigits]
  | append_singleton ds d ih =>
    rw [ofDigits_concat, ofDigits_concat]
    omega

/-- From eight on, octal digits write less than the same decimal digits. -/
theorem octal_lt {ds : List Nat} (octal : ∀ d ∈ ds, d < 8) (large : 8 ≤ ofDigits 10 ds) :
    ofDigits 8 ds < ofDigits 10 ds := by
  rcases List.eq_nil_or_concat ds with rfl | ⟨front, d, rfl⟩
  · simp [ofDigits] at large
  · rw [List.concat_eq_append] at *
    have last : d < 8 := octal d (by simp)
    have less := octal_le front
    rw [ofDigits_concat] at large ⊢
    rw [ofDigits_concat]
    omega

/-! ### Decimal digits of every script -/

/-- The number that decimal digits of any script write. -/
def decimalValue (t : Text) : Nat := ofDigits 10 (t.filterMap CodePoint.digitValue?)

theorem digitValue?_of_isAsciiDigit {c : CodePoint} (ascii : c.isAsciiDigit) :
    c.digitValue? = some (c.toNat - 0x30) := by
  have bounds : 0x30 ≤ c.toNat ∧ c.toNat ≤ 0x39 := by
    simpa [CodePoint.isAsciiDigit, CodePoint.inRange] using ascii
  have first : c.inRange 0x30 0x39 = true := ascii
  have small : (c.toNat - 0x30) % 10 = c.toNat - 0x30 := by omega
  simp only [CodePoint.digitValue?, decimalDigitRuns, List.find?_cons, first, Option.map_some, small]

theorem filterMap_digitValue? {t : Text} (ascii : ∀ c ∈ t, c.isAsciiDigit) :
    t.filterMap CodePoint.digitValue? = t.map fun c => c.toNat - 0x30 := by
  induction t with
  | nil => rfl
  | cons c t ih =>
    rw [List.filterMap_cons, digitValue?_of_isAsciiDigit (ascii c List.mem_cons_self),
      ih fun d member => ascii d (List.mem_cons_of_mem _ member)]
    rfl

theorem ofNumeral?_eq_some {base : Nat} {t : Text} {n : Nat} :
    ofNumeral? base t = some n ↔
      (∀ c ∈ t, c.isAsciiDigit ∧ c.toNat - 0x30 < base) ∧ ofDigits base (t.map fun c => c.toNat - 0x30) = n := by
  unfold ofNumeral?
  split
  · rename_i digits
    have digits : ∀ c ∈ t, c.isAsciiDigit ∧ c.toNat - 0x30 < base := by simpa using digits
    simpa using fun _ => digits
  · rename_i other
    have other : ¬∀ c ∈ t, c.isAsciiDigit ∧ c.toNat - 0x30 < base := by simpa using other
    simp [other]

theorem ofNumeral?_ten {t : Text} {n : Nat} :
    ofNumeral? 10 t = some n ↔ (∀ c ∈ t, c.isAsciiDigit) ∧ decimalValue t = n := by
  have bounded : ∀ c : CodePoint, c.isAsciiDigit → c.toNat - 0x30 < 10 := by
    intro c ascii
    have bounds : 0x30 ≤ c.toNat ∧ c.toNat ≤ 0x39 := by
      simpa [CodePoint.isAsciiDigit, CodePoint.inRange] using ascii
    omega
  rw [ofNumeral?_eq_some]
  constructor
  · rintro ⟨digits, value⟩
    have ascii : ∀ c ∈ t, c.isAsciiDigit := fun c member => (digits c member).1
    exact ⟨ascii, by rw [decimalValue, filterMap_digitValue? ascii, value]⟩
  · rintro ⟨ascii, value⟩
    refine ⟨fun c member => ⟨ascii c member, bounded c (ascii c member)⟩, ?_⟩
    rw [← filterMap_digitValue? ascii]
    exact value

/-! ### Literals of the same value -/

def LooksOctal (digits : Text) : Prop := ∃ d more, digits = .char '0' :: d :: more

theorem digitsLiteral?_decimal {digits : Text} (filled : digits ≠ []) (decimal : ¬LooksOctal digits) (negative : Bool)
    (bits : Nat) :
    digitsLiteral? negative bits digits = (do
      let n ← ofNumeral? 10 digits
      if Fits bits (withSign negative n) then some (withSign negative n) else none) := by
  unfold digitsLiteral?
  split
  · exact absurd rfl filled
  · exact absurd ⟨_, _, rfl⟩ decimal
  · rfl

/-- What wraps around to the value of a number that is larger is too large itself. -/
theorem bmod_withSign_ne {negative : Bool} {bits m n : Nat} (less : m < n) :
    (withSign negative m).bmod (2 ^ bits) ≠ withSign negative n := by
  intro same
  have positive : 0 < 2 ^ bits := Nat.two_pow_pos bits
  have low := Int.le_bmod (x := withSign negative m) positive
  have high := Int.bmod_lt (x := withSign negative m) positive
  have apart := Int.dvd_bmod_sub_self (x := withSign negative m) (m := 2 ^ bits)
  rw [same] at low high apart
  have gap : ((2 ^ bits : Nat) : Int) ≤ n - m := by
    cases negative with
    | false => exact Int.le_of_dvd (by omega) (by simpa [withSign] using apart)
    | true =>
      refine Int.le_of_dvd (by omega) ?_
      rw [← Int.dvd_neg]
      convert apart using 1
      simp only [withSign, if_true]
      omega
  cases negative <;> simp only [withSign, if_true, Bool.false_eq_true, if_false] at low high <;> omega

theorem decimalValue_zero_cons {digits : Text} (ascii : ∀ c ∈ digits, c.isAsciiDigit) :
    decimalValue (.char '0' :: digits) = ofDigits 10 (digits.map fun c => c.toNat - 0x30) := by
  have zero : (CodePoint.char '0').digitValue? = some 0 := by decide
  rw [decimalValue, List.filterMap_cons, zero, filterMap_digitValue? ascii]
  exact ofDigits_zero_cons ..

/-- Digits behind a `0` are octal, so that they keep their decimal value only below eight. -/
theorem digitsLiteral?_octal_eq_some_iff {negative : Bool} {bits : Nat} (wide : 4 ≤ bits) {d : CodePoint} {more : Text} :
    digitsLiteral? negative bits (.char '0' :: d :: more) =
        some (withSign negative (decimalValue (.char '0' :: d :: more))) ↔
      (∀ c ∈ d :: more, c.isAsciiDigit) ∧ decimalValue (.char '0' :: d :: more) < 8 ∧
        Fits bits (withSign negative (decimalValue (.char '0' :: d :: more))) := by
  have room : (8 : Int) ≤ 2 ^ (bits - 1) := by
    have power : 2 ^ 3 ≤ 2 ^ (bits - 1) := Nat.pow_le_pow_right (by omega) (by omega)
    exact_mod_cast power
  have double : (2 : Int) ^ bits = 2 * 2 ^ (bits - 1) := by
    rw [← Int.pow_succ', Nat.sub_add_cancel (by omega)]
  simp only [digitsLiteral?, Option.bind_eq_bind, Option.bind_eq_some_iff, ofNumeral?_eq_some]
  constructor
  · rintro ⟨n, ⟨digits, rfl⟩, wrapped⟩
    have ascii : ∀ c ∈ d :: more, c.isAsciiDigit := fun c member => (digits c member).1
    have small : decimalValue (.char '0' :: d :: more) < 8 := by
      -- From eight on the octal value is smaller, and wrapping around does not bring it back to the decimal one.
      by_contra large
      rw [decimalValue_zero_cons ascii, Nat.not_lt] at large
      have less := octal_lt (fun x member => by
        obtain ⟨c, present, rfl⟩ := List.mem_map.mp member
        exact (digits c present).2) large
      split at wrapped
      · rw [decimalValue_zero_cons ascii] at wrapped
        exact bmod_withSign_ne less (Option.some.inj wrapped)
      · cases wrapped
    refine ⟨ascii, small, ?_⟩
    unfold Fits withSign
    split <;> omega
  · rintro ⟨ascii, small, fits⟩
    rw [decimalValue_zero_cons ascii] at small fits ⊢
    obtain ⟨octal, same⟩ := octal_of_lt_eight small
    refine ⟨_, ⟨fun c member => ⟨ascii c member, octal _ (List.mem_map_of_mem member)⟩, rfl⟩, ?_⟩
    rw [same, if_pos ?_, Int.bmod_eq_of_le_mul_two]
    · have := fits.1
      push_cast
      omega
    · have := fits.2
      push_cast
      omega
    · have power : 2 ^ 3 ≤ 2 ^ bits := Nat.pow_le_pow_right (by omega) (by omega)
      omega

theorem digitsLiteral?_eq_some_iff {negative : Bool} {bits : Nat} (wide : 4 ≤ bits) {digits : Text}
    (filled : digits ≠ []) :
    digitsLiteral? negative bits digits = some (withSign negative (decimalValue digits)) ↔
      (∀ c ∈ digits, c.isAsciiDigit) ∧ (LooksOctal digits → decimalValue digits < 8) ∧
        Fits bits (withSign negative (decimalValue digits)) := by
  by_cases octal : LooksOctal digits
  · obtain ⟨d, more, rfl⟩ := octal
    have first : (CodePoint.char '0').isAsciiDigit := by decide
    have looks : LooksOctal (.char '0' :: d :: more) := ⟨d, more, rfl⟩
    rw [digitsLiteral?_octal_eq_some_iff wide]
    simp only [List.forall_mem_cons (a := CodePoint.char '0'), first, looks, true_and, true_implies]
  · rw [digitsLiteral?_decimal filled octal]
    simp only [octal, false_implies, true_and, Option.bind_eq_bind, Option.bind_eq_some_iff, ofNumeral?_ten]
    constructor
    · rintro ⟨n, ⟨ascii, rfl⟩, fits⟩
      split at fits
      · exact ⟨ascii, ‹_›⟩
      · cases fits
    · rintro ⟨ascii, fits⟩
      exact ⟨_, ⟨ascii, rfl⟩, if_pos fits⟩

end RouteScript.Java
