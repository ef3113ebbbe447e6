import RouteScript.Proofs.Fallible
import RouteScript.Script.Predicate

/-!
# Numerals of predicates

A number among the tokens of a predicate is a sign, digits and a fraction, as far as they are there
(`tokens_isNumeral`). So an integer without its sign is as long as it has digits (`unsigned_length`).
-/

namespace RouteScript.Script

/-- A sign or none, digits, and a fraction or none. -/
def IsNumeral (t : Text) : Prop :=
  ∃ sign whole part : Text, t = sign ++ whole ++ part ∧ (sign = [] ∨ sign = [.char '-']) ∧
    (∀ c ∈ whole, c.isDigit) ∧ (part = [] ∨ ∃ digits, part = .char '.' :: digits ∧ ∀ c ∈ digits, c.isDigit)

theorem isDigit_of_mem_digitRun {t : Text} {c : CodePoint} (member : c ∈ digitRun t) : c.isDigit :=
  List.all_eq_true.mp List.all_takeWhile c member

theorem minusSign_cases (t : Text) : minusSign t = [] ∨ minusSign t = [.char '-'] := by
  unfold minusSign
  split <;> simp

theorem fraction_cases (t : Text) :
    fraction t = [] ∨ ∃ digits, fraction t = .char '.' :: digits ∧ ∀ c ∈ digits, c.isDigit := by
  unfold fraction
  split
  · rename_i rest
    split
    · exact Or.inl rfl
    · exact Or.inr ⟨_, rfl, fun c member => isDigit_of_mem_digitRun member⟩
  · exact Or.inl rfl

theorem numeral?_isNumeral {t numeral : Text} (read : numeral? t = some numeral) : IsNumeral numeral := by
  unfold numeral? at read
  dsimp only at read
  split at read
  · cases read
    exact ⟨_, _, _, rfl, minusSign_cases t, fun c member => isDigit_of_mem_digitRun member, fraction_cases _⟩
  · cases read

theorem numeral?_of_nextToken {index : Nat} {c : CodePoint} {t numeral : Text} {width : Nat}
    (read : nextToken index c t = .ok (.number numeral, width)) : numeral? (c :: t) = some numeral := by
  unfold nextToken at read
  split at read
  · obtain ⟨_, _, read⟩ := Fallible.bind_ok read
    cases read
  · repeat' split at read
    all_goals try cases read
    · assumption
    · have noNumber : ∀ w, Token.ofWord w ≠ .number numeral := by
        intro w
        unfold Token.ofWord
        repeat' split
        all_goals simp
      exact absurd (Prod.mk.inj (Except.ok.inj read)).1 (noNumber _)

theorem mem_tokensFrom {index : Nat} {t : Text} {ts : List PlacedToken} (read : tokensFrom index t = .ok ts)
    {p : PlacedToken} (member : p ∈ ts) : ∃ c u, nextToken p.index c u = .ok (p.token, p.width) := by
  fun_induction tokensFrom index t generalizing ts with
  | case1 =>
    cases read
    cases member
  | case2 index c t blank ih => exact ih read member
  | case3 index c t visible ih =>
    obtain ⟨⟨token, width⟩, first, read⟩ := Fallible.bind_ok read
    obtain ⟨rest, later, read⟩ := Fallible.bind_ok read
    cases read
    rcases List.mem_cons.mp member with rfl | member
    · exact ⟨c, t, first⟩
    · exact ih _ later member

theorem tokens_isNumeral {script : Text} {ts : List PlacedToken} (read : tokens script = .ok ts) {numeral : Text}
    (member : .number numeral ∈ ts.map (·.token)) : IsNumeral numeral := by
  obtain ⟨p, present, number⟩ := List.mem_map.mp member
  obtain ⟨c, u, next⟩ := mem_tokensFrom read present
  rw [number] at next
  exact numeral?_isNumeral (numeral?_of_nextToken next)

/-! ### Integers -/

def digitCount (numeral : Text) : Nat := numeral.countP CodePoint.isDigit

theorem digitCount_of_isDigit {t : Text} (digits : ∀ c ∈ t, c.isDigit) : digitCount t = t.length :=
  List.countP_eq_length.mpr digits

theorem unsigned_of_isDigit {t : Text} (digits : ∀ c ∈ t, c.isDigit) : unsigned t = t := by
  unfold unsigned
  split
  · exact absurd (digits (.char '-') List.mem_cons_self) (by decide)
  · rfl

theorem unsigned_length {numeral : Text} (shape : IsNumeral numeral) (integral : .char '.' ∉ numeral) :
    (unsigned numeral).length = digitCount numeral := by
  obtain ⟨sign, whole, part, rfl, signed, digits, fraction⟩ := shape
  have noFraction : part = [] := by
    rcases fraction with none | ⟨_, rfl, _⟩
    · exact none
    · exact absurd (by simp) integral
  subst noFraction
  rw [List.append_nil]
  rcases signed with rfl | rfl
  · rw [List.nil_append, unsigned_of_isDigit digits, digitCount_of_isDigit digits]
  · have minus : digitCount [CodePoint.char '-'] = 0 := by decide
    calc (unsigned ([CodePoint.char '-'] ++ whole)).length
      _ = digitCount whole := (digitCount_of_isDigit digits).symm
      _ = digitCount [CodePoint.char '-'] + digitCount whole := by rw [minus, Nat.zero_add]
      _ = digitCount ([CodePoint.char '-'] ++ whole) := List.countP_append.symm

end RouteScript.Script
