import RouteScript.Proofs.Java.LiteralText
import RouteScript.Proofs.Script.CodeExpressions

/-!
# The lines of code

A line feed of a script reaches the code of it in one place only: the name of a type may end in one, and then
`.class` stands behind it. So every line of the code but the first begins with a point (`scriptCode_breaks`).
-/

namespace RouteScript.Script

open Java

/-- A point stands behind every line feed. -/
def BreaksBeforePoint (t : Text) : Prop :=
  ∀ front back, t = front ++ .char '\n' :: back → back.head? = some (.char '.')

namespace BreaksBeforePoint

theorem of_not_mem {t : Text} (absent : .char '\n' ∉ t) : BreaksBeforePoint t := by
  rintro front back rfl
  exact absurd (by simp) absent

theorem append {s t : Text} (first : BreaksBeforePoint s) (second : BreaksBeforePoint t) :
    BreaksBeforePoint (s ++ t) := by
  intro front back divided
  rcases List.append_eq_append_iff.mp divided with ⟨gap, rfl, rest⟩ | ⟨gap, rfl, rest⟩
  · exact second gap back rest
  · cases gap with
    | nil => exact second [] back rest.symm
    | cons c gap =>
      rw [List.cons_append] at rest
      obtain ⟨rfl, rfl⟩ := List.cons.inj rest
      rw [List.head?_append, first front gap rfl]
      rfl

theorem joinWith {sep : Text} (between : BreaksBeforePoint sep) {ts : List Text}
    (all : ∀ t ∈ ts, BreaksBeforePoint t) : BreaksBeforePoint (Text.joinWith sep ts) := by
  induction ts with
  | nil => exact of_not_mem (by simp [Text.joinWith])
  | cons t ts ih =>
    have first := all t List.mem_cons_self
    by_cases last : ts = []
    · subst last
      exact first
    · rw [Text.joinWith_cons _ _ last]
      exact (first.append between).append (ih fun u member => all u (List.mem_cons_of_mem _ member))

theorem apply {helper : Text} {arguments : List Text} (plain : .char '\n' ∉ helper)
    (all : ∀ t ∈ arguments, BreaksBeforePoint t) : BreaksBeforePoint (Script.apply helper arguments) :=
  (((of_not_mem plain).append (of_not_mem (by decide))).append (joinWith (of_not_mem (by decide)) all)).append
    (of_not_mem (by decide))

theorem stringLiteral (t : Text) : BreaksBeforePoint (stringLiteral t) :=
  of_not_mem (stringLiteral_not_mem t).1

end BreaksBeforePoint

/-! ### Expressions -/

theorem newline_not_mem_of_isDottedName {t : Text} (name : isDottedName t) : .char '\n' ∉ t := by
  intro member
  rcases Text.mem_parts (.char '.') member with point | ⟨part, present, inside⟩
  · exact absurd point (by decide)
  · exact not_mem_of_isName (by decide) (List.all_eq_true.mp name part present) inside

theorem newline_not_mem_of_isTypeName {t : Text} (name : isTypeName t) : .char '\n' ∉ t := by
  intro member
  rcases mem_dropBrackets (List.mem_reverse.mpr member) with inside | bracket | bracket
  · exact newline_not_mem_of_isDottedName name (List.mem_reverse.mpr inside)
  · exact absurd bracket (by decide)
  · exact absurd bracket (by decide)

theorem newline_not_mem_of_isOneLine {t : Text} (single : isOneLine t) : .char '\n' ∉ t := by
  simpa [isOneLine] using single

theorem newline_not_mem_of_isNumeral {t : Text} (shape : IsNumeral t) : .char '\n' ∉ t := by
  have digits : ∀ {u : Text}, (∀ c ∈ u, c.isDigit) → .char '\n' ∉ u := fun all member =>
    absurd (all _ member) (by decide)
  obtain ⟨sign, whole, part, rfl, signed, wholeDigits, fraction⟩ := shape
  have sign : .char '\n' ∉ sign := by rcases signed with rfl | rfl <;> decide
  have part : .char '\n' ∉ part := by
    rcases fraction with rfl | ⟨rest, rfl, restDigits⟩
    · simp
    · simpa using digits restDigits
  simp [sign, part, digits wholeDigits]

/-- The one place where a line feed gets into code: the type may end in one, and a point follows. -/
theorem classLiteral_breaks {name ending : Text} (named : isTypeName name) (known : ending = [] ∨ ending = "\n") :
    BreaksBeforePoint (name ++ ending ++ ".class") := by
  rw [List.append_assoc]
  refine (BreaksBeforePoint.of_not_mem (newline_not_mem_of_isTypeName named)).append ?_
  rcases known with rfl | rfl
  · exact .of_not_mem (by decide)
  · intro front back divided
    cases front with
    | nil =>
      cases divided
      rfl
    | cons c front =>
      have suffixed : (".class" : Text) = front ++ .char '\n' :: back := (List.cons.inj divided).2
      have inner : .char '\n' ∈ (".class" : Text) := by
        rw [suffixed]
        simp
      exact absurd inner (by decide)

theorem IsExpression.breaks {script code : Text} {chained : Prop} (expression : IsExpression script chained code) :
    BreaksBeforePoint code := by
  induction expression with
  | @fixed code known =>
    have all : ∀ code ∈ fixedCode, .char '\n' ∉ code := by decide +kernel
    exact .of_not_mem (all code known)
  | literal => exact .stringLiteral _
  | number shape _ known =>
    refine (BreaksBeforePoint.of_not_mem (newline_not_mem_of_isNumeral shape)).append ?_
    rcases known with rfl | rfl <;> exact .of_not_mem (by decide)
  | classLiteral named _ known => exact classLiteral_breaks named known
  | call named _ ih => exact .apply (not_mem_of_isName (by decide) named.1) ih
  | negation _ ih => exact BreaksBeforePoint.append (s := [.char '!']) (.of_not_mem (by decide)) ih
  | chain _ _ single _ ih => exact ih.append (.of_not_mem (newline_not_mem_of_isOneLine single))

theorem scriptCode_breaks {kind : UsageKind} {script code : Text} (compiled : scriptCode kind script = .ok code) :
    BreaksBeforePoint code := by
  obtain ⟨sep, pieces, between, rfl, all⟩ := scriptCode_expressions compiled
  refine .joinWith (.of_not_mem (by rcases between with rfl | rfl <;> decide)) fun piece member => ?_
  obtain ⟨op, rfl⟩ | expression := all piece member
  · cases op <;> exact .of_not_mem (by decide)
  · exact expression.breaks

end RouteScript.Script
