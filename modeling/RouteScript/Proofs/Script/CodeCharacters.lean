import RouteScript.Proofs.Script.CodeExpressions

/-!
# The characters of code

Code is made from fixed texts and from pieces of the script, so that a surrogate in the code comes from the script
(`scriptCode_noSurrogate`).
-/

namespace RouteScript.Script

open Java
open Text (NoSurrogate noSurrogate_nil noSurrogate_ofString)

theorem stringLiteral_noSurrogate {t : Text} (sound : NoSurrogate t) : NoSurrogate (stringLiteral t) := by
  have quote := noSurrogate_ofString "\""
  refine (quote.append (.flatMap fun c member => ?_)).append quote
  have single : NoSurrogate [c] := sound.of_subset (by simpa using member)
  unfold escaped
  repeat' split
  all_goals first | exact noSurrogate_ofString _ | exact single

theorem apply_noSurrogate {helper : Text} {arguments : List Text} (named : NoSurrogate helper)
    (all : ∀ t ∈ arguments, NoSurrogate t) : NoSurrogate (apply helper arguments) :=
  ((named.append (noSurrogate_ofString "(")).append (.joinWith (noSurrogate_ofString ", ") all)).append
    (noSurrogate_ofString ")")

theorem IsExpression.noSurrogate {script code : Text} {chained : Prop} (expression : IsExpression script chained code)
    (sound : NoSurrogate script) : NoSurrogate code := by
  induction expression with
  | @fixed code known =>
    have all : ∀ code ∈ fixedCode, ∃ s : String, code = s := by simp [fixedCode, constants]
    obtain ⟨s, rfl⟩ := all code known
    exact noSurrogate_ofString s
  | literal piece => exact stringLiteral_noSurrogate (sound.of_subset piece)
  | number _ piece known =>
    refine (sound.of_subset piece).append ?_
    rcases known with rfl | rfl
    · exact noSurrogate_nil
    · exact noSurrogate_ofString "L"
  | classLiteral _ piece known =>
    refine ((sound.of_subset piece).append ?_).append (noSurrogate_ofString ".class")
    rcases known with rfl | rfl
    · exact noSurrogate_nil
    · exact noSurrogate_ofString "\n"
  | call named _ ih => exact apply_noSurrogate named.2 ih
  | negation _ ih => exact ih.cons '!'
  | chain _ _ _ piece ih => exact ih.append (sound.of_subset piece)

/-- A surrogate in the code of a script comes from the script. -/
theorem scriptCode_noSurrogate {kind : UsageKind} {script code : Text} (compiled : scriptCode kind script = .ok code)
    (sound : NoSurrogate script) : NoSurrogate code := by
  obtain ⟨sep, pieces, between, rfl, all⟩ := scriptCode_expressions compiled
  refine .joinWith (by rcases between with rfl | rfl <;> exact noSurrogate_ofString _) fun piece member => ?_
  obtain ⟨op, rfl⟩ | expression := all piece member
  · cases op <;> exact noSurrogate_ofString _
  · exact expression.noSurrogate sound

end RouteScript.Script
