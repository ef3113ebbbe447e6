import RouteScript.Proofs.Script.FaultPlace
import RouteScript.Unit.Source

/-!
# Empty scripts

A value script is rejected as empty when it has no code points, and a predicate when all it has are blanks
(`scriptCode_empty_iff`). Every other fault is about something in the script, and says what.
-/

namespace RouteScript

def SyntaxCause.isEmptiness : SyntaxCause → Bool
  | .emptyExpression | .emptyPredicate => true
  | _ => false

def ScriptFault.isEmptiness : ScriptFault → Bool
  | .malformed fault => fault.cause.isEmptiness
  | .oversizedInteger _ => false

namespace Script

theorem MalformedFunction.not_emptiness {cause : SyntaxCause} {t : Text} (malformed : MalformedFunction cause t) :
    ¬cause.isEmptiness := by
  cases malformed <;> simp [SyntaxCause.isEmptiness]

theorem Malformed.not_emptiness {cause : SyntaxCause} {t : Text} (malformed : Malformed cause t) :
    ¬cause.isEmptiness := by
  cases malformed with
  | function malformed => exact malformed.not_emptiness
  | literal => simp [SyntaxCause.isEmptiness]

theorem Blames.not_emptiness {cause : SyntaxCause} {t : Token} (blames : Blames cause t) : ¬cause.isEmptiness := by
  cases blames <;> simp [SyntaxCause.isEmptiness]

theorem predicateCode_empty_iff {script : Text} :
    (∃ fault, predicateCode script = .error fault ∧ fault.isEmptiness) ↔ ∀ c ∈ script, c.isBlank := by
  constructor
  · rintro ⟨fault, failed, empty⟩
    cases fault with
    | oversizedInteger digits => cases empty
    | malformed fault =>
      obtain ⟨blanks, _⟩ | ⟨_, _, _, _, _, _, blames⟩ | ⟨_, malformed⟩ := predicateCode_fault failed
      · exact blanks
      · exact absurd empty blames.not_emptiness
      · exact absurd empty malformed.not_emptiness
  · intro blanks
    refine ⟨.malformed ⟨.emptyPredicate, 0⟩, ?_, rfl⟩
    rw [predicateCode, tokens_eq_nil_iff.mpr blanks]
    rfl

theorem valueCode_empty_iff {script : Text} :
    (∃ fault, valueCode script = .error fault ∧ fault.cause.isEmptiness) ↔ script = [] := by
  constructor
  · rintro ⟨fault, failed, empty⟩
    obtain ⟨none, _⟩ | ⟨_, _, _, _, _, _, _, _, blames⟩ | ⟨_, malformed⟩ := valueCode_fault failed
    · exact none
    · exact absurd empty blames.not_emptiness
    · exact absurd empty malformed.not_emptiness
  · intro none
    refine ⟨⟨.emptyExpression, 0⟩, ?_, rfl⟩
    rw [valueCode, valueParts, segments_eq_nil_iff.mpr none]
    rfl

end Script

/-- A script is rejected as empty when it holds nothing, or as a predicate nothing but blanks. -/
theorem scriptCode_empty_iff {kind : UsageKind} {script : Text} :
    (∃ fault, scriptCode kind script = .error fault ∧ fault.isEmptiness) ↔
      script = [] ∨ kind = .predicate ∧ ∀ c ∈ script, c.isBlank := by
  cases kind with
  | predicate =>
    rw [scriptCode, Script.predicateCode_empty_iff]
    constructor
    · exact fun blanks => Or.inr ⟨rfl, blanks⟩
    · rintro (rfl | ⟨_, blanks⟩)
      · simp
      · exact blanks
  | value =>
    constructor
    · rintro ⟨fault, failed, empty⟩
      obtain ⟨fault', malformed, rfl⟩ := Fallible.mapError_error failed
      exact Or.inl (Script.valueCode_empty_iff.mp ⟨fault', malformed, empty⟩)
    · rintro (none | ⟨impossible, _⟩)
      · obtain ⟨fault, failed, empty⟩ := Script.valueCode_empty_iff.mpr none
        refine ⟨.malformed fault, ?_, empty⟩
        rw [scriptCode, failed]
        rfl
      · cases impossible

end RouteScript
