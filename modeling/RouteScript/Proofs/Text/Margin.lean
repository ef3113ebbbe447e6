import RouteScript.Proofs.Text.Lines
import RouteScript.Proofs.Text.Parts

/-!
# Margins

Every line that counts begins with the common margin (`commonMargin_prefix`), and `dedent` takes it from the lines one by
one (`parts_dedent`).
-/

namespace RouteScript.Text

theorem isBlank_of_isMarginBlank {c : CodePoint} (margin : isMarginBlank c) : c.isBlank := by
  simp only [isMarginBlank, Bool.or_eq_true, beq_iff_eq] at margin
  rcases margin with rfl | rfl <;> decide

theorem commonStart_prefix (s t : Text) : commonStart s t <+: s ∧ commonStart s t <+: t := by
  induction s generalizing t with
  | nil => simp [commonStart]
  | cons a s ih =>
    cases t with
    | nil => simp [commonStart]
    | cons b t =>
      rw [commonStart]
      split
      · rename_i same
        subst same
        simp [ih t]
      · simp

theorem foldl_commonStart_prefix (m : Text) (ms : List Text) :
    ms.foldl commonStart m <+: m ∧ ∀ t ∈ ms, ms.foldl commonStart m <+: t := by
  induction ms generalizing m with
  | nil => simp
  | cons t ms ih =>
    obtain ⟨start, others⟩ := ih (commonStart m t)
    have ⟨left, right⟩ := commonStart_prefix m t
    rw [List.foldl_cons]
    exact ⟨start.trans left, List.forall_mem_cons.mpr ⟨start.trans right, others⟩⟩

/-- Every line that counts begins with the common margin. -/
theorem commonMargin_prefix {ls : List Text} {line : Text} (member : line ∈ ls) (counts : ¬line.all isMarginBlank) :
    commonMargin ls <+: margin line := by
  have present : margin line ∈ (ls.filter fun line => !line.all isMarginBlank).map margin :=
    List.mem_map_of_mem (List.mem_filter.mpr ⟨member, by simpa using counts⟩)
  unfold commonMargin
  split
  · exact List.nil_prefix
  · rename_i m ms found
    rw [found] at present
    obtain ⟨start, others⟩ := foldl_commonStart_prefix m ms
    rcases List.mem_cons.mp present with same | later
    · rw [same]
      exact start
    · exact others _ later

theorem parts_dedent (t : Text) :
    parts (.char '\n') (dedent t) = (parts (.char '\n') t).map fun line =>
      if line.all isMarginBlank then [] else line.drop (commonMargin (parts (.char '\n') t)).length := by
  refine parts_joinWith (by simpa using parts_ne_nil _ t) fun line member => ?_
  obtain ⟨line, present, rfl⟩ := List.mem_map.mp member
  have one := (of_mem_parts present).1
  split
  · simp
  · exact fun inside => one (List.mem_of_mem_drop inside)

end RouteScript.Text
