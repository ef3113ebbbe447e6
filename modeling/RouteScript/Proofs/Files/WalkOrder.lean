import RouteScript.Files.Disk
import RouteScript.Proofs.Text.Order

/-!
# The order of a walk

`walksBefore` is a total order of name lists, so that a walk is determined by the files that it meets
(`eq_of_walksBefore`).
-/

namespace RouteScript.Disk

/-- Files of a directory come before its subdirectories, and entries of the same kind go by their names. -/
theorem walksBefore_cons_iff (a b : Text) (s t : List Text) :
    walksBefore (a :: s) (b :: t) ↔
      (s = [] ∧ t ≠ []) ∨ ((s = [] ↔ t = []) ∧ (Text.Before a b ∨ a = b ∧ walksBefore s t)) := by
  have compare : Text.le a b ↔ Text.Before a b ∨ a = b := Text.le_iff.trans or_comm
  cases s with
  | nil => cases t <;> simp [walksBefore, compare]
  | cons _ s =>
    cases t with
    | nil => simp [walksBefore]
    | cons _ t =>
      by_cases same : a = b
      · simp [walksBefore, same, Text.before_irrefl]
      · simp [walksBefore, same, compare]

theorem walksBefore_trans {s t u : List Text} (first : walksBefore s t) (second : walksBefore t u) :
    walksBefore s u := by
  induction s generalizing t u with
  | nil => rfl
  | cons a s ih =>
    obtain _ | ⟨b, t⟩ := t
    · cases first
    obtain _ | ⟨c, u⟩ := u
    · cases second
    rw [walksBefore_cons_iff] at first second ⊢
    rcases first with ⟨file, directory⟩ | ⟨alike, first⟩
    · rcases second with ⟨file', _⟩ | ⟨alike', _⟩
      · exact absurd file' directory
      · exact Or.inl ⟨file, fun none => directory (alike'.mpr none)⟩
    · rcases second with ⟨file', directory'⟩ | ⟨alike', second⟩
      · exact Or.inl ⟨alike.mpr file', directory'⟩
      · refine Or.inr ⟨alike.trans alike', ?_⟩
        rcases first with before | ⟨rfl, first⟩
        · rcases second with before' | ⟨rfl, _⟩
          · exact Or.inl (Text.before_trans before before')
          · exact Or.inl before
        · rcases second with before' | ⟨rfl, second⟩
          · exact Or.inl before'
          · exact Or.inr ⟨rfl, ih first second⟩

theorem walksBefore_antisymm {s t : List Text} (first : walksBefore s t) (second : walksBefore t s) : s = t := by
  induction s generalizing t with
  | nil =>
    obtain _ | ⟨b, t⟩ := t
    · rfl
    · cases second
  | cons a s ih =>
    obtain _ | ⟨b, t⟩ := t
    · cases first
    rw [walksBefore_cons_iff] at first second
    -- Neither is a file where the other is in a subdirectory.
    have alike : s = [] ↔ t = [] := by
      rcases first with ⟨file, directory⟩ | ⟨alike, _⟩
      · rcases second with ⟨file', _⟩ | ⟨alike, _⟩
        · exact absurd file' directory
        · exact alike.symm
      · exact alike
    have names : Text.Before a b ∨ a = b ∧ walksBefore s t :=
      first.elim (fun mixed => absurd (alike.mp mixed.1) mixed.2) And.right
    have names' : Text.Before b a ∨ b = a ∧ walksBefore t s :=
      second.elim (fun mixed => absurd (alike.mpr mixed.1) mixed.2) And.right
    rcases names with before | ⟨rfl, below⟩
    · rcases names' with before' | ⟨rfl, _⟩
      · exact absurd (Text.before_trans before before') (Text.before_irrefl a)
      · exact absurd before (Text.before_irrefl b)
    · rcases names' with before' | ⟨_, below'⟩
      · exact absurd before' (Text.before_irrefl a)
      · rw [ih below below']

theorem walksBefore_total (s t : List Text) : walksBefore s t || walksBefore t s := by
  induction s generalizing t with
  | nil => rfl
  | cons a s ih =>
    obtain _ | ⟨b, t⟩ := t
    · rfl
    rw [Bool.or_eq_true, walksBefore_cons_iff, walksBefore_cons_iff]
    have below := ih t
    rw [Bool.or_eq_true] at below
    have names := Text.le_total a b
    rw [Bool.or_eq_true, Text.le_iff, Text.le_iff] at names
    by_cases file : s = [] <;> by_cases file' : t = [] <;> grind

/-- Sorted lists of the same names are the same list. -/
theorem eq_of_walksBefore {s t : List (List Text)} (same : s.Perm t) (first : s.Pairwise (walksBefore · ·))
    (second : t.Pairwise (walksBefore · ·)) : s = t :=
  same.eq_of_pairwise (fun _ _ _ _ => walksBefore_antisymm) first second

theorem filesBelow_sorted (d : Disk) (root : List Text) : (d.filesBelow root).Pairwise (walksBefore · ·) :=
  List.pairwise_mergeSort (fun s t u => @walksBefore_trans s t u) walksBefore_total _

end RouteScript.Disk
