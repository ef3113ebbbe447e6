import RouteScript.Text.CodePoint

/-!
# The order of texts

Texts are in the lexicographic order of their code points' values (`le_iff`), and `sortDistinct` puts texts
in strictly increasing order without losing or adding any (`sortDistinct_increasing`).
-/

namespace RouteScript

theorem CodePoint.toNat_char_ne (c : Char) (offset : Fin 2048) : c.toNat ≠ 0xD800 + offset.val := by
  intro same
  have small := offset.isLt
  have valid : c.toNat < 0xD800 ∨ 0xDFFF < c.toNat ∧ c.toNat < 0x110000 := c.valid
  omega

theorem CodePoint.toNat_injective {c d : CodePoint} (same : c.toNat = d.toNat) : c = d := by
  cases c with
  | char c =>
    cases d with
    | char d => rw [Char.toNat_inj.mp same]
    | surrogate m => exact absurd same (toNat_char_ne c m)
  | surrogate n =>
    cases d with
    | char d => exact absurd same.symm (toNat_char_ne d n)
    | surrogate m => rw [Fin.ext (Nat.add_left_cancel same)]

namespace Text

/-- `s` stands before `t` in the lexicographic order of the code points' values. -/
def Before (s t : Text) : Prop := List.Lex (fun c d => c.toNat < d.toNat) s t

theorem before_irrefl (s : Text) : ¬Before s s := List.lex_irrefl (fun c => Nat.lt_irrefl c.toNat) s

theorem before_trans {s t u : Text} (first : Before s t) (second : Before t u) : Before s u :=
  List.lex_trans Nat.lt_trans first second

theorem le_iff {s t : Text} : le s t ↔ s = t ∨ Before s t := by
  fun_induction le s t with
  | case1 t =>
    cases t with
    | nil => simp
    | cons d t => exact ⟨fun _ => Or.inr List.Lex.nil, fun _ => rfl⟩
  | case2 c s =>
    refine ⟨(nomatch ·), ?_⟩
    rintro (same | before)
    · cases same
    · cases before
  | case3 a s b t less => exact ⟨fun _ => Or.inr (List.Lex.rel less), fun _ => rfl⟩
  | case4 a s b t less greater =>
    refine ⟨(nomatch ·), ?_⟩
    rintro (same | before)
    · cases same
      exact absurd greater less
    · rcases List.cons_lex_cons_iff.mp before with earlier | ⟨rfl, _⟩
      · exact absurd earlier less
      · exact absurd greater less
  | case5 a s b t less greater ih =>
    obtain rfl : a = b := CodePoint.toNat_injective (by omega)
    simp only [ih, List.cons.injEq, true_and, Before, List.cons_lex_cons_iff, less, false_or]

theorem le_trans {s t u : Text} (first : le s t) (second : le t u) : le s u := by
  rcases le_iff.mp first with rfl | first
  · exact second
  · rcases le_iff.mp second with rfl | second
    · exact le_iff.mpr (Or.inr first)
    · exact le_iff.mpr (Or.inr (before_trans first second))

theorem le_total (s t : Text) : le s t || le t s := by
  fun_induction le s t with
  | case1 t => rfl
  | case2 c s => rfl
  | case3 a s b t less => rfl
  | case4 a s b t less greater => simp [le, greater]
  | case5 a s b t less greater ih => simpa [le, less, greater] using ih

/-- No text stands before one that is at most as great. -/
theorem not_before_of_le {s t : Text} (ordered : le s t) : ¬Before t s := by
  intro after
  rcases le_iff.mp ordered with rfl | before
  · exact before_irrefl _ after
  · exact before_irrefl _ (before_trans before after)

theorem foldr_distinct {ts : List Text} (sorted : ts.Pairwise (fun s t => le s t)) :
    let kept := ts.foldr (fun t acc => if acc.head? = some t then acc else t :: acc) []
    kept.Pairwise Before ∧ ∀ t, t ∈ kept ↔ t ∈ ts := by
  induction ts with
  | nil => exact ⟨List.Pairwise.nil, fun _ => Iff.rfl⟩
  | cons t ts ih =>
    obtain ⟨first, rest⟩ := List.pairwise_cons.mp sorted
    obtain ⟨increasing, same⟩ := ih rest
    rw [List.foldr_cons]
    generalize ts.foldr (fun t acc => if acc.head? = some t then acc else t :: acc) [] = kept at *
    split
    · rename_i repeated
      have member : t ∈ ts := (same t).mp (List.mem_of_mem_head? repeated)
      refine ⟨increasing, fun u => (same u).trans ?_⟩
      rw [List.mem_cons]
      exact ⟨Or.inr, fun h => h.elim (fun eq => eq ▸ member) id⟩
    · rename_i fresh
      refine ⟨List.pairwise_cons.mpr ⟨?_, increasing⟩, fun u => by simp [same u]⟩
      intro u member
      refine (le_iff.mp (first u ((same u).mp member))).resolve_left ?_
      rintro rfl
      -- The first of the texts kept is not `t`, so that it stands before `t`, but `t` is the least of all.
      cases kept with
      | nil => cases member
      | cons least kept =>
        have later : t ∈ kept := (List.mem_cons.mp member).resolve_left fun eq => fresh (by rw [eq]; rfl)
        have before := (List.pairwise_cons.mp increasing).1 t later
        exact not_before_of_le (first least ((same least).mp List.mem_cons_self)) before

/-- `sortDistinct` gives the same texts in strictly increasing order. -/
theorem sortDistinct_increasing (ts : List Text) :
    (sortDistinct ts).Pairwise Before ∧ ∀ t, t ∈ sortDistinct ts ↔ t ∈ ts := by
  have sorted : (ts.mergeSort le).Pairwise (fun s t => le s t) :=
    List.pairwise_mergeSort (fun s t u => @le_trans s t u) le_total ts
  obtain ⟨increasing, same⟩ := foldr_distinct sorted
  exact ⟨increasing, fun t => (same t).trans List.mem_mergeSort⟩

theorem sortDistinct_perm {ts : List Text} (distinct : ts.Nodup) : (sortDistinct ts).Perm ts := by
  obtain ⟨increasing, same⟩ := sortDistinct_increasing ts
  have nodup : (sortDistinct ts).Nodup := by
    refine increasing.imp ?_
    rintro s _ before rfl
    exact before_irrefl s before
  exact (List.perm_ext_iff_of_nodup nodup distinct).mpr same

/-- Texts in strictly increasing order are what sorting texts with the same members gives. -/
theorem sortDistinct_eq {ts us : List Text} (increasing : us.Pairwise Before) (same : ∀ t, t ∈ ts ↔ t ∈ us) :
    sortDistinct ts = us := by
  obtain ⟨increasing', same'⟩ := sortDistinct_increasing ts
  have distinct : ∀ {vs : List Text}, vs.Pairwise Before → vs.Nodup := by
    intro vs increasing
    refine increasing.imp ?_
    rintro s _ before rfl
    exact before_irrefl s before
  have members := (List.perm_ext_iff_of_nodup (distinct increasing') (distinct increasing)).mpr
    fun t => (same' t).trans (same t)
  refine members.eq_of_pairwise (fun s t _ _ before after => ?_) increasing' increasing
  exact absurd (before_trans before after) (before_irrefl s)

end Text

end RouteScript
