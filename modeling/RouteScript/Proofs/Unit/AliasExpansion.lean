import Mathlib.Data.List.Nodup
import RouteScript.Proofs.Text.Order
import RouteScript.Proofs.Text.Parts
import RouteScript.Unit.Alias

/-!
# Aliases are expanded leftmost and longest

A script is cut into text that is kept and aliases that are replaced. `Cut.IsLeftmostLongest` says which cut
is meant, by the places where keys stand as tokens in the script and not by the way the script is scanned:
each alias is the longest that stands at its place, and none stands anywhere in the kept text. There is one
such cut, and `expand` writes the expansions into it (`expand_leftmost_longest`).
-/

namespace RouteScript.Alias

/-- Kept text and the alias behind it, again and again, and the text behind the last alias. -/
structure Cut where
  pieces : List (Text × Alias)
  rest : Text

namespace Cut

/-- The script that is cut. -/
def source (d : Cut) : Text := d.pieces.flatMap (fun (kept, a) => kept ++ a.1) ++ d.rest

/-- The script with an expansion in place of each alias. -/
def expanded (d : Cut) : Text := d.pieces.flatMap (fun (kept, a) => kept ++ a.2) ++ d.rest

def cons (kept : Text) (a : Alias) (d : Cut) : Cut := ⟨(kept, a) :: d.pieces, d.rest⟩

theorem source_cons (kept : Text) (a : Alias) (d : Cut) : (cons kept a d).source = kept ++ (a.1 ++ d.source) := by
  simp [source, cons]

theorem expanded_cons (kept : Text) (a : Alias) (d : Cut) : (cons kept a d).expanded = kept ++ (a.2 ++ d.expanded) := by
  simp [expanded, cons]

end Cut

/-- `key` stands at index `n` of `script`, and a word character at its edge does not touch another one. -/
def IsTokenAt (script : Text) (n : Nat) (key : Text) : Prop :=
  key <+: script.drop n ∧
    (∀ first ∈ key.head?, first.isWord → ∀ c ∈ (script.take n).getLast?, ¬c.isWord) ∧
    ∀ last ∈ key.getLast?, last.isWord → ∀ c ∈ (script.drop (n + key.length)).head?, ¬c.isWord

/-- The alias stands at index `n`, and none with a longer key does. -/
def IsLongestAt (aliases : List Alias) (script : Text) (n : Nat) (a : Alias) : Prop :=
  a ∈ aliases ∧ IsTokenAt script n a.1 ∧ ∀ b ∈ aliases, IsTokenAt script n b.1 → b.1.length ≤ a.1.length

/-- No alias stands at any of the `width` indices from `start` on. -/
def NoneWithin (aliases : List Alias) (script : Text) (start width : Nat) : Prop :=
  ∀ k < width, ∀ a ∈ aliases, ¬IsTokenAt script (start + k) a.1

/-- Of a cut that begins at index `n`: each alias is the longest at its place, and none stands in the kept text. -/
def Cut.FollowsFrom (aliases : List Alias) (script : Text) (n : Nat) : List (Text × Alias) → Text → Prop
  | [], rest => NoneWithin aliases script n rest.length
  | (kept, a) :: pieces, rest =>
    NoneWithin aliases script n kept.length ∧ IsLongestAt aliases script (n + kept.length) a ∧
      FollowsFrom aliases script (n + kept.length + a.1.length) pieces rest

structure Cut.IsLeftmostLongest (aliases : List Alias) (script : Text) (d : Cut) : Prop where
  source : d.source = script
  follows : FollowsFrom aliases script 0 d.pieces d.rest

/-! ### Tokens -/

theorem separate_iff {x y : Option CodePoint} :
    separate x y ↔ ∀ c ∈ x, c.isWord → ∀ d ∈ y, ¬d.isWord := by
  cases x with
  | none => simp [separate]
  | some c =>
    cases y with
    | none => simp [separate]
    | some d => cases word : c.isWord <;> simp [separate, word]

theorem separate_comm (x y : Option CodePoint) : separate x y = separate y x := by
  rw [separate, separate, Bool.and_comm]

theorem standsAt_iff (front t : Text) (a : Alias) :
    standsAt front.getLast? t a ↔ IsTokenAt (front ++ t) front.length a.1 := by
  rw [IsTokenAt, List.drop_left, List.take_left, List.drop_length_add_append, ← separate_iff, ← separate_iff,
    separate_comm _ front.getLast?]
  unfold standsAt
  cases found : Text.after? a.1 t with
  | none => simp [Text.after?_eq_none_iff.mp found]
  | some rest =>
    obtain rfl := Text.after?_eq_some_iff.mp found
    simp

/-! ### The order in which aliases are tried -/

theorem before_iff {a b : Alias} :
    before a b ↔ b.1.length < a.1.length ∨ a.1.length = b.1.length ∧ Text.le a.1 b.1 := by
  unfold before
  by_cases same : a.1.length = b.1.length
  · simp [same]
  · simp [same]

theorem before_trans (a b c : Alias) (first : before a b) (second : before b c) : before a c := by
  rw [before_iff] at *
  rcases first with longer | ⟨same, ordered⟩
  · exact Or.inl (by omega)
  · rcases second with longer | ⟨same', ordered'⟩
    · exact Or.inl (by omega)
    · exact Or.inr ⟨same.trans same', Text.le_trans ordered ordered'⟩

theorem before_total (a b : Alias) : before a b || before b a := by
  rw [Bool.or_eq_true, before_iff, before_iff]
  rcases Nat.lt_trichotomy a.1.length b.1.length with shorter | same | longer
  · exact Or.inr (Or.inl shorter)
  · have ordered := Text.le_total a.1 b.1
    rw [Bool.or_eq_true] at ordered
    exact ordered.imp (fun le => Or.inr ⟨same, le⟩) fun le => Or.inr ⟨same.symm, le⟩
  · exact Or.inl (Or.inl longer)

theorem length_le_of_before {a b : Alias} (first : before a b) : b.1.length ≤ a.1.length := by
  rw [before_iff] at first
  omega

theorem sorted_mergeSort (aliases : List Alias) :
    (aliases.mergeSort before).Pairwise fun a b => b.1.length ≤ a.1.length :=
  (List.pairwise_mergeSort before_trans before_total aliases).imp length_le_of_before

/-! ### The cut that a scan makes -/

section Scan

variable {aliases : List Alias} {script : Text}

/-- The first alias that stands at a place is the longest that does. -/
theorem isLongestAt_of_find? {tried : List Alias} (sorted : tried.Pairwise fun a b => b.1.length ≤ a.1.length)
    (same : ∀ a, a ∈ tried ↔ a ∈ aliases) {front t : Text} {a : Alias}
    (found : tried.find? (standsAt front.getLast? t) = some a) : IsLongestAt aliases (front ++ t) front.length a := by
  obtain ⟨stands, earlier, later, rfl, none⟩ := List.find?_eq_some_iff_append.mp found
  refine ⟨(same a).mp (by simp), (standsAt_iff front t a).mp stands, fun b member token => ?_⟩
  have stands' := (standsAt_iff front t b).mpr token
  rcases List.mem_append.mp ((same b).mpr member) with before | after
  · have missed := none b before
    rw [stands'] at missed
    cases missed
  · rcases List.mem_cons.mp after with rfl | after
    · exact Nat.le_refl _
    · exact (List.pairwise_cons.mp (List.pairwise_append.mp sorted).2.1).1 b after

theorem NoneWithin.cons {n width : Nat} (here : ∀ a ∈ aliases, ¬IsTokenAt script n a.1)
    (later : NoneWithin aliases script (n + 1) width) : NoneWithin aliases script n (width + 1) := by
  intro k within
  cases k with
  | zero => exact here
  | succ k =>
    have shifted := later k (Nat.lt_of_succ_lt_succ within)
    rw [Nat.add_assoc, Nat.add_comm 1] at shifted
    exact shifted

/-- A code point at which no alias stands goes to the kept text behind it. -/
theorem exists_cut_cons {n : Nat} (here : ∀ a ∈ aliases, ¬IsTokenAt script n a.1) (c : CodePoint) {d : Cut}
    (follows : Cut.FollowsFrom aliases script (n + 1) d.pieces d.rest) :
    ∃ d' : Cut, Cut.FollowsFrom aliases script n d'.pieces d'.rest ∧ d'.source = c :: d.source ∧
      d'.expanded = c :: d.expanded := by
  obtain ⟨pieces, rest⟩ := d
  cases pieces with
  | nil => exact ⟨⟨[], c :: rest⟩, NoneWithin.cons here follows, rfl, rfl⟩
  | cons piece pieces =>
    obtain ⟨kept, a⟩ := piece
    obtain ⟨none, longest, further⟩ := follows
    have place : n + 1 + kept.length = n + (c :: kept).length := by
      rw [List.length_cons]
      omega
    rw [place] at longest further
    exact ⟨⟨(c :: kept, a) :: pieces, rest⟩, ⟨NoneWithin.cons here none, longest, further⟩, rfl, rfl⟩

theorem expandFrom_cut {tried : List Alias} (sorted : tried.Pairwise fun a b => b.1.length ≤ a.1.length)
    (same : ∀ a, a ∈ tried ↔ a ∈ aliases) (filled : ∀ a ∈ aliases, a.1 ≠ []) (previous : Option CodePoint) (t : Text) :
    ∀ front, front ++ t = script → front.getLast? = previous →
      ∃ d : Cut, Cut.FollowsFrom aliases script front.length d.pieces d.rest ∧ d.source = t ∧
        expandFrom tried previous t = d.expanded := by
  -- `front` is what was read before `t`; only its last code point is known to the expansion.
  fun_induction expandFrom tried previous t with
  | case1 previous =>
    intro front _ _
    exact ⟨⟨[], []⟩, fun k within => absurd within (Nat.not_lt_zero k), rfl, rfl⟩
  | case2 previous c t key expansion found ih =>
    rintro front rfl rfl
    have longest := isLongestAt_of_find? sorted same found
    have nonempty : key ≠ [] := filled _ longest.1
    obtain ⟨first, more, rfl⟩ := List.exists_cons_of_ne_nil nonempty
    obtain ⟨after, cut⟩ : first :: more <+: c :: t := by
      have begins := longest.2.1.1
      rwa [List.drop_left] at begins
    cases cut
    rw [List.length_cons, Nat.add_sub_cancel, List.append_eq, List.drop_left] at ih ⊢
    obtain ⟨d, follows, source, expanded⟩ := ih (front ++ c :: more) (by simp)
      (List.getLast?_append_cons front c more)
    rw [List.length_append] at follows
    refine ⟨Cut.cons [] (c :: more, expansion) d, ⟨?_, longest, follows⟩, ?_, ?_⟩
    · exact fun k within => absurd within (Nat.not_lt_zero k)
    · rw [Cut.source_cons, source, List.nil_append, List.cons_append]
    · rw [Cut.expanded_cons, expanded, List.nil_append]
  | case3 previous c t none ih =>
    rintro front rfl rfl
    have here : ∀ a ∈ aliases, ¬IsTokenAt (front ++ c :: t) front.length a.1 := by
      intro a member token
      exact List.find?_eq_none.mp none a ((same a).mpr member) ((standsAt_iff front (c :: t) a).mpr token)
    obtain ⟨d, follows, source, expanded⟩ := ih (front ++ [c]) (by simp) (by simp)
    rw [List.length_append, List.length_singleton] at follows
    obtain ⟨d', follows', source', expanded'⟩ := exists_cut_cons here c follows
    exact ⟨d', follows', by rw [source', source], by rw [expanded, expanded']⟩

/-! ### There is one cut only -/

/-- Keys of one length that stand at one place are the same. -/
theorem IsLongestAt.unique (distinct : (aliases.map Prod.fst).Nodup) {n : Nat} {a b : Alias}
    (first : IsLongestAt aliases script n a) (second : IsLongestAt aliases script n b) : a = b := by
  have shorter := second.2.2 a first.1 first.2.1
  have longer := first.2.2 b second.1 second.2.1
  have key : a.1 = b.1 := by
    have begins := List.prefix_of_prefix_length_le first.2.1.1 second.2.1.1 shorter
    exact begins.eq_of_length (Nat.le_antisymm shorter longer)
  exact List.inj_on_of_nodup_map distinct first.1 second.1 key

/-- Where an alias stands behind `kept`, text without one is not longer than `kept`. -/
theorem NoneWithin.le {n width : Nat} (none : NoneWithin aliases script n width) {kept : Text} {a : Alias}
    (longest : IsLongestAt aliases script (n + kept.length) a) : width ≤ kept.length := by
  by_contra longer
  exact none kept.length (by omega) a longest.1 longest.2.1

theorem NoneWithin.lt_length_source (filled : ∀ a ∈ aliases, a.1 ≠ []) {n width : Nat}
    (none : NoneWithin aliases script n width) {kept : Text} {a : Alias}
    (longest : IsLongestAt aliases script (n + kept.length) a) (pieces : List (Text × Alias)) (rest : Text) :
    width < (Cut.mk ((kept, a) :: pieces) rest).source.length := by
  have short := none.le longest
  have positive := List.length_pos_iff.mpr (filled a longest.1)
  simp only [Cut.source, List.flatMap_cons, List.length_append]
  omega

theorem follows_unique (filled : ∀ a ∈ aliases, a.1 ≠ []) (distinct : (aliases.map Prod.fst).Nodup)
    {pieces pieces' : List (Text × Alias)} {rest rest' : Text} {n : Nat}
    (first : Cut.FollowsFrom aliases script n pieces rest) (second : Cut.FollowsFrom aliases script n pieces' rest')
    (same : (Cut.mk pieces rest).source = (Cut.mk pieces' rest').source) : pieces = pieces' ∧ rest = rest' := by
  induction pieces generalizing pieces' n with
  | nil =>
    cases pieces' with
    | nil => exact ⟨rfl, by simpa [Cut.source] using same⟩
    | cons piece pieces' =>
      obtain ⟨kept, a⟩ := piece
      have longer := NoneWithin.lt_length_source filled first second.2.1 pieces' rest'
      rw [← same] at longer
      exact absurd longer (Nat.lt_irrefl _)
  | cons piece pieces ih =>
    obtain ⟨kept, a⟩ := piece
    cases pieces' with
    | nil =>
      have longer := NoneWithin.lt_length_source filled second first.2.1 pieces rest
      rw [same] at longer
      exact absurd longer (Nat.lt_irrefl _)
    | cons piece' pieces' =>
      obtain ⟨kept', a'⟩ := piece'
      have size : kept.length = kept'.length :=
        Nat.le_antisymm (first.1.le second.2.1) (second.1.le first.2.1)
      have cut : kept ++ (a.1 ++ (Cut.mk pieces rest).source) = kept' ++ (a'.1 ++ (Cut.mk pieces' rest').source) := by
        rw [← Cut.source_cons, ← Cut.source_cons]
        exact same
      obtain ⟨rfl, cut⟩ := List.append_inj cut size
      obtain rfl := first.2.1.unique distinct second.2.1
      obtain ⟨rfl, rfl⟩ := ih first.2.2 second.2.2
        (List.append_cancel_left (List.append_cancel_left cut))
      exact ⟨rfl, rfl⟩

end Scan

/-- Aliases are expanded leftmost, longest and once, in whatever order they are given. -/
theorem expand_leftmost_longest {aliases : List Alias} (filled : ∀ a ∈ aliases, a.1 ≠ [])
    (distinct : (aliases.map Prod.fst).Nodup) (script : Text) :
    ∃ d : Cut, d.IsLeftmostLongest aliases script ∧ (∀ other : Cut, other.IsLeftmostLongest aliases script → other = d) ∧
      ∀ order : List Alias, order.Perm aliases → expand order script = d.expanded := by
  have scanned : ∀ order : List Alias, order.Perm aliases →
      ∃ d : Cut, d.IsLeftmostLongest aliases script ∧ expand order script = d.expanded := by
    intro order perm
    obtain ⟨d, follows, source, expanded⟩ := expandFrom_cut (sorted_mergeSort order)
      (fun a => List.mem_mergeSort.trans perm.mem_iff) filled none script [] rfl rfl
    exact ⟨d, ⟨source, follows⟩, expanded⟩
  have unique : ∀ d d' : Cut, d.IsLeftmostLongest aliases script → d'.IsLeftmostLongest aliases script → d' = d := by
    rintro ⟨pieces, rest⟩ ⟨pieces', rest'⟩ first second
    obtain ⟨rfl, rfl⟩ := follows_unique filled distinct first.follows second.follows
      (first.source.trans second.source.symm)
    rfl
  obtain ⟨d, isCut, _⟩ := scanned aliases (List.Perm.refl aliases)
  refine ⟨d, isCut, fun other isOther => unique d other isCut isOther, fun order perm => ?_⟩
  obtain ⟨d', isCut', expanded⟩ := scanned order perm
  rw [expanded, unique d d' isCut isCut']

instance (script : Text) (n : Nat) (key : Text) : Decidable (IsTokenAt script n key) :=
  inferInstanceAs (Decidable (_ ∧ _ ∧ _))

instance (aliases : List Alias) (script : Text) (n : Nat) (a : Alias) : Decidable (IsLongestAt aliases script n a) :=
  inferInstanceAs (Decidable (_ ∧ _ ∧ _))

instance (aliases : List Alias) (script : Text) (n width : Nat) : Decidable (NoneWithin aliases script n width) :=
  inferInstanceAs (Decidable (∀ k < width, ∀ a ∈ aliases, ¬IsTokenAt script (n + k) a.1))

instance decidableFollowsFrom (aliases : List Alias) (script : Text) :
    (n : Nat) → (pieces : List (Text × Alias)) → (rest : Text) → Decidable (Cut.FollowsFrom aliases script n pieces rest)
  | n, [], rest => inferInstanceAs (Decidable (NoneWithin aliases script n rest.length))
  | n, (kept, a) :: pieces, rest =>
    haveI := decidableFollowsFrom aliases script (n + kept.length + a.1.length) pieces rest
    inferInstanceAs (Decidable (_ ∧ _ ∧ _))

/-- The longer alias does not stand before a word character, so that the shorter one does. -/
theorem expand_leftmost_longest_fallback :
    expand [("a", "a a"), ("a b", "Y")] "a bc a b.ba" = "a a bc Y.ba" ∧
      expand [("a b", "Y"), ("a", "a a")] "a bc a b.ba" = "a a bc Y.ba" := by
  have filled : ∀ a ∈ ([("a", "a a"), ("a b", "Y")] : List Alias), a.1 ≠ [] := by decide
  obtain ⟨d, _, unique, expanded⟩ := expand_leftmost_longest filled (by decide) "a bc a b.ba"
  have cut := unique ⟨[([], ("a", "a a")), (" bc ", ("a b", "Y"))], ".ba"⟩ ⟨by decide, by decide +kernel⟩
  constructor
  · rw [expanded _ (List.Perm.refl _), ← cut]
    decide
  · rw [expanded _ (List.Perm.swap _ _ _), ← cut]
    decide

end RouteScript.Alias
