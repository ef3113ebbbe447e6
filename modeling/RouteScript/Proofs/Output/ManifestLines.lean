import RouteScript.Output.Writer
import RouteScript.Proofs.Text.Order
import RouteScript.Proofs.Text.Parts

/-!
# The lines of the manifest

The manifest of different names that are single lines has a line for each of them, in strictly increasing
order, behind the line that marks the file (`render_lines`). Reading the names off the lines gives them back
(`namesIn_of_lists`), so the text is a canonical form of the set of names (`render_canonical`).
-/

namespace RouteScript

theorem Text.joinWith_concat_nil (sep : Text) {ts : List Text} (filled : ts ≠ []) :
    joinWith sep (ts ++ [[]]) = joinWith sep ts ++ sep := by
  induction ts with
  | nil => exact absurd rfl filled
  | cons t ts ih =>
    by_cases last : ts = []
    · subst last
      simp [joinWith]
    · rw [List.cons_append, joinWith_cons _ _ (by simp), joinWith_cons _ _ last, ih last]
      simp only [List.append_assoc]

namespace Manifest

def headLine : Text := "# " ++ generatedMessage

/-- The text has the head line and then the listed names in strictly increasing order, a line each, and
the last line is ended too. -/
structure Lists (text : Text) (listed : List Text) : Prop where
  lines : Text.parts (.char '\n') text = headLine :: listed ++ [[]]
  increasing : listed.Pairwise Text.Before

theorem entries_ne_nil {names : List Text} (filled : names ≠ []) : entries names ≠ [] := by
  obtain ⟨name, rest, rfl⟩ := List.exists_cons_of_ne_nil filled
  exact List.ne_nil_of_mem (((Text.sortDistinct_increasing _).2 name).mpr List.mem_cons_self)

theorem render_lists {names : List Text} (filled : names ≠ []) (single : ∀ name ∈ names, CodePoint.char '\n' ∉ name) :
    ∃ text, render names = some text ∧ Lists text (entries names) := by
  obtain ⟨increasing, same⟩ := Text.sortDistinct_increasing names
  have rendered : render names = some (Text.joinWith "\n" (headLine :: entries names ++ [[]])) := by
    rw [Text.joinWith_concat_nil _ (by simp)]
    unfold render
    split
    · rename_i empty
      exact absurd empty (entries_ne_nil filled)
    · rfl
  refine ⟨_, rendered, Text.parts_joinWith (by simp) ?_, increasing⟩
  intro line member
  simp only [List.cons_append, List.mem_cons, List.mem_append, List.not_mem_nil, or_false] at member
  rcases member with rfl | listed | rfl
  · decide
  · exact single line ((same line).mp listed)
  · exact List.not_mem_nil

theorem render_lines {names : List Text} (filled : names ≠ []) (distinct : names.Nodup)
    (single : ∀ name ∈ names, CodePoint.char '\n' ∉ name) :
    ∃ text listed, render names = some text ∧ Lists text listed ∧ listed.Perm names := by
  obtain ⟨text, rendered, lists⟩ := render_lists filled single
  exact ⟨text, entries names, rendered, lists, Text.sortDistinct_perm distinct⟩

/-- The names that the text of a manifest lists, one a line. Blank lines and those that begin with `#` list none. -/
def namesIn (text : Text) : List Text :=
  (Text.parts (.char '\n') text).filter fun line => line ≠ [] ∧ line.head? ≠ some (.char '#')

theorem namesIn_of_lists {text : Text} {listed : List Text} (lists : Lists text listed)
    (names : ∀ name ∈ listed, name ≠ [] ∧ name.head? ≠ some (.char '#')) : namesIn text = listed := by
  have marked : headLine.head? = some (.char '#') := by decide
  have kept : listed.filter (fun line => line ≠ [] ∧ line.head? ≠ some (.char '#')) = listed :=
    List.filter_eq_self.mpr fun name member => decide_eq_true (names name member)
  rw [namesIn, lists.lines, List.cons_append, List.filter_cons_of_neg (by simp [marked]), List.filter_append, kept]
  exact List.append_nil listed

/-! ### Canonical form -/

/-- The lines of the text of a manifest, without the first. The last one is ended too. -/
def linesBelowHead (text : Text) : List Text := (Text.parts (.char '\n') text).tail.dropLast

theorem Lists.linesBelowHead_eq {text : Text} {listed : List Text} (lists : Lists text listed) :
    linesBelowHead text = listed := by
  rw [linesBelowHead, lists.lines, List.cons_append, List.tail_cons, List.dropLast_concat]

theorem entries_eq_iff {xs ys : List Text} : entries xs = entries ys ↔ ∀ t, t ∈ xs ↔ t ∈ ys := by
  obtain ⟨_, members⟩ := Text.sortDistinct_increasing xs
  obtain ⟨increasing, members'⟩ := Text.sortDistinct_increasing ys
  constructor
  · intro same t
    rw [← members t, ← members' t]
    exact Iff.of_eq (congrArg (t ∈ ·) same)
  · intro same
    exact Text.sortDistinct_eq increasing fun t => (same t).trans (members' t).symm

/-- Equal texts have equal lines, so that they list the same names. -/
theorem entries_eq_of_render {xs ys : List Text} (single : ∀ name ∈ xs, CodePoint.char '\n' ∉ name)
    (single' : ∀ name ∈ ys, CodePoint.char '\n' ∉ name) (same : render xs = render ys) : entries xs = entries ys := by
  have nothing : render [] = none := by simp [render, entries, Text.sortDistinct]
  by_cases empty : xs = []
  · by_cases empty' : ys = []
    · rw [empty, empty']
    · obtain ⟨text, rendered, _⟩ := render_lists empty' single'
      rw [empty, nothing, rendered] at same
      cases same
  · obtain ⟨text, rendered, lists⟩ := render_lists empty single
    by_cases empty' : ys = []
    · rw [empty', nothing, rendered] at same
      cases same
    · obtain ⟨text', rendered', lists'⟩ := render_lists empty' single'
      obtain rfl : text = text' := Option.some.inj (rendered.symm.trans (same.trans rendered'))
      rw [← lists.linesBelowHead_eq, lists'.linesBelowHead_eq]

/-- The text of a manifest is that of the set of its names. -/
theorem render_canonical {xs ys : List Text} (single : ∀ name ∈ xs, CodePoint.char '\n' ∉ name)
    (single' : ∀ name ∈ ys, CodePoint.char '\n' ∉ name) :
    (render xs = render ys ↔ ∀ t, t ∈ xs ↔ t ∈ ys) ∧
      (xs ≠ [] → ∃ text, render xs = some text ∧ (Text.parts (.char '\n') text).head? = some headLine ∧
        (linesBelowHead text).Pairwise Text.Before ∧ ∀ t, t ∈ linesBelowHead text ↔ t ∈ xs) := by
  constructor
  · constructor
    · exact fun same => entries_eq_iff.mp (entries_eq_of_render single single' same)
    · intro same
      rw [render, render, entries_eq_iff.mpr same]
  · intro filled
    obtain ⟨text, rendered, lists⟩ := render_lists filled single
    refine ⟨text, rendered, by rw [lists.lines]; rfl, ?_, ?_⟩
    · rw [lists.linesBelowHead_eq]
      exact lists.increasing
    · rw [lists.linesBelowHead_eq]
      exact (Text.sortDistinct_increasing xs).2

/-- A capital stands before small letters, a shorter name before a longer one, and an empty name has its line too. -/
theorem render_canonical_repeated :
    render ["b", "", "B", "b"] = render ["B", "b", "B", ""] ∧ render ["b", "B"] ≠ render ["b", "", "B"] ∧
      ∃ text, render ["b", "", "B", "b"] = some text ∧ linesBelowHead text = ["", "B", "b"] := by
  have single : ∀ name ∈ (["b", "", "B", "b"] : List Text), CodePoint.char '\n' ∉ name := by decide
  have single' : ∀ name ∈ (["B", "b", "B", ""] : List Text), CodePoint.char '\n' ∉ name := by decide
  have same : ∀ t, t ∈ (["b", "", "B", "b"] : List Text) ↔ t ∈ (["B", "b", "B", ""] : List Text) := by
    intro t
    simp only [List.mem_cons, List.not_mem_nil, or_false]
    tauto
  refine ⟨(render_canonical single single').1.mpr same, ?_, ?_⟩
  · intro same
    have fewer := ((render_canonical (by decide) (by decide)).1.mp same []).mpr (by decide)
    exact absurd fewer (by decide)
  · obtain ⟨text, rendered, _, increasing, members⟩ := (render_canonical single single').2 (by simp)
    refine ⟨text, rendered, ?_⟩
    have ordered : (["", "B", "b"] : List Text).Pairwise Text.Before := by
      unfold Text.Before
      decide
    rw [← Text.sortDistinct_eq increasing fun t => (members t).symm]
    exact Text.sortDistinct_eq ordered (by simp)

end Manifest

end RouteScript
