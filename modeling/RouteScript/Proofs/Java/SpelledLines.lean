import Mathlib.Data.List.Forall2
import RouteScript.Proofs.Java.EscapeSequence
import RouteScript.Proofs.Text.Margin

/-!
# Lines of a source

A source and what it spells have the same lines: the same margins, the same blanks at the ends, and the same blanks taken
away (`Spells.blockLines`).
-/

namespace RouteScript.Java

/-! ### Code points that spell themselves -/

/-- Is not written by number, and does not begin an escape sequence. -/
def IsFixed (c : CodePoint) : Prop := ¬IsInert c ∧ c ≠ .char '\\'

theorem isFixed_of_isBlank {c : CodePoint} (blank : c.isBlank) : IsFixed c := by
  refine ⟨fun inert => inert.1 blank, ?_⟩
  rintro rfl
  exact absurd blank (by decide)

theorem isFixed_quote : IsFixed (.char '"') := by unfold IsFixed; decide

theorem Spells.left_nil {t : Text} (spells : Spells [] t) : t = [] := by
  cases spells
  rfl

theorem Spells.right_nil {s : Text} (spells : Spells s []) : s = [] := by
  cases spells
  rfl

theorem Spells.nil_iff {s t : Text} (spells : Spells s t) : s = [] ↔ t = [] := by
  constructor
  · rintro rfl
    exact spells.left_nil
  · rintro rfl
    exact spells.right_nil

theorem Spells.of_fixed_append {q s t : Text} (fixed : ∀ c ∈ q, IsFixed c) (spells : Spells s (q ++ t)) :
    ∃ more, s = q ++ more ∧ Spells more t := by
  induction q generalizing s with
  | nil => exact ⟨s, rfl, spells⟩
  | cons c q ih =>
    have first := fixed c List.mem_cons_self
    rw [List.cons_append] at spells
    generalize q ++ t = w at spells ih
    cases spells with
    | plain other rest =>
      obtain ⟨more, rfl, spells⟩ := ih (fun d member => fixed d (List.mem_cons_of_mem _ member)) rest
      exact ⟨more, rfl, spells⟩
    | pair => exact absurd rfl first.2
    | number marks hex four inert rest => exact absurd inert first.1
    | slash => exact absurd rfl first.2

theorem Spells.of_append_fixed {c : CodePoint} {s t : Text} (fixed : IsFixed c) (spells : Spells s (t ++ [c])) :
    ∃ more, s = more ++ [c] ∧ Spells more t := by
  generalize whole : t ++ [c] = w at spells
  induction spells generalizing t with
  | nil => simp at whole
  | @plain d s w other rest ih =>
    cases t with
    | nil =>
      cases whole
      exact ⟨[], by rw [rest.right_nil, List.nil_append], .nil⟩
    | cons x t =>
      cases whole
      obtain ⟨more, rfl, spells⟩ := ih rfl
      exact ⟨d :: more, rfl, .plain other spells⟩
  | @pair d s w other rest ih =>
    rcases t with _ | ⟨x, _ | ⟨y, t⟩⟩
    · simp at whole
    · -- Without the code point that it took along, the backslash stands alone at the end.
      cases whole
      exact ⟨[.char '\\'], by rw [rest.right_nil]; rfl, .slash⟩
    · cases whole
      obtain ⟨more, rfl, spells⟩ := ih rfl
      exact ⟨.char '\\' :: d :: more, rfl, .pair other spells⟩
  | @number marks digits values s w hex four inert rest ih =>
    cases t with
    | nil =>
      cases whole
      exact absurd inert fixed.1
    | cons x t =>
      cases whole
      obtain ⟨more, rfl, spells⟩ := ih rfl
      exact ⟨.char '\\' :: (List.replicate (marks + 1) (.char 'u') ++ digits ++ more), by simp,
        .number marks hex four inert spells⟩
  | slash =>
    cases t with
    | nil =>
      cases whole
      exact absurd rfl fixed.2
    | cons x t => simp at whole

theorem Spells.append_feed {s s' t t' : Text} (spells : Spells s t) (spells' : Spells s' t') :
    Spells (s ++ .char '\n' :: s') (t ++ .char '\n' :: t') := by
  induction spells with
  | nil => exact .plain (by decide) spells'
  | plain other rest ih => exact .plain other ih
  | pair other rest ih => exact .pair other ih
  | number marks hex four inert rest ih => simpa using Spells.number marks hex four inert ih
  | slash => exact .pair (by decide) spells'

/-! ### Lines -/

/-- Relations that hold line by line go on to hold when both texts are continued at the front. -/
theorem forall₂_parts_append {R : Text → Text → Prop} {x y s t : Text} (one : .char '\n' ∉ x) (one' : .char '\n' ∉ y)
    (joined : ∀ {l l' : Text}, R l l' → R (x ++ l) (y ++ l'))
    (lines : List.Forall₂ R (Text.parts (.char '\n') s) (Text.parts (.char '\n') t)) :
    List.Forall₂ R (Text.parts (.char '\n') (x ++ s)) (Text.parts (.char '\n') (y ++ t)) := by
  obtain ⟨first, rest, cut, cut'⟩ := Text.parts_prepend_of_not_mem one s
  obtain ⟨first', rest', cutRight, cutRight'⟩ := Text.parts_prepend_of_not_mem one' t
  rw [cut, cutRight, List.forall₂_cons] at lines
  rw [cut', cutRight', List.forall₂_cons]
  exact ⟨joined lines.1, lines.2⟩

theorem hex_visible {digits : List CodePoint} {values : List Nat}
    (hex : digits.map CodePoint.hexValue? = values.map some) : ∀ c ∈ digits, ¬c.isBlank := by
  intro c member blank
  have found : c.hexValue? ∈ values.map some := hex ▸ List.mem_map_of_mem member
  obtain ⟨v, _, value⟩ := List.mem_map.mp found
  simp only [CodePoint.isBlank, inRanges, List.any_cons, List.any_nil, Bool.or_eq_true, Bool.and_eq_true,
    decide_eq_true_eq, Bool.or_false] at blank
  have none : c.hexValue? = none := by
    simp only [CodePoint.hexValue?, CodePoint.isAsciiDigit, CodePoint.inRange, Bool.and_eq_true, decide_eq_true_eq]
    rw [if_neg (by omega), if_neg (by omega), if_neg (by omega)]
  rw [none] at value
  cases value

theorem spelling_visible (marks : Nat) {digits : List CodePoint} {values : List Nat}
    (hex : digits.map CodePoint.hexValue? = values.map some) :
    ∀ c ∈ .char '\\' :: (List.replicate (marks + 1) (.char 'u') ++ digits), ¬c.isBlank := by
  simp only [List.mem_cons, List.mem_append, List.mem_replicate]
  rintro c (rfl | ⟨_, rfl⟩ | member)
  · decide
  · decide
  · exact hex_visible hex c member

theorem Spells.parts {s t : Text} (spells : Spells s t) :
    List.Forall₂ Spells (Text.parts (.char '\n') s) (Text.parts (.char '\n') t) := by
  induction spells with
  | nil => exact .cons .nil .nil
  | @plain c s t other rest ih =>
    by_cases feed : c = .char '\n'
    · subst feed
      rw [Text.parts_cons_self, Text.parts_cons_self]
      exact .cons .nil ih
    · have one : .char '\n' ∉ [c] := by simpa using Ne.symm feed
      exact forall₂_parts_append one one (.plain other) ih
  | @pair c s t other rest ih =>
    by_cases feed : c = .char '\n'
    · subst feed
      have one : .char '\n' ∉ [CodePoint.char '\\'] := by decide
      have cut : ∀ t, Text.parts (.char '\n') (.char '\\' :: .char '\n' :: t) = [.char '\\'] :: Text.parts (.char '\n') t :=
        fun t => Text.parts_append_cons one t
      rw [cut, cut]
      exact .cons .slash ih
    · have one : .char '\n' ∉ [.char '\\', c] := by simpa using Ne.symm feed
      exact forall₂_parts_append one one (.pair other) ih
  | @number marks digits values s t hex four inert rest ih =>
    have one : .char '\n' ∉ .char '\\' :: (List.replicate (marks + 1) (.char 'u') ++ digits) :=
      fun member => spelling_visible marks hex _ member (by decide)
    have one' : .char '\n' ∉ [CodePoint.ofNat (ofDigits 16 values)] := by
      rw [List.mem_singleton]
      intro same
      exact inert.1 (same ▸ by decide)
    simpa using forall₂_parts_append one one' (fun spells => by simpa using Spells.number marks hex four inert spells) ih
  | slash => exact .cons .slash .nil

/-! ### Blanks at the edges of a line -/

theorem not_isMarginBlank_of_isInert {c : CodePoint} (inert : IsInert c) : Text.isMarginBlank c = false :=
  Bool.eq_false_iff.mpr fun margin => inert.1 (Text.isBlank_of_isMarginBlank margin)

theorem Spells.all_isMarginBlank {s t : Text} (spells : Spells s t) :
    s.all Text.isMarginBlank = t.all Text.isMarginBlank := by
  induction spells with
  | nil => rfl
  | plain other rest ih => rw [List.all_cons, List.all_cons, ih]
  | pair other rest ih => rfl
  | number marks hex four inert rest ih => rw [List.all_cons, List.all_cons, not_isMarginBlank_of_isInert inert]; rfl
  | slash => rfl

theorem Spells.margin {s t : Text} (spells : Spells s t) : Text.margin s = Text.margin t := by
  induction spells with
  | nil => rfl
  | plain other rest ih =>
    simp only [Text.margin, List.takeWhile_cons] at ih ⊢
    rw [ih]
  | pair other rest ih => rfl
  | number marks hex four inert rest ih =>
    rw [Text.margin, Text.margin, List.takeWhile_cons_of_neg (by decide),
      List.takeWhile_cons_of_neg (by simp [not_isMarginBlank_of_isInert inert])]
  | slash => rfl

theorem Spells.drop {s t : Text} (spells : Spells s t) {k : Nat} (within : k ≤ (Text.margin t).length) :
    Spells (s.drop k) (t.drop k) := by
  induction spells generalizing k with
  | nil => simpa using Spells.nil
  | @plain c s t other rest ih =>
    cases k with
    | zero => exact .plain other rest
    | succ k =>
      rw [List.drop_succ_cons, List.drop_succ_cons]
      refine ih ?_
      by_cases blank : Text.isMarginBlank c
      · simpa [Text.margin, List.takeWhile_cons, blank] using within
      · simp [Text.margin, blank] at within
  | pair other rest ih =>
    obtain rfl : k = 0 := by simpa [Text.margin, List.takeWhile_cons, Text.isMarginBlank] using within
    exact .pair other rest
  | number marks hex four inert rest ih =>
    obtain rfl : k = 0 := by
      simpa [Text.margin, List.takeWhile_cons, not_isMarginBlank_of_isInert inert] using within
    exact .number marks hex four inert rest
  | slash =>
    obtain rfl : k = 0 := by simpa [Text.margin, List.takeWhile_cons, Text.isMarginBlank] using within
    exact .slash

theorem Spells.stripRight {s t : Text} (spells : Spells s t) : Spells (Text.stripRight s) (Text.stripRight t) := by
  induction spells with
  | nil => exact .nil
  | plain other rest ih =>
    rw [Text.stripRight_cons_eq, Text.stripRight_cons_eq]
    simp only [ih.nil_iff]
    split
    · exact .nil
    · exact .plain other ih
  | pair other rest ih =>
    have visible : ¬(CodePoint.char '\\').isBlank := by decide
    rw [Text.stripRight_cons visible, Text.stripRight_cons visible, Text.stripRight_cons_eq, Text.stripRight_cons_eq]
    simp only [ih.nil_iff]
    split
    · exact .slash
    · exact .pair other ih
  | @number marks digits values s t hex four inert rest ih =>
    have cut := Text.stripRight_visible_append (spelling_visible marks hex) s
    rw [List.cons_append] at cut
    rw [cut, Text.stripRight_cons inert.1]
    exact .number marks hex four inert ih
  | slash => exact .slash

/-! ### The lines of a text block -/

/-- Lines of spaces and tabs alone are stripped to nothing, so the margin may be taken from them as from the others. -/
theorem blockLines_eq (body : Text) :
    blockLines body = Text.joinWith "\n" ((Text.parts (.char '\n') body).map fun line =>
      Text.stripRight (line.drop (Text.commonMargin (Text.parts (.char '\n') body)).length)) := by
  rw [blockLines, Text.parts_dedent, List.map_map]
  congr 1
  refine List.map_congr_left fun line member => ?_
  rw [Function.comp_apply]
  split
  · rename_i blanks
    have blanks : ∀ c ∈ line, c.isBlank := fun c member =>
      Text.isBlank_of_isMarginBlank (List.all_eq_true.mp blanks c member)
    rw [Text.stripRight_eq_nil fun c member => blanks c (List.mem_of_mem_drop member)]
    rfl
  · rfl

theorem commonMargin_congr {ls ls' : List Text} (lines : List.Forall₂ Spells ls ls') :
    Text.commonMargin ls = Text.commonMargin ls' := by
  have same : (ls.filter fun line => !line.all Text.isMarginBlank).map Text.margin =
      (ls'.filter fun line => !line.all Text.isMarginBlank).map Text.margin := by
    induction lines with
    | nil => rfl
    | cons spells lines ih =>
      rw [List.filter_cons, List.filter_cons, spells.all_isMarginBlank]
      split
      · rw [List.map_cons, List.map_cons, spells.margin, ih]
      · exact ih
  rw [Text.commonMargin, Text.commonMargin, same]

theorem Spells.joinWith {ls ls' : List Text} (lines : List.Forall₂ Spells ls ls') :
    Spells (Text.joinWith "\n" ls) (Text.joinWith "\n" ls') := by
  induction lines with
  | nil => exact .nil
  | @cons l l' ls ls' spells lines ih =>
    cases lines with
    | nil => exact spells
    | cons next rest =>
      rw [Text.joinWith_cons _ l (List.cons_ne_nil _ _), Text.joinWith_cons _ l' (List.cons_ne_nil _ _),
        List.append_assoc, List.append_assoc]
      exact spells.append_feed ih

/-- The lines of a text block in the source and in what it spells. -/
theorem Spells.blockLines {s t : Text} (spells : Spells s t) : Spells (blockLines s) (blockLines t) := by
  have lines := spells.parts
  rw [blockLines_eq, blockLines_eq, commonMargin_congr lines]
  have within : ∀ line ∈ Text.parts (.char '\n') t, ¬line.all Text.isMarginBlank →
      (Text.commonMargin (Text.parts (.char '\n') t)).length ≤ (Text.margin line).length :=
    fun line member counts => (Text.commonMargin_prefix member counts).length_le
  generalize (Text.commonMargin (Text.parts (.char '\n') t)).length = k at within
  refine Spells.joinWith ?_
  generalize Text.parts (.char '\n') s = ls at lines
  generalize Text.parts (.char '\n') t = ls' at lines within
  induction lines with
  | nil => exact .nil
  | @cons l l' ls ls' spells lines ih =>
    refine .cons ?_ (ih fun line member => within line (List.mem_cons_of_mem _ member))
    by_cases blanks : l'.all Text.isMarginBlank
    · have empty : ∀ line : Text, line.all Text.isMarginBlank → Text.stripRight (line.drop k) = [] :=
        fun line blanks => Text.stripRight_eq_nil fun c member =>
          Text.isBlank_of_isMarginBlank (List.all_eq_true.mp blanks c (List.mem_of_mem_drop member))
      simpa only [empty l (spells.all_isMarginBlank ▸ blanks), empty l' blanks] using Spells.nil
    · exact (spells.drop (within l' List.mem_cons_self blanks)).stripRight

end RouteScript.Java
