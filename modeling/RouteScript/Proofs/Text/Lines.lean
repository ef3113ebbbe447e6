import Mathlib.Data.List.DropRight
import RouteScript.Text.Lines

/-!
# Blanks and lines

What `strip` leaves of a text with blanks around it (`strip_between`), and how the lines of a text are found one
after another once its line ends are unified (`filledLines_append`).
-/

namespace RouteScript

namespace Text

/-! ### Blanks at the edges -/

/-- Holds nothing but blanks, and no line ends in it. -/
def IsGap (t : Text) : Prop := ∀ c ∈ t, c.isBlank ∧ ¬c.isLineBreak

instance (t : Text) : Decidable (IsGap t) := inferInstanceAs (Decidable (∀ c ∈ t, c.isBlank ∧ ¬c.isLineBreak))

theorem IsGap.blanks {t : Text} (gap : IsGap t) : ∀ c ∈ t, c.isBlank := fun c member => (gap c member).1

theorem stripLeft_append {s : Text} (blanks : ∀ c ∈ s, c.isBlank) (t : Text) : stripLeft (s ++ t) = stripLeft t :=
  List.dropWhile_append_of_pos blanks

theorem stripRight_append (s : Text) {t : Text} (blanks : ∀ c ∈ t, c.isBlank) : stripRight (s ++ t) = stripRight s := by
  rw [stripRight, List.reverse_append, List.dropWhile_append_of_pos (by simpa using blanks), stripRight]

theorem stripLeft_cons {c : CodePoint} (visible : ¬c.isBlank) (t : Text) : stripLeft (c :: t) = c :: t := by
  rw [stripLeft, List.dropWhile_cons, if_neg visible]

theorem stripRight_concat (t : Text) {c : CodePoint} (visible : ¬c.isBlank) : stripRight (t ++ [c]) = t ++ [c] := by
  rw [stripRight, List.reverse_append, List.reverse_singleton, List.singleton_append, List.dropWhile_cons,
    if_neg visible, List.reverse_cons, List.reverse_reverse]

theorem stripRight_cons {c : CodePoint} (visible : ¬c.isBlank) (t : Text) : stripRight (c :: t) = c :: stripRight t := by
  rw [stripRight, List.reverse_cons, List.dropWhile_append, List.dropWhile_cons, if_neg visible]
  split
  · rename_i none
    rw [stripRight, List.isEmpty_iff.mp none]
    rfl
  · rw [List.reverse_append, List.reverse_singleton, List.singleton_append, stripRight]

theorem rdropWhile_cons {α : Type} (p : α → Bool) (a : α) (l : List α) :
    (a :: l).rdropWhile p = if l.rdropWhile p = [] ∧ p a then [] else a :: l.rdropWhile p := by
  simp only [List.rdropWhile, List.reverse_cons, List.dropWhile_append, List.reverse_eq_nil_iff]
  by_cases empty : l.reverse.dropWhile p = []
  · cases kept : p a <;> simp [empty, kept]
  · simp [empty]

theorem stripRight_cons_eq (c : CodePoint) (t : Text) :
    stripRight (c :: t) = if stripRight t = [] ∧ c.isBlank then [] else c :: stripRight t :=
  rdropWhile_cons CodePoint.isBlank c t

/-- Something visible at the beginning is kept, whatever is stripped behind it. -/
theorem stripRight_visible_append {s : Text} (visible : ∀ c ∈ s, ¬c.isBlank) (t : Text) :
    stripRight (s ++ t) = s ++ stripRight t := by
  induction s with
  | nil => rfl
  | cons c s ih =>
    rw [List.cons_append, stripRight_cons (visible c List.mem_cons_self),
      ih fun d member => visible d (List.mem_cons_of_mem _ member), List.cons_append]

theorem stripRight_eq_nil {t : Text} (blanks : ∀ c ∈ t, c.isBlank) : stripRight t = [] := stripRight_append [] blanks

theorem length_stripLeft_le (t : Text) : (stripLeft t).length ≤ t.length :=
  (List.dropWhile_suffix _).length_le

theorem stripRight_isPrefix (t : Text) : stripRight t <+: t := by
  have suffix := List.dropWhile_suffix CodePoint.isBlank (l := t.reverse)
  simpa [stripRight] using List.reverse_prefix.mpr suffix

/-- A text that `strip` leaves as it is begins and ends with something visible. -/
theorem edges_of_strip {t : Text} (trimmed : strip t = t) (filled : t ≠ []) :
    (∃ c rest, t = c :: rest ∧ ¬c.isBlank) ∧ ∃ front c, t = front ++ [c] ∧ ¬c.isBlank := by
  have whole : stripLeft t = t := by
    have shorter := (stripRight_isPrefix (stripLeft t)).length_le
    have shorter' := length_stripLeft_le t
    rw [show stripRight (stripLeft t) = t from trimmed] at shorter
    exact (List.dropWhile_suffix _).eq_of_length (by rw [← stripLeft]; omega)
  have whole' : stripRight t = t := by rw [strip, whole] at trimmed; exact trimmed
  constructor
  · obtain ⟨c, rest, rfl⟩ := List.exists_cons_of_ne_nil filled
    refine ⟨c, rest, rfl, fun blank => ?_⟩
    rw [stripLeft, List.dropWhile_cons, if_pos blank] at whole
    have shorter := length_stripLeft_le rest
    rw [stripLeft, whole, List.length_cons] at shorter
    omega
  · rcases List.eq_nil_or_concat t with rfl | ⟨front, c, rfl⟩
    · exact absurd rfl filled
    · rw [List.concat_eq_append] at *
      refine ⟨front, c, rfl, fun blank => ?_⟩
      rw [stripRight_append front (by simpa using blank)] at whole'
      have shorter := (stripRight_isPrefix front).length_le
      rw [whole', List.length_append, List.length_singleton] at shorter
      omega

theorem strip_of_edges {s t u : Text} {c x : CodePoint} {rest front : Text} (before : ∀ c ∈ s, c.isBlank)
    (after : ∀ c ∈ u, c.isBlank) (first : t = c :: rest) (visible : ¬c.isBlank) (last : t = front ++ [x])
    (visible' : ¬x.isBlank) : strip (s ++ t ++ u) = t := by
  have left : stripLeft (t ++ u) = t ++ u := by rw [first, List.cons_append, stripLeft_cons visible]
  rw [strip, List.append_assoc, stripLeft_append before, left, stripRight_append t after, last,
    stripRight_concat front visible']

/-- Blanks around a text are stripped again. -/
theorem strip_between {s t u : Text} (before : ∀ c ∈ s, c.isBlank) (trimmed : strip t = t)
    (after : ∀ c ∈ u, c.isBlank) : strip (s ++ t ++ u) = t := by
  by_cases empty : t = []
  · subst empty
    have left : stripLeft u = [] := by simpa [stripLeft] using stripLeft_append after []
    rw [List.append_nil, strip, stripLeft_append before, left]
    rfl
  · obtain ⟨⟨c, rest, first, visible⟩, front, x, last, visible'⟩ := edges_of_strip trimmed empty
    exact strip_of_edges before after first visible last visible'

theorem strip_stripRight (t : Text) : strip (stripRight t) = strip t := by
  have skip : ∀ {c : CodePoint}, c.isBlank → ∀ t, strip (c :: t) = strip t := by
    intro c blank t
    rw [strip, stripLeft, List.dropWhile_cons, if_pos blank]
    rfl
  induction t with
  | nil => rfl
  | cons c t ih =>
    by_cases blank : c.isBlank
    · rw [skip blank, stripRight_cons_eq]
      split
      · rename_i none
        rw [none.1] at ih
        exact ih
      · rw [skip blank, ih]
    · have again : stripRight (stripRight t) = stripRight t := List.rdropWhile_idempotent CodePoint.isBlank t
      rw [stripRight_cons blank, strip, stripLeft_cons blank, stripRight_cons blank, again, strip,
        stripLeft_cons blank, stripRight_cons blank]

theorem strip_strip (t : Text) : strip (strip t) = strip t := by
  have again : stripLeft (stripLeft t) = stripLeft t := List.dropWhile_idempotent CodePoint.isBlank t
  calc strip (strip t) = strip (stripLeft t) := strip_stripRight (stripLeft t)
    _ = strip t := by rw [strip, again, strip]

theorem stripRight_ne_nil {t : Text} (visible : ¬isBlank t) : stripRight t ≠ [] := by
  intro none
  exact visible (List.all_eq_true.mpr (List.rdropWhile_eq_nil_iff.mp none))

theorem strip_visible_append {front t : Text} (visible : ∀ c ∈ front, ¬c.isBlank) (filled : front ≠ []) :
    strip (front ++ t) = front ++ stripRight t := by
  obtain ⟨c, rest, rfl⟩ := List.exists_cons_of_ne_nil filled
  rw [strip, List.cons_append, stripLeft_cons (visible c List.mem_cons_self), ← List.cons_append,
    stripRight_visible_append visible]

/-! ### Lines -/

theorem unifyNewlines_cons {c : CodePoint} (other : c ≠ .char '\r') (t : Text) :
    unifyNewlines (c :: t) = c :: unifyNewlines t := by
  rw [unifyNewlines]
  · rintro _ rfl
    exact absurd rfl other
  · rintro rfl
    exact other rfl

theorem unifyNewlines_append {s : Text} (absent : .char '\r' ∉ s) (t : Text) :
    unifyNewlines (s ++ t) = s ++ unifyNewlines t := by
  induction s with
  | nil => rfl
  | cons c s ih =>
    simp only [List.mem_cons, not_or] at absent
    rw [List.cons_append, unifyNewlines_cons (Ne.symm absent.1), ih absent.2, List.cons_append]

theorem lines_cons {c : CodePoint} (other : c ≠ .char '\r') (t : Text) :
    lines (c :: t) = if c.isLineBreak then [] :: lines t else pushFirst c (lines t) := by
  rw [lines]
  rintro _ rfl
  exact absurd rfl other

theorem lines_append_break {s : Text} (one : ∀ c ∈ s, ¬c.isLineBreak) {b : CodePoint} (ends : b.isLineBreak)
    (other : b ≠ .char '\r') (t : Text) : lines (s ++ b :: t) = s :: lines t := by
  induction s with
  | nil => rw [List.nil_append, lines_cons other, if_pos ends]
  | cons c s ih =>
    have inner : ¬c.isLineBreak := one c List.mem_cons_self
    have noReturn : c ≠ .char '\r' := by
      rintro rfl
      exact inner (by decide)
    rw [List.cons_append, lines_cons noReturn, if_neg inner, ih fun d member => one d (List.mem_cons_of_mem _ member)]
    rfl

theorem lines_of_one {s : Text} (one : ∀ c ∈ s, ¬c.isLineBreak) : lines s = if s = [] then [] else [s] := by
  induction s with
  | nil => rfl
  | cons c s ih =>
    have inner : ¬c.isLineBreak := one c List.mem_cons_self
    have noReturn : c ≠ .char '\r' := by
      rintro rfl
      exact inner (by decide)
    rw [lines_cons noReturn, if_neg inner, ih fun d member => one d (List.mem_cons_of_mem _ member)]
    by_cases last : s = []
    · subst last
      rfl
    · rw [if_neg last, if_neg (List.cons_ne_nil c s)]
      rfl

/-- What ends a line: one line break, or CR LF. -/
def IsLineEnd (e : Text) : Prop := e = [.char '\r', .char '\n'] ∨ ∃ c, c.isLineBreak ∧ e = [c]

/-- The lines that hold something, with CR LF and CR read as LF. -/
def filledLines (t : Text) : List Text := (lines (unifyNewlines t)).filter (· ≠ [])

theorem filledLines_of_one {s : Text} (one : ∀ c ∈ s, ¬c.isLineBreak) :
    filledLines s = if s = [] then [] else [s] := by
  have noReturn : .char '\r' ∉ s := fun member => one _ member (by decide)
  have same : unifyNewlines s = s := by simpa [unifyNewlines] using unifyNewlines_append noReturn []
  rw [filledLines, same, lines_of_one one]
  split
  · rfl
  · rename_i filled
    simp [filled]

/-- A line and its end in front of other lines. -/
theorem filledLines_append {s e : Text} (one : ∀ c ∈ s, ¬c.isLineBreak) (ended : IsLineEnd e) (t : Text) :
    filledLines (s ++ e ++ t) = filledLines s ++ filledLines t := by
  have noReturn : .char '\r' ∉ s := fun member => one _ member (by decide)
  have alone : filledLines s = [s].filter (· ≠ []) := by
    rw [filledLines_of_one one]
    split <;> simp_all
  have step : ∀ {b : CodePoint} (u : Text), b.isLineBreak → b ≠ .char '\r' → unifyNewlines (e ++ t) = b :: u →
      filledLines (s ++ e ++ t) = filledLines s ++ (lines u).filter (· ≠ []) := by
    intro b u ends other cut
    rw [alone, filledLines, List.append_assoc, unifyNewlines_append noReturn, cut, lines_append_break one ends other,
      ← List.singleton_append, List.filter_append]
  rcases ended with rfl | ⟨b, ends, rfl⟩
  · exact step (b := .char '\n') (unifyNewlines t) (by decide) (by decide) (by simp [unifyNewlines])
  · by_cases carriage : b = .char '\r'
    · subst carriage
      cases t with
      | nil => exact step (b := .char '\n') [] (by decide) (by decide) (by simp [unifyNewlines])
      | cons d t =>
        by_cases feed : d = .char '\n'
        · -- CR and the LF behind it are one line end, and the line between them that is lost holds nothing.
          subst feed
          rw [step (b := .char '\n') (unifyNewlines t) (by decide) (by decide) (by simp [unifyNewlines])]
          rw [filledLines, filledLines, unifyNewlines_cons (by decide), lines_cons (by decide), if_pos (by decide)]
          rfl
        · refine step (b := .char '\n') (unifyNewlines (d :: t)) (by decide) (by decide) ?_
          rw [List.singleton_append, unifyNewlines]
          rintro u same
          cases same
          exact feed rfl
    · exact step (unifyNewlines t) ends carriage (by rw [List.singleton_append, unifyNewlines_cons carriage])

end Text

end RouteScript
