import Mathlib.Data.List.Infix
import RouteScript.Text.CodePoint

/-!
# Cutting and joining text

`Text.parts` cuts a text at a code point and `Text.joinWith` puts it back: `joinWith_parts` holds of
every text, and `parts_joinWith` of texts that do not hold the code point.
-/

namespace RouteScript.Text

theorem parts_ne_nil (sep : CodePoint) (t : Text) : parts sep t ≠ [] := by
  cases t with
  | nil => simp [parts]
  | cons c t =>
    unfold parts
    split
    · simp
    · split <;> simp

theorem parts_cons_self (sep : CodePoint) (t : Text) : parts sep (sep :: t) = [] :: parts sep t := by
  simp [parts]

theorem parts_cons_of_ne {sep c : CodePoint} (t : Text) (different : c ≠ sep) :
    ∃ part rest, parts sep t = part :: rest ∧ parts sep (c :: t) = (c :: part) :: rest := by
  cases cut : parts sep t with
  | nil => exact absurd cut (parts_ne_nil sep t)
  | cons part rest => exact ⟨part, rest, rfl, by simp [parts, different, cut]⟩

theorem mem_parts (sep : CodePoint) {c : CodePoint} {t : Text} (present : c ∈ t) :
    c = sep ∨ ∃ part ∈ parts sep t, c ∈ part := by
  induction t with
  | nil => cases present
  | cons x t ih =>
    by_cases same : x = sep
    · subst x
      rw [parts_cons_self]
      rcases List.mem_cons.mp present with rfl | later
      · exact Or.inl rfl
      · rcases ih later with here | ⟨part, member, inside⟩
        · exact Or.inl here
        · exact Or.inr ⟨part, List.mem_cons_of_mem _ member, inside⟩
    · obtain ⟨part, rest, cut, cutCons⟩ := parts_cons_of_ne t same
      rw [cutCons]
      rcases List.mem_cons.mp present with rfl | later
      · exact Or.inr ⟨_, List.mem_cons_self, List.mem_cons_self⟩
      · rcases ih later with here | ⟨found, member, inside⟩
        · exact Or.inl here
        · rw [cut] at member
          rcases List.mem_cons.mp member with rfl | member
          · exact Or.inr ⟨_, List.mem_cons_self, List.mem_cons_of_mem _ inside⟩
          · exact Or.inr ⟨found, List.mem_cons_of_mem _ member, inside⟩

theorem of_mem_parts {sep : CodePoint} {t part : Text} (member : part ∈ parts sep t) :
    sep ∉ part ∧ ∀ c ∈ part, c ∈ t := by
  induction t generalizing part with
  | nil =>
    simp only [parts, List.mem_singleton] at member
    subst part
    simp
  | cons x t ih =>
    by_cases same : x = sep
    · subst x
      rw [parts_cons_self] at member
      rcases List.mem_cons.mp member with rfl | later
      · simp
      · exact ⟨(ih later).1, fun c inside => List.mem_cons_of_mem _ ((ih later).2 c inside)⟩
    · obtain ⟨first, rest, cut, cutCons⟩ := parts_cons_of_ne t same
      rw [cutCons] at member
      rcases List.mem_cons.mp member with rfl | later
      · have before : first ∈ parts sep t := by rw [cut]; exact List.mem_cons_self
        have ⟨absent, below⟩ := ih before
        refine ⟨?_, ?_⟩
        · intro inside
          rcases List.mem_cons.mp inside with here | inside
          · exact same here.symm
          · exact absent inside
        · intro c inside
          rcases List.mem_cons.mp inside with rfl | inside
          · exact List.mem_cons_self
          · exact List.mem_cons_of_mem _ (below c inside)
      · have before : part ∈ parts sep t := by rw [cut]; exact List.mem_cons_of_mem _ later
        have ⟨absent, below⟩ := ih before
        exact ⟨absent, fun c inside => List.mem_cons_of_mem _ (below c inside)⟩

theorem joinWith_cons (sep t : Text) {ts : List Text} (more : ts ≠ []) :
    joinWith sep (t :: ts) = t ++ sep ++ joinWith sep ts := by
  cases ts with
  | nil => exact absurd rfl more
  | cons u us => rfl

theorem mem_of_mem_joinWith {sep : Text} {ts : List Text} {c : CodePoint} (member : c ∈ joinWith sep ts) :
    c ∈ sep ∨ ∃ t ∈ ts, c ∈ t := by
  induction ts with
  | nil => cases member
  | cons t ts ih =>
    by_cases last : ts = []
    · subst last
      exact Or.inr ⟨t, List.mem_cons_self, member⟩
    · rw [joinWith_cons _ _ last, List.mem_append, List.mem_append] at member
      rcases member with (inside | between) | later
      · exact Or.inr ⟨t, List.mem_cons_self, inside⟩
      · exact Or.inl between
      · rcases ih later with between | ⟨u, present, inside⟩
        · exact Or.inl between
        · exact Or.inr ⟨u, List.mem_cons_of_mem _ present, inside⟩

theorem joinWith_of_mem (sep : Text) {ts : List Text} {t : Text} (member : t ∈ ts) :
    ∃ before after, joinWith sep ts = before ++ t ++ after := by
  induction ts with
  | nil => cases member
  | cons u ts ih =>
    by_cases last : ts = []
    · subst last
      obtain rfl := List.mem_singleton.mp member
      exact ⟨[], [], by simp [joinWith]⟩
    · rw [joinWith_cons sep u last]
      rcases List.mem_cons.mp member with rfl | member
      · exact ⟨[], sep ++ joinWith sep ts, by simp⟩
      · obtain ⟨before, after, joined⟩ := ih member
        exact ⟨u ++ sep ++ before, after, by rw [joined]; simp⟩

/-- The parts of a text with the separator between them are the text. -/
theorem joinWith_parts (sep : CodePoint) (t : Text) : joinWith [sep] (parts sep t) = t := by
  induction t with
  | nil => rfl
  | cons c t ih =>
    by_cases same : c = sep
    · subst c
      rw [parts_cons_self, joinWith_cons _ _ (parts_ne_nil sep t), ih]
      rfl
    · obtain ⟨part, rest, cut, cutCons⟩ := parts_cons_of_ne t same
      rw [cut] at ih
      rw [cutCons]
      cases rest with
      | nil => exact congrArg (c :: ·) ih
      | cons next rest =>
        rw [joinWith_cons _ _ (by simp)] at ih ⊢
        exact congrArg (c :: ·) ih

theorem parts_injective {sep : CodePoint} {s t : Text} (same : parts sep s = parts sep t) : s = t := by
  rw [← joinWith_parts sep s, same, joinWith_parts]

theorem parts_append_cons {sep : CodePoint} {s : Text} (absent : sep ∉ s) (t : Text) :
    parts sep (s ++ sep :: t) = s :: parts sep t := by
  induction s with
  | nil => exact parts_cons_self sep t
  | cons c s ih =>
    simp only [List.mem_cons, not_or] at absent
    have ih := ih absent.2
    simp only [List.cons_append, parts, Ne.symm absent.1, if_false, ih]

/-- A separator cuts a text into the parts before it and the parts behind it. -/
theorem parts_append_sep (sep : CodePoint) (s t : Text) : parts sep (s ++ sep :: t) = parts sep s ++ parts sep t := by
  induction s with
  | nil => exact parts_cons_self sep t
  | cons c s ih =>
    by_cases same : c = sep
    · subst c
      rw [List.cons_append, parts_cons_self, parts_cons_self, ih, List.cons_append]
    · obtain ⟨part, rest, cut, cutCons⟩ := parts_cons_of_ne s same
      rw [cut] at ih
      rw [cutCons]
      simp only [List.cons_append, parts, same, if_false, ih]

theorem joinWith_append (sep : Text) {ss ts : List Text} (some : ss ≠ []) (more : ts ≠ []) :
    joinWith sep (ss ++ ts) = joinWith sep ss ++ sep ++ joinWith sep ts := by
  induction ss with
  | nil => exact absurd rfl some
  | cons s ss ih =>
    by_cases last : ss = []
    · subst last
      exact joinWith_cons sep s more
    · rw [List.cons_append, joinWith_cons _ _ (by simp [last]), joinWith_cons _ _ last, ih last]
      simp only [List.append_assoc]

theorem prefix_joinWith (sep t : Text) (ts : List Text) : t <+: joinWith sep (t :: ts) := by
  cases ts with
  | nil => exact List.prefix_rfl
  | cons u us => exact ⟨sep ++ joinWith sep (u :: us), (List.append_assoc ..).symm⟩

/-- A part begins where the text begins or behind a separator. -/
theorem begins_of_mem_parts {sep : CodePoint} {t part : Text} (member : part ∈ parts sep t) :
    part <+: t ∨ ∃ front back, t = front ++ sep :: back ∧ part <+: back := by
  obtain ⟨before, after, cut⟩ := List.append_of_mem member
  have whole := joinWith_parts sep t
  rw [cut] at whole
  by_cases first : before = []
  · subst first
    rw [← whole]
    exact Or.inl (prefix_joinWith _ _ _)
  · rw [joinWith_append _ first (by simp), List.append_assoc] at whole
    exact Or.inr ⟨_, _, whole.symm, prefix_joinWith _ _ _⟩

theorem parts_of_not_mem {sep : CodePoint} {t : Text} (absent : sep ∉ t) : parts sep t = [t] := by
  induction t with
  | nil => rfl
  | cons c t ih =>
    simp only [List.mem_cons, not_or] at absent
    simp only [parts, Ne.symm absent.1, if_false, ih absent.2]

/-- Texts that do not hold the separator are the parts of what they are joined to. -/
theorem parts_joinWith {sep : CodePoint} {ts : List Text} (some : ts ≠ [])
    (absent : ∀ t ∈ ts, sep ∉ t) : parts sep (joinWith [sep] ts) = ts := by
  induction ts with
  | nil => exact absurd rfl some
  | cons t ts ih =>
    have first := absent t List.mem_cons_self
    by_cases last : ts = []
    · subst last
      exact parts_of_not_mem first
    · rw [joinWith_cons _ _ last, List.append_assoc]
      change parts sep (t ++ sep :: joinWith [sep] ts) = t :: ts
      rw [parts_append_cons first, ih last fun u member => absent u (List.mem_cons_of_mem _ member)]

/-- Text without the separator goes to the end of the last part. -/
theorem parts_append_of_not_mem {sep : CodePoint} (s : Text) {t : Text} (absent : sep ∉ t) :
    ∃ front last, parts sep s = front ++ [last] ∧ parts sep (s ++ t) = front ++ [last ++ t] := by
  induction s with
  | nil => exact ⟨[], [], rfl, parts_of_not_mem absent⟩
  | cons c s ih =>
    obtain ⟨front, last, cut, cut'⟩ := ih
    by_cases same : c = sep
    · subst same
      refine ⟨[] :: front, last, ?_, ?_⟩
      · rw [parts_cons_self, cut, List.cons_append]
      · rw [List.cons_append, parts_cons_self, cut', List.cons_append]
    · cases front with
      | nil => exact ⟨[], c :: last, by simp [parts, same, cut], by simp [parts, same, cut']⟩
      | cons first front =>
        exact ⟨(c :: first) :: front, last, by simp [parts, same, cut], by simp [parts, same, cut']⟩

/-- Text without the separator goes to the front of the first part. -/
theorem parts_prepend_of_not_mem {sep : CodePoint} {s : Text} (absent : sep ∉ s) (t : Text) :
    ∃ first rest, parts sep t = first :: rest ∧ parts sep (s ++ t) = (s ++ first) :: rest := by
  induction s with
  | nil =>
    obtain ⟨first, rest, cut⟩ := List.exists_cons_of_ne_nil (parts_ne_nil sep t)
    exact ⟨first, rest, cut, cut⟩
  | cons c s ih =>
    simp only [List.mem_cons, not_or] at absent
    obtain ⟨first, rest, cut, joined⟩ := ih absent.2
    obtain ⟨part, others, cut', joined'⟩ := parts_cons_of_ne (s ++ t) (Ne.symm absent.1)
    rw [joined] at cut'
    cases cut'
    exact ⟨first, rest, cut, joined'⟩

/-! ### The first separator -/

theorem startsWith_iff {t front : Text} : startsWith t front ↔ front <+: t := List.isPrefixOf_iff_prefix

theorem after?_eq_some_iff {front t rest : Text} : after? front t = some rest ↔ t = front ++ rest := by
  rw [after?, List.isPrefixOf?_eq_some_iff_append_eq, eq_comm]

theorem after?_append (front rest : Text) : after? front (front ++ rest) = some rest := after?_eq_some_iff.mpr rfl

theorem after?_eq_none_iff {front t : Text} : after? front t = none ↔ ¬front <+: t := by
  rw [Option.eq_none_iff_forall_ne_some]
  constructor
  · rintro none ⟨rest, rfl⟩
    exact none rest (after?_append front rest)
  · intro absent rest found
    exact absent ⟨rest, (after?_eq_some_iff.mp found).symm⟩

theorem cutFirst?_append {sep : CodePoint} {s : Text} (absent : sep ∉ s) (t : Text) :
    cutFirst? sep (s ++ sep :: t) = some (s, t) := by
  induction s with
  | nil => simp [cutFirst?]
  | cons c s ih =>
    simp only [List.mem_cons, not_or] at absent
    rw [List.cons_append, cutFirst?, if_neg (Ne.symm absent.1), ih absent.2]
    rfl

/-! ### The last separator -/

theorem cutLast?_eq_none_iff {sep : CodePoint} {t : Text} : cutLast? sep t = none ↔ sep ∉ t := by
  induction t with
  | nil => simp [cutLast?]
  | cons c t ih =>
    rw [cutLast?, List.mem_cons, not_or, ← ih]
    cases cutLast? sep t with
    | none => simp [eq_comm]
    | some x => simp

theorem cutLast?_eq_some_iff {sep : CodePoint} {t front back : Text} :
    cutLast? sep t = some (front, back) ↔ t = front ++ sep :: back ∧ sep ∉ back := by
  induction t generalizing front back with
  | nil => simp [cutLast?]
  | cons c t ih =>
    rw [cutLast?]
    cases front with
    | nil =>
      cases cut : cutLast? sep t with
      | none =>
        have absent := cutLast?_eq_none_iff.mp cut
        grind
      | some x =>
        have present : sep ∈ t := by simp [(ih.mp cut).1]
        grind
    | cons y front =>
      rw [List.cons_append, List.cons.injEq, and_assoc, ← ih]
      cases cutLast? sep t with
      | none => grind
      | some x => simp [Prod.ext_iff, and_assoc]

end RouteScript.Text
