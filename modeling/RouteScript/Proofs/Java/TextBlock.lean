import Mathlib.Data.List.Chain
import RouteScript.Proofs.Java.SpelledLines

/-!
# Text blocks

`textBlockValue?` is the value that the Java language gives a text block, from which code points written by number are
gone already. `literalValue` takes another margin from the lines: the one that all lines with content have in common, where
the language counts the line of the closing delimiter too and any white space like any other. `literalValue_textBlock` says
when the values are the same all the same.
-/

namespace RouteScript.Java

/-! ### The value in the language -/

/-- White space in the sense of the language, which the no-break spaces and the next-line control are not. -/
def isWhiteSpace (c : CodePoint) : Bool :=
  inRanges [(0x09, 0x0D), (0x1C, 0x20), (0x1680, 0x1680), (0x2000, 0x2006), (0x2008, 0x200A), (0x2028, 0x2029),
    (0x205F, 0x205F), (0x3000, 0x3000)] c.toNat

/-- What follows the line end behind the opening delimiter. Only spaces, tabs and form feeds may stand between them. -/
def opened? : Text → Option Text
  | .char '\r' :: .char '\n' :: t => some t
  | .char '\r' :: t => some t
  | .char '\n' :: t => some t
  | c :: t => if c = .char ' ' ∨ c = .char '\t' ∨ c = .char '\x0c' then opened? t else none
  | [] => none

/-- What stands before the closing delimiter: the first three quotes of which no backslash takes one along. They end the
text. -/
def closed? : Text → Option Text
  | [.char '"', .char '"', .char '"'] => some []
  | .char '"' :: .char '"' :: .char '"' :: _ => none
  | .char '\\' :: c :: t => (closed? t).map (.char '\\' :: c :: ·)
  | c :: t => (closed? t).map (c :: ·)
  | [] => none

def delimiter : Text := "\"\"\""

/-- The content of a text block. -/
def blockContent? (literal : Text) : Option Text := do
  let behind ← Text.after? delimiter literal
  let body ← opened? behind
  closed? body

def linesOf (t : Text) : List Text := Text.parts (.char '\n') t

def isBlankLine (line : Text) : Bool := line.all isWhiteSpace

def indentation (line : Text) : Nat := (line.takeWhile isWhiteSpace).length

/-- The smallest indentation of the lines that are not blank and of the last line, blank or not. -/
def blockMargin (ls : List Text) : Nat :=
  ((ls.filter (!isBlankLine ·) ++ ls.getLast?.toList).map indentation).min?.getD 0

/-- A line without the margin and without the white space at its end. -/
def trimmed (margin : Nat) (line : Text) : Text := (line.drop margin).rdropWhile isWhiteSpace

def trimmedLines (margin : Nat) (ls : List Text) : Text := Text.joinWith "\n" (ls.map (trimmed margin))

/-- The value of a content. Line ends are unified, incidental white space is removed, and the escape sequences, which have to
exist from the start, are interpreted last. -/
def contentValue? (content : Text) : Option Text :=
  let text := Text.unifyNewlines content
  if (readEscapes? .text text).isSome then
    readEscapes? .text (trimmedLines (blockMargin (linesOf text)) (linesOf text))
  else none

/-! ### Delimiters -/

/-- Every CR is followed by LF. -/
def ReturnsPaired (t : Text) : Prop := t.IsChain fun c d => c = .char '\r' → d = .char '\n'

instance (t : Text) : Decidable (ReturnsPaired t) :=
  inferInstanceAs (Decidable (t.IsChain fun c d => c = .char '\r' → d = .char '\n'))

theorem opened?_eq_some {t body : Text} (opened : opened? t = some body) (more : body ≠ []) (paired : ReturnsPaired t) :
    ∃ gap, t = gap ++ .char '\n' :: body ∧ .char '\n' ∉ gap ∧ ∀ c ∈ gap, c.isBlank := by
  fun_induction opened? t with
  | case1 t =>
    cases opened
    exact ⟨[.char '\r'], rfl, by decide, by decide⟩
  | case2 t other =>
    cases opened
    obtain ⟨d, t, rfl⟩ := List.exists_cons_of_ne_nil more
    obtain rfl := (List.isChain_cons_cons.mp paired).1 rfl
    exact absurd rfl (other t)
  | case3 t =>
    cases opened
    exact ⟨[], rfl, by simp, by simp⟩
  | case4 c t _ _ _ blank ih =>
    obtain ⟨gap, rfl, one, blanks⟩ := ih opened paired.tail
    refine ⟨c :: gap, rfl, ?_, ?_⟩
    · rw [List.mem_cons, not_or]
      refine ⟨?_, one⟩
      rcases blank with rfl | rfl | rfl <;> decide
    · rw [List.forall_mem_cons]
      refine ⟨?_, blanks⟩
      rcases blank with rfl | rfl | rfl <;> decide
  | case5 => cases opened
  | case6 => cases opened

theorem closed?_eq_some {t content : Text} (closed : closed? t = some content) : t = content ++ delimiter := by
  fun_induction closed? t generalizing content with
  | case1 =>
    cases closed
    rfl
  | case2 => cases closed
  | case3 c t ih =>
    obtain ⟨content, inner, rfl⟩ := Option.map_eq_some_iff.mp closed
    rw [ih inner]
    rfl
  | case4 c t _ _ _ ih =>
    obtain ⟨content, inner, rfl⟩ := Option.map_eq_some_iff.mp closed
    rw [ih inner]
    rfl
  | case5 => cases closed

/-! ### Line ends -/

/-- The line, with the CR that may stand before its end. -/
def Returned (l l' : Text) : Prop := l = l' ∨ l = l' ++ [.char '\r']

theorem parts_unifyNewlines {t : Text} (paired : ReturnsPaired (t ++ [.char '"'])) :
    List.Forall₂ Returned (linesOf t) (linesOf (Text.unifyNewlines t)) := by
  unfold linesOf
  fun_induction Text.unifyNewlines t with
  | case1 t ih =>
    have one : .char '\n' ∉ [CodePoint.char '\r'] := by decide
    rw [Text.parts_cons_self, show Text.parts (.char '\n') (.char '\r' :: .char '\n' :: t) = _ from
      Text.parts_append_cons one t]
    exact .cons (.inr rfl) (ih paired.tail.tail)
  | case2 t other ih =>
    cases t with
    | nil => exact absurd ((List.isChain_cons_cons.mp paired).1 rfl) (by decide)
    | cons d t =>
      obtain rfl := (List.isChain_cons_cons.mp paired).1 rfl
      exact absurd rfl (other t)
  | case3 c t _ _ ih =>
    have lines := ih paired.tail
    by_cases feed : c = .char '\n'
    · subst feed
      rw [Text.parts_cons_self, Text.parts_cons_self]
      exact .cons (.inl rfl) lines
    · have one : .char '\n' ∉ [c] := by simpa using Ne.symm feed
      refine forall₂_parts_append one one ?_ lines
      rintro l l' (rfl | rfl)
      · exact .inl rfl
      · exact .inr (List.append_assoc ..).symm
  | case4 => exact .cons (.inl rfl) .nil

theorem rdropWhile_append_of_all {α : Type} {p : α → Bool} (l : List α) {back : List α} (all : ∀ a ∈ back, p a) :
    (l ++ back).rdropWhile p = l.rdropWhile p := by
  rw [List.rdropWhile, List.reverse_append, List.dropWhile_append_of_pos (by simpa using all), List.rdropWhile]

theorem Returned.trimmed {l l' : Text} (returned : Returned l l') (margin : Nat) :
    trimmed margin l = trimmed margin l' := by
  rcases returned with rfl | rfl
  · rfl
  · rw [Java.trimmed, Java.trimmed, List.drop_append]
    refine rdropWhile_append_of_all _ fun c member => ?_
    obtain rfl := List.mem_singleton.mp (List.mem_of_mem_drop member)
    decide

theorem Returned.blank {l l' : Text} (returned : Returned l l') : isBlankLine l = isBlankLine l' := by
  rcases returned with rfl | rfl
  · rfl
  · simp [isBlankLine, show isWhiteSpace (.char '\r') = true by decide]

theorem indentation_lt {line : Text} (filled : ¬isBlankLine line) : indentation line < line.length := by
  have short : (line.takeWhile isWhiteSpace).length ≤ line.length := (List.takeWhile_prefix _).length_le
  refine Nat.lt_of_le_of_ne short fun whole => filled ?_
  rw [isBlankLine, ← (List.takeWhile_prefix _).eq_of_length whole]
  exact List.all_takeWhile

theorem Returned.indent {l l' : Text} (returned : Returned l l') (filled : ¬isBlankLine l') :
    indentation l = indentation l' := by
  rcases returned with rfl | rfl
  · rfl
  · have short : (l'.takeWhile isWhiteSpace).length ≠ l'.length := (indentation_lt filled).ne
    rw [indentation, List.takeWhile_append, if_neg short, indentation]

theorem exists_of_forall₂ {R : Text → Text → Prop} {ls ls' : List Text} (lines : List.Forall₂ R ls ls') {line : Text}
    (member : line ∈ ls) : ∃ line' ∈ ls', R line line' := by
  induction lines with
  | nil => cases member
  | cons related lines ih =>
    rcases List.mem_cons.mp member with rfl | later
    · exact ⟨_, List.mem_cons_self, related⟩
    · obtain ⟨line', present, related⟩ := ih later
      exact ⟨line', List.mem_cons_of_mem _ present, related⟩

theorem trimmedLines_returned {ls ls' : List Text} (lines : List.Forall₂ Returned ls ls') (margin : Nat) :
    trimmedLines margin ls = trimmedLines margin ls' := by
  have same : ls.map (trimmed margin) = ls'.map (trimmed margin) := by
    induction lines with
    | nil => rfl
    | cons returned lines ih => rw [List.map_cons, List.map_cons, returned.trimmed, ih]
  rw [trimmedLines, trimmedLines, same]

/-! ### One margin and another -/

theorem isWhiteSpace_of_isMarginBlank {c : CodePoint} (blank : Text.isMarginBlank c) : isWhiteSpace c := by
  simp only [Text.isMarginBlank, Bool.or_eq_true, beq_iff_eq] at blank
  rcases blank with rfl | rfl <;> decide

theorem length_margin_le (line : Text) : (Text.margin line).length ≤ indentation line := by
  induction line with
  | nil => simp [Text.margin]
  | cons c line ih =>
    by_cases blank : Text.isMarginBlank c
    · simpa [Text.margin, indentation, List.takeWhile_cons, blank, isWhiteSpace_of_isMarginBlank blank] using ih
    · simp [Text.margin, blank]

theorem commonMargin_le {ls : List Text} {line : Text} (member : line ∈ ls) (filled : ¬isBlankLine line) :
    (Text.commonMargin ls).length ≤ indentation line := by
  have counts : ¬line.all Text.isMarginBlank := by
    intro blanks
    exact filled (List.all_eq_true.mpr fun c present =>
      isWhiteSpace_of_isMarginBlank (List.all_eq_true.mp blanks c present))
  exact (Text.commonMargin_prefix member counts).length_le.trans (length_margin_le line)

theorem blockMargin_le {ls : List Text} {line : Text} (member : line ∈ ls) (filled : ¬isBlankLine line) :
    blockMargin ls ≤ indentation line := by
  have present : indentation line ∈ (ls.filter (!isBlankLine ·) ++ ls.getLast?.toList).map indentation :=
    List.mem_map_of_mem (List.mem_append_left _ (List.mem_filter.mpr ⟨member, by simpa using filled⟩))
  unfold blockMargin
  cases least : ((ls.filter (!isBlankLine ·) ++ ls.getLast?.toList).map indentation).min? with
  | none => exact Nat.zero_le _
  | some n => exact (List.min?_eq_some_iff.mp least).2 _ present

/-- What `stripRight` and the language take from the end of a line they take from the end of its rest. -/
theorem rdropWhile_drop {α : Type} {p q : α → Bool} {l : List α} (same : l.rdropWhile p = l.rdropWhile q) (k : Nat) :
    (l.drop k).rdropWhile p = (l.drop k).rdropWhile q := by
  induction k generalizing l with
  | zero => exact same
  | succ k ih =>
    cases l with
    | nil => rfl
    | cons a l =>
      refine ih ?_
      rw [Text.rdropWhile_cons, Text.rdropWhile_cons] at same
      split at same <;> split at same
      · rename_i first second
        rw [first.1, second.1]
      · cases same
      · cases same
      · exact (List.cons.inj same).2

theorem rdropWhile_append_ne_nil {α : Type} {p : α → Bool} (front : List α) {l : List α} (kept : l.rdropWhile p ≠ []) :
    (front ++ l).rdropWhile p = front ++ l.rdropWhile p := by
  induction front with
  | nil => rfl
  | cons a front ih => simp [Text.rdropWhile_cons, ih, kept]

theorem trimmed_blank {line : Text} (blank : isBlankLine line) (margin : Nat) : trimmed margin line = [] :=
  List.rdropWhile_eq_nil_iff.mpr fun c member => List.all_eq_true.mp blank c (List.mem_of_mem_drop member)

/-- A smaller margin leaves that much more white space before a line that is not blank, and nothing before a blank one. -/
theorem trimmed_shift {k m : Nat} (order : k ≤ m) {line : Text} (deep : ¬isBlankLine line → m ≤ indentation line) :
    ∃ front : Text, .char '\\' ∉ front ∧ front.length = (if isBlankLine line then 0 else m - k) ∧
      trimmed k line = front ++ trimmed m line := by
  by_cases blank : isBlankLine line
  · exact ⟨[], by simp, by simp [blank], by simp [trimmed_blank blank]⟩
  · have deep := deep blank
    have short := indentation_lt blank
    have before : line.take m <+: line.takeWhile isWhiteSpace :=
      List.prefix_of_prefix_length_le (List.take_prefix _ _) (List.takeWhile_prefix _)
        ((List.length_take_le _ _).trans deep)
    have spaces : ∀ c ∈ line.take m, isWhiteSpace c := fun c member => List.mem_takeWhile_imp (before.subset member)
    have cut : (line.drop k).take (m - k) ++ line.drop m = line.drop k := by
      have whole := List.take_append_drop (m - k) (line.drop k)
      rwa [List.drop_drop, Nat.add_sub_cancel' order] at whole
    have kept : trimmed m line ≠ [] := by
      intro empty
      refine blank (List.all_eq_true.mpr fun c member => ?_)
      rw [← List.take_append_drop m line, List.mem_append] at member
      rcases member with early | late
      · exact spaces c early
      · exact List.rdropWhile_eq_nil_iff.mp empty c late
    refine ⟨(line.drop k).take (m - k), fun member => ?_, ?_, ?_⟩
    · have early : .char '\\' ∈ line.take m := by
        rw [← List.drop_take] at member
        exact List.mem_of_mem_drop member
      exact absurd (spaces _ early) (by decide)
    · rw [if_neg blank, List.length_take, List.length_drop]
      omega
    · calc trimmed k line
        _ = ((line.drop k).take (m - k) ++ line.drop m).rdropWhile isWhiteSpace := by rw [cut]; rfl
        _ = (line.drop k).take (m - k) ++ trimmed m line := rdropWhile_append_ne_nil _ kept

def filledCount (ls : List Text) : Nat := (ls.filter (!isBlankLine ·)).length

theorem filledCount_cons (line : Text) (ls : List Text) :
    filledCount (line :: ls) = (if isBlankLine line then 0 else 1) + filledCount ls := by
  unfold filledCount
  rw [List.filter_cons]
  cases isBlankLine line <;> simp [Nat.add_comm]

/-- The value with a smaller margin exists exactly when the other does, and is longer by the difference in every line that is
not blank. -/
theorem length_readEscapes?_shift {k m : Nat} (order : k ≤ m) {ls : List Text}
    (deep : ∀ line ∈ ls, ¬isBlankLine line → m ≤ indentation line) :
    (readEscapes? .text (trimmedLines k ls)).map List.length =
      (readEscapes? .text (trimmedLines m ls)).map fun v => (m - k) * filledCount ls + v.length := by
  induction ls with
  | nil => simp [trimmedLines, Text.joinWith, filledCount]
  | cons line ls ih =>
    obtain ⟨front, absent, long, shift⟩ := trimmed_shift order (deep line List.mem_cons_self)
    have long : front.length = (m - k) * (if isBlankLine line then 0 else 1) := by
      rw [long]
      split <;> simp
    by_cases last : ls = []
    · subst last
      simp only [trimmedLines, List.map_cons, List.map_nil, Text.joinWith, shift,
        readEscapes?_text_append absent, Option.map_map, Function.comp_def, List.length_append, long,
        filledCount_cons]
      rfl
    · have ih := ih fun line member => deep line (List.mem_cons_of_mem _ member)
      have cut : ∀ margin, trimmedLines margin (line :: ls) =
          trimmed margin line ++ .char '\n' :: trimmedLines margin ls := by
        intro margin
        rw [trimmedLines, List.map_cons, Text.joinWith_cons _ _ (by simpa using last), List.append_assoc]
        rfl
      -- The reading starts afresh behind the line end, so that the rest of the lines is read as in `ih`.
      obtain ⟨start, ahead⟩ := readEscapes?_feed .text (trimmed m line)
      rw [cut, cut, shift, List.append_assoc, readEscapes?_text_append absent]
      simp only [ahead]
      cases start with
      | none => rfl
      | some u =>
        cases left : readEscapes? .text (trimmedLines k ls) with
        | none =>
          cases right : readEscapes? .text (trimmedLines m ls) with
          | none => rfl
          | some v => simp [left, right] at ih
        | some v =>
          cases right : readEscapes? .text (trimmedLines m ls) with
          | none => simp [left, right] at ih
          | some w =>
            have ih : v.length = (m - k) * filledCount ls + w.length := by simpa [left, right] using ih
            simp only [Option.bind_some, Option.map_some, List.length_append, long, ih, filledCount_cons, Nat.mul_add]
            congr 1
            omega

theorem filledCount_eq_zero {ls : List Text} : filledCount ls = 0 ↔ ∀ line ∈ ls, isBlankLine line := by
  simp [filledCount]

/-- Two margins that every line with content has leave the same value only if they are the same, or if all lines are
blank. -/
theorem readEscapes?_margin {k m : Nat} {ls : List Text} {value : Text}
    (deep : ∀ line ∈ ls, ¬isBlankLine line → k ≤ indentation line ∧ m ≤ indentation line)
    (read : readEscapes? .text (trimmedLines m ls) = some value) :
    ∃ other, readEscapes? .text (trimmedLines k ls) = some other ∧
      (other = value ↔ (∀ line ∈ ls, isBlankLine line) ∨ k = m) := by
  have found : ∃ other, readEscapes? .text (trimmedLines k ls) = some other ∧
      (m - k) * filledCount ls + value.length = (k - m) * filledCount ls + other.length := by
    rcases Nat.le_total k m with order | order
    · have shift := length_readEscapes?_shift order fun line member filled => (deep line member filled).2
      rw [read, Option.map_some, Option.map_eq_some_iff] at shift
      obtain ⟨other, found, long⟩ := shift
      exact ⟨other, found, by rw [long, Nat.sub_eq_zero_of_le order, Nat.zero_mul, Nat.zero_add]⟩
    · have shift := length_readEscapes?_shift order fun line member filled => (deep line member filled).1
      rw [read, Option.map_some, eq_comm, Option.map_eq_some_iff] at shift
      obtain ⟨other, found, long⟩ := shift
      exact ⟨other, found, by rw [long, Nat.sub_eq_zero_of_le order, Nat.zero_mul, Nat.zero_add]⟩
  obtain ⟨other, found, long⟩ := found
  refine ⟨other, found, ?_, ?_⟩
  · -- Equal values have one length, which leaves no room for a difference of the margins.
    rintro rfl
    rw [← filledCount_eq_zero]
    rcases Nat.lt_trichotomy k m with less | same | greater
    · rw [Nat.sub_eq_zero_of_le less.le, Nat.zero_mul, Nat.zero_add, Nat.add_eq_right, Nat.mul_eq_zero] at long
      omega
    · exact .inr same
    · rw [Nat.sub_eq_zero_of_le greater.le, Nat.zero_mul, Nat.zero_add, eq_comm, Nat.add_eq_right, Nat.mul_eq_zero] at long
      omega
  · intro agree
    have same : trimmedLines k ls = trimmedLines m ls := by
      rcases agree with blank | rfl
      · unfold trimmedLines
        congr 1
        exact List.map_congr_left fun line member => by
          rw [trimmed_blank (blank line member), trimmed_blank (blank line member)]
      · rfl
    rw [same, read] at found
    exact (Option.some.inj found).symm

/-! ### Lines that begin with spaces -/

theorem commonStart_replicate (c : CodePoint) (a b : Nat) :
    Text.commonStart (.replicate a c) (.replicate b c) = .replicate (min a b) c := by
  induction a generalizing b with
  | zero => simp [Text.commonStart]
  | succ a ih =>
    cases b with
    | zero => simp [Text.commonStart]
    | succ b => simp [List.replicate_succ, Text.commonStart, ih, Nat.succ_min_succ]

theorem foldl_commonStart_replicate (c : CodePoint) (a : Nat) (bs : List Nat) :
    (bs.map fun b => List.replicate b c).foldl Text.commonStart (.replicate a c) = .replicate (bs.foldl min a) c := by
  induction bs generalizing a with
  | nil => rfl
  | cons b bs ih => rw [List.map_cons, List.foldl_cons, List.foldl_cons, commonStart_replicate, ih]

/-- The white space that the line begins with is spaces. -/
def IsSpaced (line : Text) : Prop := ∀ c ∈ line.takeWhile isWhiteSpace, c = .char ' '

theorem IsSpaced.cons {c : CodePoint} {line : Text} (spaced : IsSpaced (c :: line)) (space : isWhiteSpace c) :
    c = .char ' ' ∧ IsSpaced line := by
  rw [IsSpaced, List.takeWhile_cons_of_pos space, List.forall_mem_cons] at spaced
  exact spaced

theorem not_isMarginBlank_of_not_isWhiteSpace {c : CodePoint} (other : ¬isWhiteSpace c) :
    Text.isMarginBlank c = false :=
  Bool.eq_false_iff.mpr fun blank => other (isWhiteSpace_of_isMarginBlank blank)

theorem IsSpaced.margin {line : Text} (spaced : IsSpaced line) :
    Text.margin line = .replicate (indentation line) (.char ' ') := by
  induction line with
  | nil => rfl
  | cons c line ih =>
    by_cases space : isWhiteSpace c
    · obtain ⟨rfl, rest⟩ := spaced.cons space
      rw [indentation, List.takeWhile_cons_of_pos space, List.length_cons, List.replicate_succ, ← indentation, ← ih rest]
      rfl
    · simp [Text.margin, indentation, space, not_isMarginBlank_of_not_isWhiteSpace space]

theorem IsSpaced.blank {line : Text} (spaced : IsSpaced line) : line.all Text.isMarginBlank = isBlankLine line := by
  induction line with
  | nil => rfl
  | cons c line ih =>
    by_cases space : isWhiteSpace c
    · obtain ⟨rfl, rest⟩ := spaced.cons space
      rw [isBlankLine, List.all_cons, List.all_cons, ih rest]
      rfl
    · simp [isBlankLine, space, not_isMarginBlank_of_not_isWhiteSpace space]

theorem length_commonMargin {ls : List Text} (spaced : ∀ line ∈ ls, IsSpaced line) :
    (Text.commonMargin ls).length = ((ls.filter (!isBlankLine ·)).map indentation).min?.getD 0 := by
  have counts : (ls.filter fun line => !line.all Text.isMarginBlank) = ls.filter (!isBlankLine ·) :=
    List.filter_congr fun line member => by rw [(spaced line member).blank]
  have margins : (ls.filter (!isBlankLine ·)).map Text.margin =
      ((ls.filter (!isBlankLine ·)).map indentation).map fun n => List.replicate n (.char ' ') := by
    rw [List.map_map]
    exact List.map_congr_left fun line member => (spaced line (List.mem_of_mem_filter member)).margin
  unfold Text.commonMargin
  rw [counts, margins]
  cases (ls.filter (!isBlankLine ·)).map indentation with
  | nil => rfl
  | cons a bs =>
    rw [List.min?_cons', Option.getD_some, List.map_cons]
    dsimp only
    rw [foldl_commonStart_replicate, List.length_replicate]

/-- The common margin has the width of the margin in the language if some line with content is indented no further than the
last line. -/
theorem length_commonMargin_eq_blockMargin {ls : List Text} (spaced : ∀ line ∈ ls, IsSpaced line)
    (filled : ∃ line ∈ ls, ¬isBlankLine line) :
    (Text.commonMargin ls).length = blockMargin ls ↔
      ∃ line ∈ ls, ¬isBlankLine line ∧ ∀ last ∈ ls.getLast?, indentation line ≤ indentation last := by
  obtain ⟨line, member, counts⟩ := filled
  have filtered : ∀ {line}, line ∈ ls.filter (!isBlankLine ·) ↔ line ∈ ls ∧ ¬isBlankLine line := by
    intro line
    simp
  obtain ⟨a, least⟩ : ∃ a, ((ls.filter (!isBlankLine ·)).map indentation).min? = some a := by
    rw [← Option.isSome_iff_exists, List.isSome_min?_iff]
    exact List.ne_nil_of_mem (List.mem_map_of_mem (filtered.mpr ⟨member, counts⟩))
  have ⟨reached, below⟩ := List.min?_eq_some_iff.mp least
  obtain ⟨last, ends⟩ : ∃ last, ls.getLast? = some last :=
    Option.isSome_iff_exists.mp (List.getLast?_isSome.mpr (List.ne_nil_of_mem member))
  have width : blockMargin ls = min a (indentation last) := by
    have least' : ((ls.filter (!isBlankLine ·)).map indentation ++ [indentation last]).min? =
        some (min a (indentation last)) := by
      refine List.min?_eq_some_iff.mpr ⟨?_, fun b present => ?_⟩
      · rw [List.mem_append, List.mem_singleton]
        rcases Nat.le_total a (indentation last) with order | order
        · exact .inl (by rwa [Nat.min_eq_left order])
        · exact .inr (Nat.min_eq_right order)
      · rcases List.mem_append.mp present with early | late
        · exact (Nat.min_le_left ..).trans (below b early)
        · exact List.mem_singleton.mp late ▸ Nat.min_le_right ..
    rw [blockMargin, ends, Option.toList_some, List.map_append, List.map_singleton, least', Option.getD_some]
  rw [length_commonMargin spaced, least, Option.getD_some, width, ends]
  constructor
  · intro same
    obtain ⟨line, present, rfl⟩ := List.mem_map.mp reached
    obtain ⟨member, counts⟩ := filtered.mp present
    exact ⟨line, member, counts, by simp; omega⟩
  · rintro ⟨line, member, counts, shallow⟩
    have shallow := shallow last rfl
    have deep := below _ (List.mem_map_of_mem (filtered.mpr ⟨member, counts⟩))
    omega

/-! ### The value that is read -/

theorem inside_append {n : Nat} {front back : Text} (long : front.length = n) (t : Text) (long' : back.length = n) :
    inside n (front ++ t ++ back) = t := by
  have rest : (front ++ t ++ back).length - n = (front ++ t).length := by
    rw [List.length_append, long', Nat.add_sub_cancel]
  rw [inside, rest, List.take_left, List.drop_left' long]

theorem literalValue_delimited {gap : Text} (one : .char '\n' ∉ gap) (body : Text) :
    literalValue (delimiter ++ (gap ++ .char '\n' :: body) ++ delimiter) = unescape (blockLines body) := by
  have starts : Text.startsWith (delimiter ++ (gap ++ .char '\n' :: body) ++ delimiter) "\"\"\"" := by
    rw [Text.startsWith_iff, List.append_assoc]
    exact List.prefix_append delimiter _
  have within : inside 3 (delimiter ++ (gap ++ .char '\n' :: body) ++ delimiter) = gap ++ .char '\n' :: body := by
    have three : delimiter.length = 3 := by decide
    exact inside_append three _ three
  rw [literalValue, if_pos starts, within, Text.cutFirst?_append one]
  rfl

theorem literalValue_block {source literal content : Text} (spells : Spells source literal)
    (cut : blockContent? literal = some content) (paired : ReturnsPaired literal) :
    ∃ body, Spells body content ∧ literalValue source = unescape (blockLines body) ∧
      ReturnsPaired (content ++ [.char '"']) := by
  unfold blockContent? at cut
  obtain ⟨behind, begins, cut⟩ := Option.bind_eq_some_iff.mp cut
  obtain ⟨rest, opened, closed⟩ := Option.bind_eq_some_iff.mp cut
  rw [Text.after?, List.isPrefixOf?_eq_some_iff_append_eq] at begins
  have ends := closed?_eq_some closed
  have pairedBehind : ReturnsPaired behind := paired.suffix ⟨_, begins⟩
  obtain ⟨gap, rfl, one, blanks⟩ := opened?_eq_some opened (by simp [ends, delimiter, Text.ofString]) pairedBehind
  have quotes : ∀ t : Text, t ++ delimiter = t ++ [.char '"'] ++ [.char '"'] ++ [.char '"'] := by
    intro t
    simp [delimiter, Text.ofString]
  have whole : literal = delimiter ++ (gap ++ [.char '\n']) ++ (content ++ delimiter) := by
    rw [← begins, ends]
    simp
  have fixed : ∀ c ∈ delimiter ++ (gap ++ [.char '\n']), IsFixed c := by
    intro c member
    rw [List.mem_append, List.mem_append, List.mem_singleton] at member
    rcases member with quote | blank | rfl
    · obtain rfl : c = .char '"' := by simpa [delimiter, Text.ofString] using quote
      exact isFixed_quote
    · exact isFixed_of_isBlank (blanks c blank)
    · exact isFixed_of_isBlank (by decide)
  rw [whole, quotes] at spells
  obtain ⟨_, rfl, three⟩ := spells.of_fixed_append fixed
  obtain ⟨_, rfl, two⟩ := three.of_append_fixed isFixed_quote
  obtain ⟨_, rfl, one'⟩ := two.of_append_fixed isFixed_quote
  obtain ⟨body, rfl, inner⟩ := one'.of_append_fixed isFixed_quote
  refine ⟨body, inner, ?_, ?_⟩
  · have source : delimiter ++ (gap ++ [.char '\n']) ++ (body ++ [.char '"'] ++ [.char '"'] ++ [.char '"']) =
        delimiter ++ (gap ++ .char '\n' :: body) ++ delimiter := by
      rw [← quotes]
      simp
    rw [source, literalValue_delimited one]
  · refine paired.infix ⟨delimiter ++ (gap ++ [.char '\n']), [.char '"', .char '"'], ?_⟩
    rw [whole, quotes]
    simp

/-- A text block with content has its value in the language exactly when its common margin is that of the language. -/
theorem literalValue_textBlock {source literal content value : Text} (spells : Spells source literal)
    (cut : blockContent? literal = some content) (means : contentValue? content = some value)
    (paired : ReturnsPaired literal)
    (edges : ∀ line ∈ linesOf content, Text.stripRight line = line.rdropWhile isWhiteSpace) :
    (literalValue source = value ↔
      (∀ line ∈ linesOf content, isBlankLine line) ∨
        (Text.commonMargin (linesOf content)).length = blockMargin (linesOf (Text.unifyNewlines content))) ∧
    (.char '\r' ∉ content → (∀ line ∈ linesOf content, IsSpaced line) →
      (literalValue source = value ↔ ((∃ line ∈ linesOf content, ¬isBlankLine line) →
        ∃ line ∈ linesOf content, ¬isBlankLine line ∧
          ∀ last ∈ (linesOf content).getLast?, indentation line ≤ indentation last))) := by
  obtain ⟨body, spells, same, paired⟩ := literalValue_block spells cut paired
  have lines := parts_unifyNewlines paired
  have deep : ∀ line ∈ linesOf content, ¬isBlankLine line →
      (Text.commonMargin (linesOf content)).length ≤ indentation line ∧
        blockMargin (linesOf (Text.unifyNewlines content)) ≤ indentation line := by
    intro line member filled
    obtain ⟨line', member', returned⟩ := exists_of_forall₂ lines member
    have filled' : ¬isBlankLine line' := by rwa [← returned.blank]
    exact ⟨commonMargin_le member filled, returned.indent filled' ▸ blockMargin_le member' filled'⟩
  have code : blockLines content = trimmedLines (Text.commonMargin (linesOf content)).length (linesOf content) := by
    rw [blockLines_eq, trimmedLines]
    congr 1
    exact List.map_congr_left fun line member => rdropWhile_drop (edges line member) _
  have agrees : literalValue source = value ↔
      (∀ line ∈ linesOf content, isBlankLine line) ∨
        (Text.commonMargin (linesOf content)).length = blockMargin (linesOf (Text.unifyNewlines content)) := by
    simp only [contentValue?] at means
    split at means
    · rw [← trimmedLines_returned lines] at means
      obtain ⟨other, read, agree⟩ := readEscapes?_margin deep means
      rw [← agree, same, (spells.blockLines.unescape_of_state).1 other (by rw [code, read])]
    · cases means
  refine ⟨agrees, fun noReturn spaced => ?_⟩
  have unified : Text.unifyNewlines content = content := by
    simpa [Text.unifyNewlines] using Text.unifyNewlines_append noReturn []
  rw [agrees, unified]
  by_cases filled : ∃ line ∈ linesOf content, ¬isBlankLine line
  · have notBlank : ¬∀ line ∈ linesOf content, isBlankLine line := by simpa using filled
    simp only [notBlank, false_or, filled, true_implies]
    exact length_commonMargin_eq_blockMargin spaced filled
  · have blank : ∀ line ∈ linesOf content, isBlankLine line := by simpa using filled
    simp only [filled, false_implies, iff_true]
    exact .inl blank

/-- A block whose closing delimiter is indented less than its content. -/
def shallowBlock : Text := "\"\"\"\n    \\u0041\\101\n  \"\"\""

/-- A block of lines that end with CR LF, one of them continued in the next. -/
def continuedBlock : Text := "\"\"\" \r\n\t a\\\r\n\t  b \r\n\t \"\"\""

theorem literalValue_textBlock_shallow :
    (Spells shallowBlock "\"\"\"\n    A\\101\n  \"\"\"" ∧
      blockContent? "\"\"\"\n    A\\101\n  \"\"\"" = some "    A\\101\n  " ∧
      contentValue? "    A\\101\n  " = some "  AA\n" ∧ literalValue shallowBlock ≠ "  AA\n") ∧
    (Spells continuedBlock continuedBlock ∧ blockContent? continuedBlock = some "\t a\\\r\n\t  b \r\n\t " ∧
      contentValue? "\t a\\\r\n\t  b \r\n\t " = some "a b\n" ∧ literalValue continuedBlock = "a b\n") := by
  have shallow : Spells shallowBlock "\"\"\"\n    A\\101\n  \"\"\"" := by
    have hex : ("0041" : Text).map CodePoint.hexValue? = [0, 0, 4, 1].map some := by decide
    refine Spells.prepend (q := "\"\"\"\n    ") (by decide) (Spells.number 0 hex rfl (by decide) ?_)
    exact .pair (by decide) (Spells.self (by decide))
  have continued : Spells continuedBlock continuedBlock := by
    refine Spells.prepend (q := "\"\"\" \r\n\t a") (by decide) ?_
    exact .pair (by decide) (Spells.self (by decide))
  have shallowCut : blockContent? "\"\"\"\n    A\\101\n  \"\"\"" = some "    A\\101\n  " := by decide
  have continuedCut : blockContent? continuedBlock = some "\t a\\\r\n\t  b \r\n\t " := by decide
  have shallowMeans : contentValue? "    A\\101\n  " = some "  AA\n" := by decide
  have continuedMeans : contentValue? "\t a\\\r\n\t  b \r\n\t " = some "a b\n" := by decide
  refine ⟨⟨shallow, shallowCut, shallowMeans, fun same => ?_⟩, continued, continuedCut, continuedMeans, ?_⟩
  · have agreed := (literalValue_textBlock shallow shallowCut shallowMeans (by decide) (by decide)).2 (by decide)
      (by unfold IsSpaced; decide)
    exact absurd (agreed.mp same) (by decide)
  · have agreed := (literalValue_textBlock continued continuedCut continuedMeans (by decide) (by decide)).1
    exact agreed.mpr (by decide)

end RouteScript.Java
