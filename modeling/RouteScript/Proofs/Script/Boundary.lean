import RouteScript.Proofs.Script.Numeral
import RouteScript.Proofs.Text.Parts

/-!
# Where words and numbers end

A word, a number and an operator in words end at a boundary, the end of the script or a blank. What stands
behind the boundary has no part in them: it does not matter to the spellings of a table
(`prefix_of_boundary`), to a numeral (`numeral?_boundary`) and to an operator of one word
(`startsWord_iff`).
-/

namespace RouteScript.Script

def IsVisible (t : Text) : Prop := ∀ c ∈ t, ¬c.isBlank

instance (t : Text) : Decidable (IsVisible t) := inferInstanceAs (Decidable (∀ c ∈ t, ¬c.isBlank))

theorem atBoundary_gap {gap : Text} (filled : gap ≠ []) (blanks : ∀ c ∈ gap, c.isBlank) (t : Text) :
    atBoundary (gap ++ t) := by
  cases gap with
  | nil => exact absurd rfl filled
  | cons c gap => exact blanks c List.mem_cons_self

theorem eq_nil_of_atBoundary {t rest : Text} (visible : IsVisible t) (boundary : atBoundary (t ++ rest)) : t = [] := by
  cases t with
  | nil => rfl
  | cons c t => exact absurd boundary (visible c List.mem_cons_self)

/-- Visible text that begins a text up to a boundary begins it without what stands behind. -/
theorem prefix_of_boundary {front t rest : Text} (visible : IsVisible front) (boundary : atBoundary rest)
    (begins : front <+: t ++ rest) : front <+: t := by
  rcases List.prefix_or_prefix_of_prefix begins ⟨rest, rfl⟩ with inside | ⟨more, rfl⟩
  · exact inside
  · obtain ⟨tail, rfl⟩ := (List.prefix_append_right_inj t).mp begins
    have none : more = [] := eq_nil_of_atBoundary (fun c member => visible c (List.mem_append_right t member)) boundary
    rw [none, List.append_nil]

theorem visible_unique {w w' rest rest' : Text} (visible : IsVisible w) (visible' : IsVisible w')
    (boundary : atBoundary rest) (boundary' : atBoundary rest') (same : w ++ rest = w' ++ rest') :
    w = w' ∧ rest = rest' := by
  obtain ⟨more, rfl⟩ := prefix_of_boundary visible' boundary ⟨rest', same.symm⟩
  rw [List.append_assoc, List.append_cancel_left_eq] at same
  subst same
  have none : more = [] := eq_nil_of_atBoundary (fun c member => visible c (List.mem_append_right _ member)) boundary'
  simp [none]

theorem takeWhile_boundary {p : CodePoint → Bool} (visible : ∀ c, p c → ¬c.isBlank) {rest : Text}
    (boundary : atBoundary rest) (t : Text) : (t ++ rest).takeWhile p = t.takeWhile p := by
  have none : rest.takeWhile p = [] := by
    cases rest with
    | nil => rfl
    | cons c rest =>
      have stops : ¬p c := fun holds => visible c holds boundary
      rw [List.takeWhile_cons, if_neg stops]
  rw [List.takeWhile_append, none, List.append_nil]
  split
  · rename_i whole
    exact ((List.takeWhile_prefix p).eq_of_length whole).symm
  · rfl

/-! ### Tables of spellings -/

section Tables

variable {α : Type} {ops : List α} {spelling : α → Text} {t t' : Text}

theorem find?_none_of_fewer (none : ops.find? (fun op => Text.startsWith t (spelling op)) = none)
    (fewer : ∀ op ∈ ops, spelling op <+: t' → spelling op <+: t) :
    ops.find? (fun op => Text.startsWith t' (spelling op)) = .none := by
  rw [List.find?_eq_none] at none ⊢
  intro op member begins
  exact none op member (Text.startsWith_iff.mpr (fewer op member (Text.startsWith_iff.mp begins)))

theorem find?_some_of_fewer {op : α} (found : ops.find? (fun op => Text.startsWith t (spelling op)) = some op)
    (begins : spelling op <+: t') (fewer : ∀ op ∈ ops, spelling op <+: t' → spelling op <+: t) :
    ops.find? (fun op => Text.startsWith t' (spelling op)) = some op := by
  rw [List.find?_eq_some_iff_append] at found ⊢
  obtain ⟨_, before, after, whole, none⟩ := found
  refine ⟨Text.startsWith_iff.mpr begins, before, after, whole, fun other member => ?_⟩
  have missed := none other member
  rw [Bool.not_eq_true', ← Bool.not_eq_true, Text.startsWith_iff] at missed ⊢
  exact fun begins' => missed (fewer other (by rw [whole]; exact List.mem_append_left _ member) begins')

end Tables

/-! ### Numerals -/

theorem not_inRanges {ranges others : List (Nat × Nat)} (apart : ∀ r ∈ ranges, ∀ s ∈ others, r.2 < s.1 ∨ s.2 < r.1)
    {n : Nat} (inside : inRanges ranges n) : ¬inRanges others n := by
  intro inside'
  simp only [inRanges, List.any_eq_true, Bool.and_eq_true, decide_eq_true_eq] at inside inside'
  obtain ⟨r, member, low, high⟩ := inside
  obtain ⟨s, member', low', high'⟩ := inside'
  have := apart r member s member'
  omega

theorem visible_of_isDigit {c : CodePoint} (digit : c.isDigit) : ¬c.isBlank := by
  have inside : inRanges decimalDigitRuns c.toNat := by
    rw [CodePoint.isDigit, CodePoint.digitValue?, Option.isSome_map, List.find?_isSome] at digit
    exact List.any_eq_true.mpr digit
  exact not_inRanges (by decide +kernel) inside

theorem minusSign_eq (t : Text) : minusSign t = if t.head? = some (.char '-') then [.char '-'] else [] := by
  unfold minusSign
  split
  · rfl
  · rename_i other
    rw [if_neg]
    intro minus
    obtain ⟨tail, rfl⟩ := List.head?_eq_some_iff.mp minus
    exact other tail rfl

theorem fraction_eq (t : Text) :
    fraction t =
      if t.head? = some (.char '.') ∧ digitRun t.tail ≠ [] then .char '.' :: digitRun t.tail else [] := by
  unfold fraction
  split
  · rename_i tail
    split
    · rename_i none
      simp [none]
    · rename_i some
      rw [if_pos ⟨rfl, fun none => some none⟩]
      rfl
  · rename_i other
    rw [if_neg]
    rintro ⟨point, _⟩
    obtain ⟨tail, rfl⟩ := List.head?_eq_some_iff.mp point
    exact other tail rfl

theorem minusSign_isPrefix (t : Text) : minusSign t <+: t := by
  rw [minusSign_eq]
  split
  · rename_i minus
    obtain ⟨tail, rfl⟩ := List.head?_eq_some_iff.mp minus
    exact ⟨tail, rfl⟩
  · exact List.nil_prefix

theorem fraction_isPrefix (t : Text) : fraction t <+: t := by
  rw [fraction_eq]
  split
  · rename_i point
    obtain ⟨tail, rfl⟩ := List.head?_eq_some_iff.mp point.1
    exact List.cons_prefix_cons.mpr ⟨rfl, List.takeWhile_prefix _⟩
  · exact List.nil_prefix

theorem append_prefix_of_drop {front next t : Text} (begins : front <+: t) (continues : next <+: t.drop front.length) :
    front ++ next <+: t := by
  obtain ⟨rest, rfl⟩ := begins
  rw [List.drop_left] at continues
  exact (List.prefix_append_right_inj front).mpr continues

section Boundary

variable {rest : Text} (boundary : atBoundary rest)
include boundary

theorem head?_boundary {c : CodePoint} (visible : ¬c.isBlank) (t : Text) :
    (t ++ rest).head? = some c ↔ t.head? = some c := by
  cases t with
  | cons d t => rfl
  | nil =>
    cases rest with
    | nil => rfl
    | cons d rest =>
      constructor
      · rintro ⟨⟩
        exact absurd boundary visible
      · rintro ⟨⟩

theorem digitRun_boundary (t : Text) : digitRun (t ++ rest) = digitRun t :=
  takeWhile_boundary (fun _ => visible_of_isDigit) boundary t

theorem minusSign_boundary (t : Text) : minusSign (t ++ rest) = minusSign t := by
  simp only [minusSign_eq, head?_boundary boundary (show ¬(CodePoint.char '-').isBlank by decide)]

theorem fraction_boundary (t : Text) : fraction (t ++ rest) = fraction t := by
  cases t with
  | nil =>
    have noPoint := mt (head?_boundary boundary (show ¬(CodePoint.char '.').isBlank by decide) []).mp (by simp)
    rw [List.nil_append] at noPoint ⊢
    rw [fraction_eq, if_neg fun point => noPoint point.1]
    rfl
  | cons c t =>
    rw [fraction_eq, fraction_eq (c :: t), List.cons_append, List.tail_cons, List.tail_cons, digitRun_boundary boundary]
    rfl

theorem atBoundary_append {t : Text} (visible : IsVisible t) : atBoundary (t ++ rest) = atBoundary t := by
  cases t with
  | nil => simpa [atBoundary] using boundary
  | cons c t => rfl

theorem numeral?_boundary {t : Text} (visible : IsVisible t) : numeral? (t ++ rest) = numeral? t := by
  have signed := minusSign_isPrefix t
  have whole : minusSign t ++ digitRun (t.drop (minusSign t).length) <+: t :=
    append_prefix_of_drop signed (List.takeWhile_prefix CodePoint.isDigit)
  have all := append_prefix_of_drop whole (fraction_isPrefix _)
  have behind : ∀ {front : Text}, front <+: t → (t ++ rest).drop front.length = t.drop front.length ++ rest :=
    fun begins => List.drop_append_of_le_length begins.length_le
  have afterSign := behind signed
  have afterWhole := behind whole
  have afterAll := behind all
  have visible' : IsVisible (t.drop (minusSign t ++ digitRun (t.drop (minusSign t).length) ++
      fraction (t.drop (minusSign t ++ digitRun (t.drop (minusSign t).length)).length)).length) :=
    fun c member => visible c (List.mem_of_mem_drop member)
  simp only [List.length_append] at afterWhole afterAll visible'
  simp only [numeral?, minusSign_boundary boundary, afterSign, digitRun_boundary boundary, afterWhole,
    fraction_boundary boundary, afterAll, atBoundary_append boundary visible']

end Boundary

theorem isVisible_of_isNumeral {t : Text} (shape : IsNumeral t) : IsVisible t := by
  obtain ⟨sign, whole, part, rfl, signed, digits, fraction⟩ := shape
  intro c member
  rw [List.mem_append, List.mem_append] at member
  rcases member with (inSign | inWhole) | inPart
  · rcases signed with rfl | rfl
    · cases inSign
    · obtain rfl := List.mem_singleton.mp inSign
      decide
  · exact visible_of_isDigit (digits c inWhole)
  · rcases fraction with rfl | ⟨more, rfl, digits'⟩
    · cases inPart
    · rcases List.mem_cons.mp inPart with rfl | inPart
      · decide
      · exact visible_of_isDigit (digits' c inPart)

/-- A numeral begins the text and ends at a boundary, and it is a numeral by itself. -/
theorem numeral?_eq_some {t numeral : Text} (read : numeral? t = some numeral) :
    ∃ rest, t = numeral ++ rest ∧ atBoundary rest ∧ numeral? numeral = some numeral := by
  have visible := isVisible_of_isNumeral (numeral?_isNumeral read)
  have whole : minusSign t ++ digitRun (t.drop (minusSign t).length) <+: t :=
    append_prefix_of_drop (minusSign_isPrefix t) (List.takeWhile_prefix CodePoint.isDigit)
  have all := append_prefix_of_drop whole (fraction_isPrefix _)
  obtain ⟨rest, cut, boundary⟩ : ∃ rest, t = numeral ++ rest ∧ atBoundary rest := by
    unfold numeral? at read
    dsimp only at read
    split at read
    · rename_i holds
      cases read
      rw [List.length_append] at all
      refine ⟨_, (List.prefix_iff_eq_append.mp all).symm, ?_⟩
      simpa only [List.length_append] using holds.2
    · cases read
  refine ⟨rest, cut, boundary, ?_⟩
  rw [← numeral?_boundary boundary visible, ← cut]
  exact read

/-! ### Operators in words -/

theorem startsWord_iff {spelling w rest : Text} (visible : IsVisible w) (visible' : IsVisible spelling)
    (boundary : atBoundary rest) :
    ((Text.after? spelling (w ++ rest)).map atBoundary).getD false = true ↔ spelling = w := by
  constructor
  · intro found
    cases read : Text.after? spelling (w ++ rest) with
    | none =>
      rw [read] at found
      cases found
    | some tail =>
      rw [read] at found
      have cut := Text.after?_eq_some_iff.mp read
      obtain ⟨more, rfl⟩ := prefix_of_boundary visible' boundary ⟨tail, cut.symm⟩
      rw [List.append_assoc, List.append_cancel_left_eq] at cut
      subst cut
      rw [eq_nil_of_atBoundary (fun c member => visible c (List.mem_append_right _ member)) found, List.append_nil]
  · rintro rfl
    rw [Text.after?_append]
    exact boundary

theorem wordPair?_eq_some_iff {first t : Text} {width : Nat} :
    wordPair? first "with" t = some width ↔
      ∃ gap tail : Text, t = first ++ (gap ++ ("with" ++ tail)) ∧ gap ≠ [] ∧ (∀ c ∈ gap, c.isBlank) ∧ atBoundary tail ∧
        width = (first ++ gap ++ "with").length := by
  constructor
  · intro found
    obtain ⟨rest, begins, read⟩ := Option.bind_eq_some_iff.mp found
    obtain rfl := Text.after?_eq_some_iff.mp begins
    dsimp only at read
    split at read
    · cases read
    · rename_i filled
      obtain ⟨tail, ends, read⟩ := Option.bind_eq_some_iff.mp read
      have cut := Text.after?_eq_some_iff.mp ends
      split at read
      · rename_i boundary
        cases read
        refine ⟨rest.takeWhile CodePoint.isBlank, tail, ?_, filled, ?_, boundary, by simp [Nat.add_assoc]⟩
        · rw [← cut, List.prefix_iff_eq_append.mp (List.takeWhile_prefix CodePoint.isBlank)]
        · exact fun c member => List.all_eq_true.mp List.all_takeWhile c member
      · cases read
  · rintro ⟨gap, tail, rfl, filled, blanks, boundary, rfl⟩
    have gapRead : (gap ++ ("with" ++ tail) : Text).takeWhile CodePoint.isBlank = gap := by
      rw [List.takeWhile_append_of_pos blanks]
      exact List.append_nil gap
    unfold wordPair?
    rw [Text.after?_append, Option.bind_eq_bind, Option.bind_some]
    dsimp only
    rw [gapRead, if_neg filled, List.drop_left, Text.after?_append, Option.bind_some, if_pos boundary,
      List.length_append, List.length_append]

theorem wordPair?_eq_none {first w rest : Text} (visible : IsVisible w) (visible' : IsVisible first)
    (boundary : atBoundary rest) (other : first ≠ w) : wordPair? first "with" (w ++ rest) = none := by
  cases found : wordPair? first "with" (w ++ rest) with
  | none => rfl
  | some width =>
    obtain ⟨gap, tail, same, filled, blanks, _, _⟩ := wordPair?_eq_some_iff.mp found
    exact absurd (visible_unique visible visible' boundary (atBoundary_gap filled blanks _) same).1.symm other

end RouteScript.Script
