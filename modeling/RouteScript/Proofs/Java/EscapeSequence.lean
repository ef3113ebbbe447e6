import RouteScript.Proofs.Java.LiteralText

/-!
# Escape sequences

The Java language reads a source text in two passes: code points written by number with `\u` are translated first
(`Spells`), and the escape sequences of a literal are interpreted in what that gives (`readEscapes?`). `unescape` does
both at once, which makes no difference as long as the code points written by number are inert
(`Spells.unescape_of_state`).
-/

namespace RouteScript.Java

/-! ### Code points written by number -/

/-- Has the same meaning in a literal wherever it stands. -/
def IsInert (c : CodePoint) : Prop :=
  ¬c.isBlank ∧ c ≠ .char '\\' ∧ c ≠ .char '"' ∧ c.octalValue? = none

instance (c : CodePoint) : Decidable (IsInert c) :=
  inferInstanceAs (Decidable (¬c.isBlank ∧ c ≠ .char '\\' ∧ c ≠ .char '"' ∧ c.octalValue? = none))

/-- The source and what it is translated to. A backslash takes the code point behind it along, so that of two backslashes
the second begins nothing. Only inert code points are written by number. -/
inductive Spells : Text → Text → Prop
  | nil : Spells [] []
  | plain {c : CodePoint} {s t : Text} (other : c ≠ .char '\\') (rest : Spells s t) : Spells (c :: s) (c :: t)
  | pair {c : CodePoint} {s t : Text} (other : c ≠ .char 'u') (rest : Spells s t) :
      Spells (.char '\\' :: c :: s) (.char '\\' :: c :: t)
  | number (marks : Nat) {digits : List CodePoint} {values : List Nat} {s t : Text}
      (hex : digits.map CodePoint.hexValue? = values.map some) (four : values.length = 4)
      (inert : IsInert (CodePoint.ofNat (ofDigits 16 values))) (rest : Spells s t) :
      Spells (.char '\\' :: (List.replicate (marks + 1) (.char 'u') ++ digits ++ s))
        (CodePoint.ofNat (ofDigits 16 values) :: t)
  | slash : Spells [.char '\\'] [.char '\\']

theorem Spells.prepend {q s t : Text} (absent : .char '\\' ∉ q) (rest : Spells s t) : Spells (q ++ s) (q ++ t) := by
  induction q with
  | nil => exact rest
  | cons c q ih =>
    simp only [List.mem_cons, not_or] at absent
    exact .plain (Ne.symm absent.1) (ih absent.2)

theorem Spells.self {t : Text} (absent : .char '\\' ∉ t) : Spells t t := by
  simpa using Spells.nil.prepend absent

/-! ### Interpretation -/

/-- The code point that a letter or a sign behind a backslash stands for. -/
def signValue? : CodePoint → Option CodePoint
  | .char 'b' => some (.char '\x08')
  | .char 's' => some (.char '\x20')
  | .char 't' => some (.char '\x09')
  | .char 'n' => some (.char '\x0a')
  | .char 'f' => some (.char '\x0c')
  | .char 'r' => some (.char '\x0d')
  | .char '"' => some (.char '"')
  | .char '\'' => some (.char '\'')
  | .char '\\' => some (.char '\\')
  | _ => none

/-- What the next code point is read as. -/
inductive EscapeState where
  | text
  | backslash
  /-- Behind octal digits of this value, with room for more. -/
  | octal (value room : Nat)

/-- The text with its escape sequences interpreted, if they all exist. An octal number has up to three digits, or up to two
if the first is above `3`. -/
def readEscapes? : EscapeState → Text → Option Text
  | .text, [] => some []
  | .text, c :: t =>
    if c = .char '\\' then readEscapes? .backslash t else (readEscapes? .text t).map (c :: ·)
  | .backslash, [] => none
  | .backslash, c :: t =>
    if c = .char '\n' then readEscapes? .text t
    else match signValue? c, c.octalValue? with
      | some d, _ => (readEscapes? .text t).map (d :: ·)
      | none, some n => readEscapes? (.octal n (if n ≤ 3 then 2 else 1)) t
      | none, none => none
  | .octal n _, [] => some [CodePoint.ofNat n]
  | .octal n room, c :: t =>
    match if room = 0 then none else c.octalValue? with
    | some d => readEscapes? (.octal (n * 8 + d) (room - 1)) t
    | none =>
      (if c = .char '\\' then readEscapes? .backslash t else (readEscapes? .text t).map (c :: ·)).map
        (CodePoint.ofNat n :: ·)

theorem readEscapes?_text_cons {c : CodePoint} (other : c ≠ .char '\\') (t : Text) :
    readEscapes? .text (c :: t) = (readEscapes? .text t).map (c :: ·) := by
  rw [readEscapes?, if_neg other]

theorem readEscapes?_text_append {s : Text} (absent : .char '\\' ∉ s) (t : Text) :
    readEscapes? .text (s ++ t) = (readEscapes? .text t).map (s ++ ·) := by
  induction s with
  | nil => simp
  | cons c s ih =>
    simp only [List.mem_cons, not_or] at absent
    rw [List.cons_append, readEscapes?_text_cons (Ne.symm absent.1), ih absent.2, Option.map_map]
    rfl

/-- An octal number ends where no digit follows or no room is left. -/
theorem readEscapes?_octal_end {room : Nat} {c : CodePoint} (stop : room = 0 ∨ c.octalValue? = none) (n : Nat) (t : Text) :
    readEscapes? (.octal n room) (c :: t) = (readEscapes? .text (c :: t)).map (CodePoint.ofNat n :: ·) := by
  have none : (if room = 0 then none else c.octalValue?) = none := by
    rcases stop with rfl | other
    · rfl
    · simp [other]
  simp only [readEscapes?, none]

theorem readEscapes?_octal_digit {room d : Nat} {c : CodePoint} (digit : c.octalValue? = some d) (n : Nat) (t : Text) :
    readEscapes? (.octal n (room + 1)) (c :: t) = readEscapes? (.octal (n * 8 + d) room) t := by
  rw [readEscapes?, digit]
  rfl

/-- Reads something of its own in front of the text. -/
def ReadsAhead (read : Text → Option Text) : Prop :=
  ∃ front : Option Text, ∀ t, read t = front.bind fun u => (readEscapes? .text t).map (u ++ ·)

theorem ReadsAhead.map {read : Text → Option Text} (ahead : ReadsAhead read) (s : Text) :
    ReadsAhead fun t => (read t).map (s ++ ·) := by
  obtain ⟨front, same⟩ := ahead
  refine ⟨front.map (s ++ ·), fun t => ?_⟩
  simp only [same]
  cases front <;> simp [Option.map_map, Function.comp_def]

/-- A line end brings every reading back to the text: what stands behind it is read on its own. -/
theorem readEscapes?_feed (state : EscapeState) (s : Text) :
    ReadsAhead fun t => readEscapes? state (s ++ .char '\n' :: t) := by
  induction s generalizing state with
  | nil =>
    have text : ReadsAhead fun t => readEscapes? .text (.char '\n' :: t) :=
      ⟨some [.char '\n'], fun t => readEscapes?_text_cons (by decide) t⟩
    cases state with
    | text => exact text
    | backslash => exact ⟨some [], fun t => by simp [readEscapes?]⟩
    | octal n room =>
      have stop : room = 0 ∨ (CodePoint.char '\n').octalValue? = none := .inr (by decide)
      simpa only [List.nil_append, readEscapes?_octal_end stop, List.singleton_append] using text.map [.ofNat n]
  | cons c s ih =>
    have text : ReadsAhead fun t => readEscapes? .text (c :: (s ++ .char '\n' :: t)) := by
      by_cases slash : c = .char '\\'
      · simpa [readEscapes?, slash] using ih .backslash
      · simpa [readEscapes?, slash] using (ih .text).map [c]
    simp only [List.cons_append]
    cases state with
    | text => exact text
    | backslash =>
      simp only [readEscapes?]
      split
      · exact ih .text
      · split
        · exact (ih .text).map [_]
        · exact ih _
        · exact ⟨none, fun _ => rfl⟩
    | octal n room =>
      by_cases stop : room = 0 ∨ c.octalValue? = none
      · simpa only [readEscapes?_octal_end stop, List.singleton_append] using text.map [.ofNat n]
      · rw [not_or] at stop
        obtain ⟨room, rfl⟩ := Nat.exists_eq_succ_of_ne_zero stop.1
        obtain ⟨d, digit⟩ := Option.ne_none_iff_exists'.mp stop.2
        simpa only [readEscapes?_octal_digit digit] using ih (.octal (n * 8 + d) room)

/-! ### Both passes at once -/

/-- The octal digits that `s` begins with, as far as there is room for them. -/
def octalRun (room : Nat) (s : Text) : Text := (s.take room).takeWhile (·.octalValue?.isSome)

theorem octalRun_nil {room : Nat} {c : CodePoint} (stop : room = 0 ∨ c.octalValue? = none) (s : Text) :
    octalRun room (c :: s) = [] := by
  rcases stop with rfl | other
  · rfl
  · cases room <;> simp [octalRun, other]

theorem octalRun_cons {room d : Nat} {c : CodePoint} (digit : c.octalValue? = some d) (s : Text) :
    octalRun (room + 1) (c :: s) = c :: octalRun room s := by
  simp [octalRun, digit]

theorem escape?_sign {c d : CodePoint} (sign : signValue? c = some d) (s : Text) : escape? (c :: s) = some ([d], 1) := by
  unfold signValue? at sign
  split at sign <;> cases sign <;> rfl

theorem escape?_number_or_octal {x : Char} (noSign : simpleEscape? x = none) (other : x ≠ '\r') (s : Text) :
    escape? (.char x :: s) = (unicodeEscape? (.char x :: s) <|> octalEscape? (.char x :: s)) := by
  unfold escape?
  split
  · rename_i same
    cases same
    exact absurd rfl other
  · rename_i same
    cases same
    simp [noSign]
  · rename_i other
    exact absurd rfl (other x s)

theorem escape?_octal {c : CodePoint} {n : Nat} (digit : c.octalValue? = some n) (s : Text) :
    escape? (c :: s) = some ([.ofNat (((octalRun (if n ≤ 3 then 2 else 1) s).filterMap CodePoint.octalValue?).foldl
      (fun m d => m * 8 + d) n)], (octalRun (if n ≤ 3 then 2 else 1) s).length + 1) := by
  have count : ∀ t : Text, ((t.takeWhile (·.octalValue?.isSome)).filterMap CodePoint.octalValue?).length =
      (t.takeWhile (·.octalValue?.isSome)).length := by
    intro t
    induction t with
    | nil => rfl
    | cons x t ih => cases value : x.octalValue? <;> simp [value, ih]
  have plain : escape? (c :: s) = octalEscape? (c :: s) := by
    cases c with
    | surrogate offset =>
      have large : ¬0xD800 + offset.val ≤ 0x37 := by omega
      simp [CodePoint.octalValue?, CodePoint.inRange, CodePoint.toNat, large] at digit
    | char x =>
      have noSign : simpleEscape? x = none := by
        unfold simpleEscape?
        split <;> first | rfl | cases digit
      have noMark : x ≠ 'u' := by
        rintro rfl
        cases digit
      have noReturn : x ≠ '\r' := by
        rintro rfl
        cases digit
      have noNumber : unicodeEscape? (.char x :: s) = none := by simp [unicodeEscape?, noMark]
      rw [escape?_number_or_octal noSign noReturn, noNumber]
      rfl
  have limit : (if ((c :: s).head?.bind CodePoint.octalValue?).getD 0 ≤ 3 then 3 else 2) = (if n ≤ 3 then 2 else 1) + 1 := by
    simp only [List.head?_cons, Option.bind_some, digit, Option.getD_some]
    split <;> rfl
  rw [plain, octalEscape?, limit]
  simp [octalRun, digit, ofDigits, count]

theorem escape?_number (marks : Nat) {digits : List CodePoint} {values : List Nat}
    (hex : digits.map CodePoint.hexValue? = values.map some) (four : values.length = 4) (s : Text) :
    escape? (List.replicate (marks + 1) (.char 'u') ++ digits ++ s) =
      some ([.ofNat (ofDigits 16 values)], marks + 5) := by
  have long : digits.length = 4 := by simpa [four] using congrArg List.length hex
  have count : ((List.replicate (marks + 1) (CodePoint.char 'u') ++ digits ++ s).takeWhile
      (· = .char 'u')).length = marks + 1 := by
    obtain ⟨d, ds, rfl⟩ := List.exists_cons_of_length_eq_add_one long
    obtain ⟨v, vs, rfl⟩ := List.exists_cons_of_length_eq_add_one four
    have other : d ≠ .char 'u' := by
      rintro rfl
      cases hex
    simp [List.takeWhile_append_of_pos, other]
  have found : digits.filterMap CodePoint.hexValue? = values := by
    calc digits.filterMap CodePoint.hexValue?
      _ = (digits.map CodePoint.hexValue?).filterMap id := by rw [List.filterMap_map]; rfl
      _ = values := by rw [hex, List.filterMap_map]; simp
  have behind : (((List.replicate (marks + 1) (CodePoint.char 'u') ++ digits ++ s).drop (marks + 1)).take 4).filterMap
      CodePoint.hexValue? = values := by
    rw [List.append_assoc, List.drop_left' (by simp), List.take_left' long, found]
  have read : unicodeEscape? (List.replicate (marks + 1) (.char 'u') ++ digits ++ s) =
      some ([.ofNat (ofDigits 16 values)], marks + 5) := by
    unfold unicodeEscape?
    simp only [count, behind, four]
    simp
  rw [List.replicate_succ, List.cons_append, List.cons_append] at read ⊢
  rw [escape?_number_or_octal rfl (by decide), read]
  rfl

/-- Where the source begins with no octal digit, an octal number ends and the text goes on. -/
theorem unescape_octal_end {c d : CodePoint} {s t v : Text} {n room : Nat} (stop : room = 0 ∨ c.octalValue? = none)
    (translated : room = 0 ∨ d.octalValue? = none)
    (text : ∀ v, readEscapes? .text (d :: t) = some v → unescape (c :: s) = v)
    (read : readEscapes? (.octal n room) (d :: t) = some v) :
    CodePoint.ofNat (((octalRun room (c :: s)).filterMap CodePoint.octalValue?).foldl (fun m d => m * 8 + d) n) ::
      unescape ((c :: s).drop (octalRun room (c :: s)).length) = v := by
  rw [readEscapes?_octal_end translated, Option.map_eq_some_iff] at read
  obtain ⟨v, read, rfl⟩ := read
  rw [octalRun_nil stop, ← text v read]
  rfl

/-- Translating first and interpreting then gives what `unescape` gives. Behind the digits of an octal number it is the
rest of the number that is found in the source. -/
theorem Spells.unescape_of_state {s t : Text} (spells : Spells s t) :
    (∀ v, readEscapes? .text t = some v → unescape s = v) ∧
    ∀ n room v, readEscapes? (.octal n room) t = some v →
      .ofNat (((octalRun room s).filterMap CodePoint.octalValue?).foldl (fun m d => m * 8 + d) n) ::
        unescape (s.drop (octalRun room s).length) = v := by
  -- Both states are carried at once: a digit behind a backslash leads from the first to the second.
  induction spells with
  | nil =>
    refine ⟨fun v read => ?_, fun n room v read => ?_⟩
    · cases read
      rw [unescape]
    · cases read
      simp [octalRun, unescape]
  | @plain c s t other rest ih =>
    have text : ∀ v, readEscapes? .text (c :: t) = some v → unescape (c :: s) = v := by
      intro v read
      rw [readEscapes?_text_cons other, Option.map_eq_some_iff] at read
      obtain ⟨v, read, rfl⟩ := read
      rw [unescape_cons other, ih.1 v read]
    refine ⟨text, fun n room v read => ?_⟩
    by_cases stop : room = 0 ∨ c.octalValue? = none
    · exact unescape_octal_end stop stop text read
    · rw [not_or] at stop
      obtain ⟨room, rfl⟩ := Nat.exists_eq_succ_of_ne_zero stop.1
      obtain ⟨d, digit⟩ := Option.ne_none_iff_exists'.mp stop.2
      rw [Nat.succ_eq_add_one, readEscapes?_octal_digit digit] at read
      rw [Nat.succ_eq_add_one, octalRun_cons digit, ← ih.2 _ _ _ read]
      simp [digit]
  | @pair c s t other rest ih =>
    have text : ∀ v, readEscapes? .text (.char '\\' :: c :: t) = some v → unescape (.char '\\' :: c :: s) = v := by
      intro v read
      rw [readEscapes?, if_pos rfl, readEscapes?] at read
      rw [unescape, if_pos rfl]
      split at read
      · rename_i feed
        subst feed
        rw [show escape? (.char '\n' :: s) = some ([], 1) from rfl]
        exact ih.1 v read
      · split at read
        · rename_i d _ sign
          rw [escape?_sign sign]
          obtain ⟨v, inner, rfl⟩ := Option.map_eq_some_iff.mp read
          simpa using ih.1 v inner
        · rename_i n sign digit
          rw [escape?_octal digit]
          simpa using ih.2 _ _ _ read
        · cases read
    exact ⟨text, fun n room v read => unescape_octal_end (.inr (by decide)) (.inr (by decide)) text read⟩
  | @number marks digits values s t hex four inert rest ih =>
    have text : ∀ v, readEscapes? .text (CodePoint.ofNat (ofDigits 16 values) :: t) = some v →
        unescape (.char '\\' :: (List.replicate (marks + 1) (.char 'u') ++ digits ++ s)) = v := by
      intro v read
      rw [readEscapes?_text_cons inert.2.1, Option.map_eq_some_iff] at read
      obtain ⟨v, read, rfl⟩ := read
      have long : digits.length = 4 := by
        have same := congrArg List.length hex
        simpa [four] using same
      have behind : (List.replicate (marks + 1) (CodePoint.char 'u') ++ digits ++ s).drop (marks + 5) = s :=
        List.drop_left' (by simp [long])
      rw [unescape, if_pos rfl, escape?_number marks hex four]
      simp only [behind, ih.1 v read, List.singleton_append]
    -- What is written by number is no octal digit, so it does not go on with a number that is open.
    exact ⟨text, fun n room v read => unescape_octal_end (.inr (by decide)) (.inr inert.2.2.2) text read⟩
  | slash =>
    have text : ∀ v, readEscapes? .text [.char '\\'] = some v → unescape [.char '\\'] = v := by
      intro v read
      cases read
    exact ⟨text, fun n room v read => unescape_octal_end (.inr (by decide)) (.inr (by decide)) text read⟩

end RouteScript.Java
