import RouteScript.Proofs.Script.Tiling

/-!
# Templates written out

A template is written segment by segment: a text as it is, a function with either opening, blanks around
its body and a closing brace. `segments` gives back what was written (`segments_template`). A text may end
in the beginning of an opening, since what follows it is a function and no opening has a second dollar.
-/

namespace RouteScript.Script

/-- No function begins in `t`. -/
def HoldsNoOpening (t : Text) : Prop := ∀ opening ∈ functionOpenings, ¬opening <:+: t

/-- What a function can say: something, without blanks around it and with every brace closed. -/
structure IsBody (body : Text) : Prop where
  filled : body ≠ []
  trimmed : Text.strip body = body
  balanced : Balanced body

/-- A segment and one way to write it. -/
inductive Rendered where
  | text (t : Text) (filled : t ≠ []) (plain : HoldsNoOpening t)
  | function (opening before body after : Text) (known : opening ∈ functionOpenings) (blanks : ∀ c ∈ before, c.isBlank)
      (isBody : IsBody body) (blanks' : ∀ c ∈ after, c.isBlank)

namespace Rendered

def segment : Rendered → Segment
  | .text t .. => .text t
  | .function _ _ body .. => .function body

def written : Rendered → Text
  | .text t .. => t
  | .function opening before body after .. => opening ++ before ++ body ++ after ++ [.char '}']

def isText : Rendered → Bool
  | .text .. => true
  | .function .. => false

end Rendered

def template (rs : List Rendered) : Text := rs.flatMap Rendered.written

def renderedFrom (index : Nat) : List Rendered → List PlacedSegment
  | [] => []
  | r :: rs => ⟨r.segment, index, r.written.length⟩ :: renderedFrom (index + r.written.length) rs

/-! ### A text in front of a function -/

/-- A function begins here, or nothing is left. -/
def BeginsFunction (t : Text) : Prop := t = [] ∨ (functionOpening? t).isSome

theorem BeginsFunction.head {t : Text} (begins : BeginsFunction t) : ∀ c ∈ t.head?, c = .char '$' := by
  intro c first
  rcases begins with rfl | opened
  · cases first
  · obtain ⟨opening, found⟩ := Option.isSome_iff_exists.mp opened
    obtain ⟨known, rest, rfl⟩ := functionOpening?_eq_some found
    rw [List.head?_append, (opening_shape opening known).1] at first
    cases first
    rfl

theorem HoldsNoOpening.tail {c : CodePoint} {t : Text} (plain : HoldsNoOpening (c :: t)) : HoldsNoOpening t :=
  fun opening known inside => plain opening known (inside.trans (List.suffix_cons c t).isInfix)

/-- An opening that goes beyond a text would have a dollar behind its first code point. -/
theorem HoldsNoOpening.functionOpening?_eq_none {t rest : Text} (plain : HoldsNoOpening t) (filled : t ≠ [])
    (begins : BeginsFunction rest) : functionOpening? (t ++ rest) = none := by
  rw [functionOpening?_eq_none_iff]
  intro opening known found
  rcases List.prefix_or_prefix_of_prefix found (List.prefix_append t rest) with inside | ⟨more, rfl⟩
  · exact plain opening known inside.isInfix
  obtain ⟨beyond, rfl⟩ := (List.prefix_append_right_inj t).mp found
  cases more with
  | nil => exact plain _ known (by rw [List.append_nil])
  | cons c more =>
    have dollar : c = .char '$' := begins.head c (by simp)
    obtain ⟨d, t, rfl⟩ := List.exists_cons_of_ne_nil filled
    refine (opening_shape _ known).2.1 ?_
    rw [← dollar, List.cons_append, List.tail_cons]
    simp

theorem HoldsNoOpening.textRun_eq {t rest : Text} (plain : HoldsNoOpening t) (begins : BeginsFunction rest) :
    textRun (t ++ rest) = t := by
  induction t with
  | nil =>
    cases rest with
    | nil => rfl
    | cons c rest =>
      have opened := begins.resolve_left (List.cons_ne_nil c rest)
      rw [List.nil_append, textRun, if_pos opened]
  | cons c t ih =>
    have unopened := plain.functionOpening?_eq_none (List.cons_ne_nil c t) begins
    rw [List.cons_append] at unopened ⊢
    rw [textRun, unopened, if_neg (by simp), ih plain.tail]

theorem segmentsFrom_text (index : Nat) {t rest : Text} (filled : t ≠ []) (plain : HoldsNoOpening t)
    (begins : BeginsFunction rest) :
    segmentsFrom index (t ++ rest) =
      (segmentsFrom (index + t.length) rest).map (⟨.text t, index, t.length⟩ :: ·) := by
  have unopened := plain.functionOpening?_eq_none filled begins
  obtain ⟨c, t, rfl⟩ := List.exists_cons_of_ne_nil filled
  have run : textRun (t ++ rest) = t := plain.tail.textRun_eq begins
  rw [List.cons_append] at unopened ⊢
  rw [segmentsFrom, unopened]
  dsimp only
  rw [run, List.drop_left, List.length_cons, Nat.add_assoc, Nat.add_comm 1]
  rfl

/-! ### A function -/

theorem segmentsFrom_function (index : Nat) {opening inner : Text} (known : opening ∈ functionOpenings)
    (balanced : Balanced inner) (filled : Text.strip inner ≠ []) (rest : Text) :
    segmentsFrom index (functionText opening inner ++ rest) =
      (segmentsFrom (index + (functionText opening inner).length) rest).map
        (⟨.function (Text.strip inner), index, (functionText opening inner).length⟩ :: ·) := by
  have found := functionOpening?_of_prefix known (opening_prefix_functionText opening inner rest)
  have dropped : (functionText opening inner ++ rest).drop opening.length = inner ++ .char '}' :: rest := by
    simp [functionText]
  have size : opening.length + (inner.length + 1) = (functionText opening inner).length := by
    rw [length_functionText, Nat.add_assoc]
  have behind : (functionText opening inner ++ rest).drop (functionText opening inner).length = rest := List.drop_left
  generalize functionText opening inner ++ rest = t at found dropped behind
  cases t with
  | nil => cases found
  | cons c t =>
    have tail : t.drop ((functionText opening inner).length - 1) = rest := by
      rw [length_functionText] at behind ⊢
      exact behind
    rw [segmentsFrom, found]
    dsimp only
    rw [dropped, readFunction_of_balanced index balanced filled]
    change (segmentsFrom (index + (opening.length + (inner.length + 1))) _ >>= fun rest => pure _) = _
    rw [size, tail]
    rfl

/-! ### The whole template -/

theorem Rendered.beginsFunction {r : Rendered} (function : r.isText = false) (rest : Text) :
    BeginsFunction (r.written ++ rest) := by
  cases r with
  | text => cases function
  | function opening before body after known =>
    have begins : opening <+: opening ++ before ++ body ++ after ++ [.char '}'] ++ rest :=
      ⟨before ++ body ++ after ++ .char '}' :: rest, by simp⟩
    have found := functionOpening?_of_prefix known begins
    exact Or.inr (Option.isSome_of_eq_some found)

theorem beginsFunction_template {rs : List Rendered} (function : ∀ r ∈ rs.head?, r.isText = false) :
    BeginsFunction (template rs) := by
  cases rs with
  | nil => exact Or.inl rfl
  | cons r rs => exact Rendered.beginsFunction (function r rfl) (template rs)

theorem Rendered.segmentsFrom_written (index : Nat) (r : Rendered) {rest : Text}
    (begins : r.isText → BeginsFunction rest) :
    segmentsFrom index (r.written ++ rest) =
      (segmentsFrom (index + r.written.length) rest).map (⟨r.segment, index, r.written.length⟩ :: ·) := by
  cases r with
  | text t filled plain => exact segmentsFrom_text index filled plain (begins rfl)
  | function opening before body after known blanks isBody blanks' =>
    have inside : Balanced (before ++ body ++ after) :=
      ((balanced_of_blanks blanks).append isBody.balanced).append (balanced_of_blanks blanks')
    have stripped : Text.strip (before ++ body ++ after) = body := Text.strip_between blanks isBody.trimmed blanks'
    have read := segmentsFrom_function index known inside (by rw [stripped]; exact isBody.filled) rest
    rw [stripped] at read
    have whole : functionText opening (before ++ body ++ after) = opening ++ before ++ body ++ after ++ [.char '}'] := by
      simp [functionText]
    rw [whole] at read
    exact read

theorem segmentsFrom_template (index : Nat) {rs : List Rendered} (apart : rs.IsChain fun r r' => ¬(r.isText ∧ r'.isText)) :
    segmentsFrom index (template rs) = .ok (renderedFrom index rs) := by
  induction rs generalizing index with
  | nil =>
    change segmentsFrom index [] = _
    rw [segmentsFrom]
    rfl
  | cons r rs ih =>
    have begins : r.isText → BeginsFunction (template rs) := by
      intro text
      refine beginsFunction_template fun r' next => ?_
      have neighbours := List.isChain_cons.mp apart |>.1 r' next
      simpa [text] using neighbours
    change segmentsFrom index (r.written ++ template rs) = _
    rw [r.segmentsFrom_written index begins, ih _ apart.tail]
    rfl

/-- A template is cut at the places where its segments were put together. -/
theorem segments_template {rs : List Rendered} (apart : rs.IsChain fun r r' => ¬(r.isText ∧ r'.isText)) :
    segments (template rs) = .ok (renderedFrom 0 rs) :=
  segmentsFrom_template 0 apart

instance (t : Text) : Decidable (HoldsNoOpening t) :=
  inferInstanceAs (Decidable (∀ opening ∈ functionOpenings, ¬opening <:+: t))

instance (body : Text) : Decidable (IsBody body) :=
  decidable_of_iff (body ≠ [] ∧ Text.strip body = body ∧ Balanced body)
    ⟨fun ⟨filled, trimmed, balanced⟩ => ⟨filled, trimmed, balanced⟩, fun h => ⟨h.filled, h.trimmed, h.balanced⟩⟩

/-- Texts that end like an opening or begin with a brace, functions side by side and braces inside a body. -/
def hostileTemplate : List Rendered := [
  .text "$simple" (by decide) (by decide),
  .function "$\x7b" "\n" "a\x7bb\x7d\x7b\x7b\x7d\x7d" " " (by decide) (by decide) (by decide) (by decide),
  .function "$simple\x7b" [] "x" [] (by decide) (by decide) (by decide) (by decide),
  .text "\x7d\x7b$" (by decide) (by decide),
  .function "$\x7b" [] "header.y" [] (by decide) (by decide) (by decide) (by decide)]

theorem segments_template_hostile :
    template hostileTemplate =
        "$simple$\x7b\na\x7bb\x7d\x7b\x7b\x7d\x7d \x7d$simple\x7bx\x7d\x7d\x7b$$\x7bheader.y\x7d" ∧
      segments (template hostileTemplate) =
        .ok [⟨.text "$simple", 0, 7⟩, ⟨.function "a\x7bb\x7d\x7b\x7b\x7d\x7d", 7, 13⟩, ⟨.function "x", 20, 10⟩,
          ⟨.text "\x7d\x7b$", 30, 3⟩, ⟨.function "header.y", 33, 11⟩] :=
  ⟨by decide, segments_template (by decide)⟩

end RouteScript.Script
