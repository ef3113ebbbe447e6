import Mathlib.Data.List.Chain
import RouteScript.Proofs.Script.Braces
import RouteScript.Script.Segment

/-!
# Segments tile a template

The segments of a template lie side by side from its beginning to its end, and each is written as the
code points of its place (`Tiles`). A template has no segments exactly when a function that is not inside
another one is malformed, and the first of these is reported (`segments_tile`).
-/

namespace RouteScript.Script

/-- How a segment is written. -/
inductive Segment.Written : Segment → Text → Prop
  | text {t : Text} (filled : t ≠ []) (plain : ∀ opening ∈ functionOpenings, ¬opening <:+: t) : Written (.text t) t
  | function {opening inner : Text} (known : opening ∈ functionOpenings) (balanced : Balanced inner)
      (filled : Text.strip inner ≠ []) (balancedBody : Balanced (Text.strip inner)) :
      Written (.function (Text.strip inner)) (functionText opening inner)

def Segment.IsLiteral (s : Segment) : Prop := ∃ t, s = .text t

def PlacedSegment.slice (script : Text) (s : PlacedSegment) : Text := (script.drop s.index).take s.width

/-- Each segment begins where the one before it ends, the first at `start`, and the last one ends at `stop`. -/
def Abut (start stop : Nat) : List PlacedSegment → Prop
  | [] => start = stop
  | s :: ss => s.index = start ∧ Abut (start + s.width) stop ss

structure Tiles (script : Text) (ss : List PlacedSegment) : Prop where
  abut : Abut 0 script.length ss
  written : ∀ s ∈ ss, s.segment.Written (s.slice script)
  apart : ss.IsChain fun s s' => ¬(s.segment.IsLiteral ∧ s'.segment.IsLiteral)

/-- A function takes up `script` from `start` to `stop`. -/
def FunctionAt (script : Text) (start stop : Nat) : Prop :=
  ∃ opening ∈ functionOpenings, ∃ inner rest, script.drop start = functionText opening inner ++ rest ∧
    Balanced inner ∧ stop = start + (functionText opening inner).length

/-- No function that begins before `n` goes on beyond it. -/
def IsOutside (script : Text) (n : Nat) : Prop := ∀ start stop, start < n → FunctionAt script start stop → stop ≤ n

/-- A malformed function begins where the fault is, outside all others. -/
def IsFault (script : Text) (fault : SyntaxFault) : Prop :=
  IsOutside script fault.index ∧ MalformedFunction fault.cause (script.drop fault.index)

/-! ### Functions inside functions -/

theorem opening_shape :
    ∀ opening ∈ functionOpenings, opening.head? = some (.char '$') ∧ .char '$' ∉ opening.tail ∧
      opening.count (.char '{') = 1 ∧ .char '}' ∉ opening := by
  decide

theorem functionText_head {opening : Text} (known : opening ∈ functionOpenings) (inner : Text) :
    (functionText opening inner).head? = some (.char '$') := by
  rw [functionText, List.append_assoc, List.head?_append, (opening_shape opening known).1]
  rfl

theorem length_functionText (opening inner : Text) :
    (functionText opening inner).length = opening.length + inner.length + 1 := by
  rw [functionText, List.length_append, List.length_append, List.length_singleton]

/-- A function that begins in a balanced text ends in it. -/
theorem functionText_prefix_of_balanced {before within rest opening inner : Text} (balanced : Balanced (before ++ within))
    (known : opening ∈ functionOpenings) (balancedInner : Balanced inner)
    (begins : functionText opening inner <+: within ++ .char '}' :: rest) :
    functionText opening inner <+: within := by
  obtain ⟨_, _, opens, closes⟩ := opening_shape opening known
  rcases List.prefix_or_prefix_of_prefix begins ⟨_, rfl⟩ with shorter | ⟨more, cut⟩
  · exact shorter
  rw [← cut] at begins
  cases more with
  | nil => exact ⟨[], by rw [List.append_nil, ← cut, List.append_nil]⟩
  | cons d more =>
    obtain ⟨rfl, _⟩ := List.cons_prefix_cons.mp ((List.prefix_append_right_inj within).mp begins)
    rw [functionText, List.append_assoc] at cut
    have opened : opening <+: within := by
      rcases List.append_eq_append_iff.mp cut with ⟨missing, opened, next⟩ | ⟨part, rfl, _⟩
      · cases missing with
        | nil => exact ⟨[], by rw [opened, List.append_nil, List.append_nil]⟩
        | cons e missing =>
          cases next
          exact absurd (by rw [opened]; simp) closes
      · exact ⟨part, rfl⟩
    obtain ⟨part, rfl⟩ := opened
    rw [List.append_assoc, List.append_cancel_left_eq] at cut
    have partOf : part <+: inner := by
      rcases List.prefix_concat_iff.mp ⟨_, cut⟩ with whole | inside
      · have longer := congrArg List.length cut
        simp [whole] at longer
      · exact inside
    -- More braces are opened than closed up to here, but `before ++ within` closes all of them.
    have below := balancedInner.1 part partOf
    have before' := balanced.1 before ⟨_, rfl⟩
    have whole := balanced.2
    simp only [List.count_append, opens, List.count_eq_zero_of_not_mem closes] at whole
    omega

theorem functionAt_nested {front opening inner rest : Text} (known : opening ∈ functionOpenings) (balanced : Balanced inner)
    {start stop : Nat} (behind : front.length < start) (before : start < (front ++ functionText opening inner).length)
    (function : FunctionAt (front ++ functionText opening inner ++ rest) start stop) :
    stop ≤ (front ++ functionText opening inner).length := by
  obtain ⟨opening', known', inner', rest', cut, balanced', rfl⟩ := function
  obtain ⟨_, single, _, _⟩ := opening_shape opening known
  rw [List.length_append, length_functionText] at before
  -- The function begins with a dollar, and the only one of the opening is its first code point.
  have past : front.length + opening.length ≤ start := by
    by_contra inside
    have dollar : (front ++ functionText opening inner ++ rest)[start]? = some (.char '$') := by
      rw [← List.head?_drop, cut, List.head?_append, functionText_head known']
      rfl
    have place : (front ++ functionText opening inner ++ rest)[start]? = opening.tail[start - front.length - 1]? := by
      rw [functionText, List.append_assoc, List.getElem?_append_right (by omega), List.append_assoc, List.append_assoc,
        List.getElem?_append_left (by omega), List.getElem?_tail]
      congr 1
      omega
    exact single (List.mem_of_getElem? (place.symm.trans dollar))
  obtain ⟨j, rfl⟩ := Nat.exists_eq_add_of_le past
  have dropped : (front ++ functionText opening inner ++ rest).drop (front.length + opening.length + j) =
      inner.drop j ++ .char '}' :: rest := by
    have regroup : front ++ functionText opening inner ++ rest = (front ++ opening) ++ (inner ++ .char '}' :: rest) := by
      simp [functionText]
    rw [regroup, ← List.length_append, List.drop_length_add_append, List.drop_append_of_le_length (by omega)]
  have ends : functionText opening' inner' <+: inner.drop j := by
    have whole : Balanced (inner.take j ++ inner.drop j) := by
      rw [List.take_append_drop]
      exact balanced
    exact functionText_prefix_of_balanced whole known' balanced' ⟨rest', by rw [← cut, dropped]⟩
  have shorter := ends.length_le
  rw [List.length_drop] at shorter
  rw [List.length_append, length_functionText opening inner]
  omega

/-! ### Steps over text and over a function -/

section Steps

variable {script front : Text}

theorem not_functionAt {n stop : Nat} (none : functionOpening? (script.drop n) = none) : ¬FunctionAt script n stop := by
  rintro ⟨opening, known, inner, rest, cut, _⟩
  rw [cut] at none
  exact functionOpening?_eq_none_iff.mp none opening known (opening_prefix_functionText opening inner rest)

theorem not_malformed_of_none {t : Text} (none : functionOpening? t = none) {cause : SyntaxCause} :
    ¬MalformedFunction cause t := by
  intro malformed
  cases malformed with
  | @empty opening inner rest known =>
    exact functionOpening?_eq_none_iff.mp none opening known (opening_prefix_functionText opening inner rest)
  | @unclosed opening rest known => exact functionOpening?_eq_none_iff.mp none opening known ⟨rest, rfl⟩

theorem step_text {run rest : Text} (cut : script = front ++ run ++ rest)
    (plain : ∀ k < run.length, functionOpening? ((run ++ rest).drop k) = none) (outside : IsOutside script front.length) :
    IsOutside script (front ++ run).length ∧
      ∀ fault, IsFault script fault → front.length ≤ fault.index → (front ++ run).length ≤ fault.index := by
  have none : ∀ n, front.length ≤ n → n < (front ++ run).length → functionOpening? (script.drop n) = none := by
    intro n behind before
    obtain ⟨k, rfl⟩ := Nat.exists_eq_add_of_le behind
    rw [List.length_append] at before
    rw [cut, List.append_assoc, List.drop_length_add_append]
    exact plain k (by omega)
  constructor
  · intro start stop before function
    by_cases early : start < front.length
    · have ends := outside start stop early function
      rw [List.length_append]
      omega
    · exact absurd function (not_functionAt (none start (by omega) before))
  · rintro fault ⟨_, malformed⟩ behind
    by_contra before
    exact not_malformed_of_none (none fault.index behind (by omega)) malformed

theorem step_function {opening inner rest : Text} (cut : script = front ++ functionText opening inner ++ rest)
    (known : opening ∈ functionOpenings) (balanced : Balanced inner) (filled : Text.strip inner ≠ [])
    (outside : IsOutside script front.length) :
    IsOutside script (front ++ functionText opening inner).length ∧
      ∀ fault, IsFault script fault → front.length ≤ fault.index →
        (front ++ functionText opening inner).length ≤ fault.index := by
  have dropped : script.drop front.length = functionText opening inner ++ rest := by
    rw [cut, List.append_assoc, List.drop_left]
  have here : FunctionAt script front.length (front ++ functionText opening inner).length :=
    ⟨opening, known, inner, rest, dropped, balanced, List.length_append⟩
  constructor
  · intro start stop before function
    rcases Nat.lt_trichotomy start front.length with early | rfl | late
    · have ends := outside start stop early function
      rw [List.length_append]
      omega
    · obtain ⟨opening', known', inner', rest', cut', balanced', rfl⟩ := function
      obtain ⟨rfl, rfl, _⟩ := functionText_unique known known' balanced balanced' (dropped.symm.trans cut')
      rw [List.length_append]
    · subst cut
      exact functionAt_nested known balanced late before function
  · rintro fault ⟨outside', malformed⟩ behind
    rcases Nat.eq_or_lt_of_le behind with same | late
    · rw [← same, dropped] at malformed
      exact absurd malformed (not_malformed_of_balanced known balanced filled)
    · exact outside' _ _ late here

end Steps

/-! ### The whole template -/

theorem textRun_spec (t : Text) :
    t = textRun t ++ t.drop (textRun t).length ∧
      (∀ k < (textRun t).length, functionOpening? (t.drop k) = none) ∧
      (t.drop (textRun t).length = [] ∨ (functionOpening? (t.drop (textRun t).length)).isSome) := by
  induction t with
  | nil => exact ⟨rfl, by simp [textRun], Or.inl rfl⟩
  | cons c t ih =>
    obtain ⟨whole, plain, next⟩ := ih
    rw [textRun]
    split
    · rename_i opened
      exact ⟨rfl, by simp, Or.inr opened⟩
    · rename_i unopened
      refine ⟨by rw [List.length_cons, List.drop_succ_cons, List.cons_append, ← whole], ?_, next⟩
      intro k within
      cases k with
      | zero => exact Option.not_isSome_iff_eq_none.mp unopened
      | succ k => exact plain k (Nat.lt_of_succ_lt_succ within)

theorem written_text {run rest : Text} (filled : run ≠ [])
    (plain : ∀ k < run.length, functionOpening? ((run ++ rest).drop k) = none) : (Segment.text run).Written run := by
  refine .text filled fun opening known inside => ?_
  obtain ⟨before, after, cut⟩ := inside
  have shorter : before.length < run.length := by
    have positive : 0 < opening.length := by
      have := (opening_shape opening known).1
      cases opening with
      | nil => cases this
      | cons => simp
    rw [← cut, List.length_append, List.length_append]
    omega
  refine functionOpening?_eq_none_iff.mp (plain before.length shorter) opening known ?_
  rw [← cut, List.append_assoc, List.append_assoc, List.drop_left]
  exact ⟨_, rfl⟩

theorem slice_eq {script front piece rest : Text} (cut : script = front ++ piece ++ rest) (segment : Segment)
    {index width : Nat} (place : front.length = index) (size : piece.length = width) :
    (PlacedSegment.mk segment index width).slice script = piece := by
  rw [PlacedSegment.slice, cut, ← place, ← size, List.append_assoc, List.drop_left, List.take_left]

theorem head_segmentsFrom {index : Nat} {t : Text} {ss : List PlacedSegment}
    (opened : t = [] ∨ (functionOpening? t).isSome) (read : segmentsFrom index t = .ok ss) :
    ∀ s ∈ ss.head?, ¬s.segment.IsLiteral := by
  cases t with
  | nil =>
    rw [segmentsFrom] at read
    cases read
    simp
  | cons c t =>
    obtain ⟨opening, found⟩ := Option.isSome_iff_exists.mp (opened.resolve_left (by simp))
    rw [segmentsFrom, found] at read
    obtain ⟨⟨body, more⟩, _, read⟩ := Fallible.bind_ok read
    obtain ⟨rest, _, read⟩ := Fallible.bind_ok read
    cases read
    rintro s ⟨⟩ ⟨t, literal⟩
    cases literal

/-- What the segments of a template, read from `start` on, say of it. -/
def Segmented (script : Text) (start : Nat) : Except SyntaxFault (List PlacedSegment) → Prop
  | .ok ss => Abut start script.length ss ∧ (∀ s ∈ ss, s.segment.Written (s.slice script)) ∧
      (ss.IsChain fun s s' => ¬(s.segment.IsLiteral ∧ s'.segment.IsLiteral)) ∧
      ∀ fault, IsFault script fault → fault.index < start
  | .error fault => IsFault script fault ∧ start ≤ fault.index ∧
      ∀ other, IsFault script other → start ≤ other.index → fault.index ≤ other.index

theorem IsFault.index_lt {script : Text} {fault : SyntaxFault} (isFault : IsFault script fault) :
    fault.index < script.length := by
  by_contra beyond
  have malformed := isFault.2
  rw [List.drop_eq_nil_of_le (by omega)] at malformed
  exact not_malformed_of_none rfl malformed

theorem Segmented.cons {script front piece rest : Text} (cut : script = front ++ piece ++ rest) {segment : Segment}
    (written : segment.Written piece)
    (later : ∀ fault, IsFault script fault → front.length ≤ fault.index → (front ++ piece).length ≤ fault.index)
    {result : Except SyntaxFault (List PlacedSegment)} (segmented : Segmented script (front ++ piece).length result)
    (apart : ∀ ss, result = .ok ss → ∀ s ∈ ss.head?, ¬(segment.IsLiteral ∧ s.segment.IsLiteral)) :
    Segmented script front.length (result >>= fun rest => pure (⟨segment, front.length, piece.length⟩ :: rest)) := by
  cases result with
  | error fault =>
    obtain ⟨isFault, behind, first⟩ := segmented
    refine ⟨isFault, ?_, fun other isOther start => first other isOther (later other isOther start)⟩
    rw [List.length_append] at behind
    omega
  | ok ss =>
    obtain ⟨abut, allWritten, chain, none⟩ := segmented
    refine ⟨⟨rfl, ?_⟩, ?_, chain.cons (apart ss rfl), ?_⟩
    · rw [← List.length_append]
      exact abut
    · rw [List.forall_mem_cons]
      refine ⟨?_, allWritten⟩
      rw [slice_eq cut segment rfl rfl]
      exact written
    · intro fault isFault
      by_contra start
      have behind := later fault isFault (by omega)
      have before := none fault isFault
      omega

theorem segmentsFrom_segmented {script : Text} (index : Nat) (t : Text) :
    ∀ front, script = front ++ t → front.length = index → IsOutside script index →
      Segmented script index (segmentsFrom index t) := by
  -- What carries the induction is that no function read so far reaches beyond `index`.
  fun_induction segmentsFrom index t with
  | case1 index =>
    rintro front cut rfl outside
    rw [List.append_nil] at cut
    subst cut
    exact ⟨rfl, by simp, .nil, fun fault isFault => isFault.index_lt⟩
  | case2 index c t opening opened ih =>
    rintro front cut rfl outside
    obtain ⟨known, rest, begun⟩ := functionOpening?_eq_some opened
    rw [← begun, List.drop_left]
    cases read : readFunction front.length rest with
    | error fault =>
      obtain ⟨place, malformed⟩ := readFunction_error known read
      rw [begun] at malformed
      refine ⟨⟨?_, ?_⟩, Nat.le_of_eq place.symm, fun other _ start => place ▸ start⟩
      · rw [place]
        exact outside
      · rw [place, cut, List.drop_left]
        exact malformed
    | ok result =>
      obtain ⟨body, more⟩ := result
      obtain ⟨inner, rest', rfl, balanced, rfl, filled, rfl⟩ := readFunction_ok read
      have whole : c :: t = functionText opening inner ++ rest' := by simp [← begun, functionText]
      have size : opening.length + (inner.length + 1) = (functionText opening inner).length := by
        rw [length_functionText, Nat.add_assoc]
      have tail : t.drop ((functionText opening inner).length - 1) = rest' := by
        have dropped : (c :: t).drop (functionText opening inner).length = rest' := by rw [whole, List.drop_left]
        rw [length_functionText] at dropped ⊢
        exact dropped
      rw [whole, ← List.append_assoc] at cut
      obtain ⟨outside', later⟩ := step_function cut known balanced filled outside
      have further := ih (inner.length + 1)
      dsimp only at further
      rw [size, tail, ← List.length_append] at further
      have done := Segmented.cons cut (.function known balanced filled (balanced_strip balanced)) later
        (further _ cut rfl outside') (by rintro ss _ s _ ⟨⟨t, literal⟩, _⟩; cases literal)
      rw [List.length_append, ← size, ← tail, ← size] at done
      exact done
  | case3 index c t unopened run ih =>
    rintro front cut rfl outside
    obtain ⟨whole, plain, next⟩ := textRun_spec t
    have plain' : ∀ k < (c :: run).length, functionOpening? ((c :: run ++ t.drop run.length).drop k) = none := by
      intro k within
      rw [List.cons_append, ← whole]
      cases k with
      | zero => exact unopened
      | succ k => exact plain k (Nat.lt_of_succ_lt_succ within)
    have cut' : script = front ++ (c :: run) ++ t.drop run.length := by
      rw [cut, List.append_assoc, List.cons_append, ← whole]
    have place : (front ++ (c :: run)).length = front.length + 1 + run.length := by
      rw [List.length_append, List.length_cons, Nat.add_assoc, Nat.add_comm 1]
    obtain ⟨outside', later⟩ := step_text cut' plain' outside
    have further := ih _ cut' place (place ▸ outside')
    rw [← place] at further
    have done := Segmented.cons cut' (written_text (List.cons_ne_nil c run) plain') later further
      fun ss read s first both => head_segmentsFrom next read s first both.2
    rw [place, List.length_cons, Nat.add_comm run.length] at done
    exact done

theorem segmented (script : Text) : Segmented script 0 (segments script) :=
  segmentsFrom_segmented 0 script [] rfl rfl fun start _ before => absurd before (Nat.not_lt_zero start)

/-- The segments of a template tile it, and where there are none a function is malformed. -/
theorem segments_tile (script : Text) :
    (∀ ss, segments script = .ok ss → Tiles script ss) ∧
      ((∃ fault, segments script = .error fault) ↔ ∃ fault, IsFault script fault) ∧
      ∀ fault, segments script = .error fault →
        IsFault script fault ∧ ∀ other, IsFault script other → fault.index ≤ other.index := by
  have segmented := segmented script
  cases read : segments script with
  | ok ss =>
    rw [read] at segmented
    obtain ⟨abut, written, apart, none⟩ := segmented
    refine ⟨?_, ⟨?_, ?_⟩, ?_⟩
    · rintro _ ⟨⟩
      exact ⟨abut, written, apart⟩
    · rintro ⟨_, failed⟩
      cases failed
    · rintro ⟨fault, isFault⟩
      exact absurd (none fault isFault) (Nat.not_lt_zero _)
    · rintro _ ⟨⟩
  | error fault =>
    rw [read] at segmented
    obtain ⟨isFault, _, first⟩ := segmented
    refine ⟨?_, ⟨fun _ => ⟨fault, isFault⟩, fun _ => ⟨fault, rfl⟩⟩, ?_⟩
    · rintro _ ⟨⟩
    · rintro _ ⟨⟩
      exact ⟨isFault, fun other isOther => first other isOther (Nat.zero_le _)⟩

/-- Braces nest inside a function, a dollar in front of one is text, and of two faults the first is reported. -/
theorem segments_tile_nested :
    Tiles "a$\x7bb\x7bc\x7d \x7d$$simple\x7bd\x7d"
      [⟨.text "a", 0, 1⟩, ⟨.function "b\x7bc\x7d", 1, 8⟩, ⟨.text "$", 9, 1⟩, ⟨.function "d", 10, 10⟩] ∧
    IsFault "$\x7ba\x7d$\x7b \x7d$\x7b" ⟨.emptyFunction, 4⟩ ∧
    ∀ other, IsFault "$\x7ba\x7d$\x7b \x7d$\x7b" other → 4 ≤ other.index := by
  obtain ⟨isFault, first⟩ := (segments_tile "$\x7ba\x7d$\x7b \x7d$\x7b").2.2 ⟨.emptyFunction, 4⟩
    (Fallible.error_of_fault? (by decide +kernel))
  exact ⟨(segments_tile _).1 _ (Fallible.ok_of_toOption (by decide +kernel)), isFault, first⟩

end RouteScript.Script
