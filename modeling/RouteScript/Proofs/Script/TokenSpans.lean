import RouteScript.Proofs.Script.Layout

/-!
# Spans of tokens

The tokens of a predicate stand one behind another with blanks between them, and reading fails only at a malformed
function or literal (`tokens_spans`).
-/

namespace RouteScript.Script

def PlacedToken.slice (script : Text) (p : PlacedToken) : Text := (script.drop p.index).take p.width

def PlacedToken.stop (p : PlacedToken) : Nat := p.index + p.width

/-- The part of `script` from `start` to `stop` is the spans of `ts` in order, with blanks around them. -/
structure Spans (script : Text) (start stop : Nat) (ts : List PlacedToken) : Prop where
  increasing : ts.Pairwise fun p q => p.index < q.index
  disjoint : ts.Pairwise fun p q => p.stop ≤ q.index
  within : ∀ p ∈ ts, start ≤ p.index ∧ 0 < p.width ∧ p.stop ≤ stop
  lexed : ∀ p ∈ ts, Lexed (p.slice script) (script.drop p.stop) p.token
  blank : ∀ i, start ≤ i → i < stop → (∀ p ∈ ts, ¬(p.index ≤ i ∧ i < p.stop)) → ∃ c, script[i]? = some c ∧ c.isBlank

theorem slice_cons {script front back : Text} {l : Lexeme} {ls : List Lexeme}
    (cut : script = front ++ laid back (l :: ls)) :
    PlacedToken.slice script ⟨l.token, front.length, l.piece.length⟩ = l.piece := by
  rw [PlacedToken.slice, cut, List.drop_left, laid, List.take_left]

/-- The spans of lexemes that stand behind `front`. -/
theorem spans_placed {script front back : Text} {ls : List Lexeme} (read : IsRead back ls)
    (cut : script = front ++ laid back ls) :
    Spans script front.length (front ++ laid [] ls).length (placed front.length ls) := by
  induction read generalizing front with
  | nil =>
    refine ⟨.nil, .nil, by simp [placed], by simp [placed], fun i behind before => ?_⟩
    simp only [laid, List.append_nil] at before
    omega
  | @cons l ls lexed blanks _ ih =>
    have whole : script = front ++ l.piece ++ l.gap ++ laid back ls := by rw [cut, laid]; simp
    have size : (front ++ l.piece ++ l.gap).length = front.length + l.piece.length + l.gap.length := by
      simp [Nat.add_assoc]
    have stop : (front ++ l.piece ++ l.gap ++ laid [] ls).length = (front ++ laid [] (l :: ls)).length := by simp [laid]
    have room : front.length + l.piece.length ≤ (front ++ laid [] (l :: ls)).length := by
      rw [← stop]
      simp only [List.length_append]
      omega
    have rest : script.drop (front.length + l.piece.length) = l.gap ++ laid back ls := by
      rw [cut, laid, List.drop_length_add_append, List.drop_left]
    have filled : 0 < l.piece.length := by
      obtain ⟨c, t, head, _⟩ := lexed.head
      simp [head]
    obtain ⟨increasing, disjoint, within, lexed', blank⟩ := ih whole
    rw [size] at increasing disjoint within lexed' blank
    rw [stop] at within blank
    refine ⟨?_, ?_, ?_, ?_, ?_⟩
    · refine List.pairwise_cons.mpr ⟨fun q member => ?_, increasing⟩
      have := (within q member).1
      dsimp only
      omega
    · refine List.pairwise_cons.mpr ⟨fun q member => ?_, disjoint⟩
      have := (within q member).1
      simp only [PlacedToken.stop]
      omega
    · intro p member
      rcases List.mem_cons.mp member with rfl | member
      · exact ⟨Nat.le_refl _, filled, room⟩
      · obtain ⟨behind, filled', before⟩ := within p member
        exact ⟨by omega, filled', before⟩
    · intro p member
      rcases List.mem_cons.mp member with rfl | member
      · simp only [PlacedToken.stop]
        rw [slice_cons cut, rest]
        exact lexed
      · exact lexed' p member
    -- A place behind `front` is in the span of the first lexeme, in the blanks behind it, or further on.
    · intro i behind before outside
      have past : front.length + l.piece.length ≤ i := by
        have := outside _ List.mem_cons_self
        simp only [PlacedToken.stop] at this
        omega
      by_cases inGap : i < front.length + l.piece.length + l.gap.length
      · obtain ⟨k, rfl⟩ := Nat.exists_eq_add_of_le past
        have short : k < l.gap.length := by omega
        refine ⟨l.gap[k], ?_, blanks _ (List.getElem_mem short)⟩
        rw [← List.getElem?_drop, rest, List.getElem?_append_left short, List.getElem?_eq_getElem short]
      · exact blank i (by omega) before fun p member => outside p (List.mem_cons_of_mem _ member)

theorem spans_behind {script first back : Text} {ls : List Lexeme} (blanks : ∀ c ∈ first, c.isBlank)
    (read : IsRead back ls) (cut : script = first ++ laid back ls) :
    Spans script 0 (first ++ laid [] ls).length (placed first.length ls) := by
  obtain ⟨increasing, disjoint, within, lexed, blank⟩ := spans_placed read cut
  refine ⟨increasing, disjoint, ?_, lexed, ?_⟩
  · intro p member
    exact ⟨Nat.zero_le _, (within p member).2⟩
  · intro i _ before outside
    by_cases inFirst : i < first.length
    · refine ⟨first[i], ?_, blanks _ (List.getElem_mem inFirst)⟩
      rw [cut, List.getElem?_append_left inFirst, List.getElem?_eq_getElem inFirst]
    · exact blank i (by omega) before outside

def faultOpenings : List Text := functionOpenings ++ [[.char '\''], [.char '"']]

theorem Malformed.opening {cause : SyntaxCause} {t : Text} (malformed : Malformed cause t) :
    ∃ opening ∈ faultOpenings, opening <+: t := by
  cases malformed with
  | function malformed =>
    cases malformed with
    | empty known => exact ⟨_, List.mem_append_left _ known, opening_prefix_functionText ..⟩
    | unclosed known => exact ⟨_, List.mem_append_left _ known, _, rfl⟩
  | @literal quote t mark =>
    refine ⟨[quote], ?_, t, rfl⟩
    rcases mark with rfl | rfl <;> decide

def faultNames : List Text := ["Empty function", "Unclosed function", "Unclosed literal"]

theorem Malformed.name {cause : SyntaxCause} {t : Text} (malformed : Malformed cause t) :
    ∃ name ∈ faultNames, name <+: cause.message := by
  cases malformed with
  | function malformed =>
    cases malformed with
    | empty => exact ⟨"Empty function", by simp [faultNames], List.prefix_rfl⟩
    | unclosed => exact ⟨"Unclosed function", by simp [faultNames], by decide +kernel⟩
  | @literal quote =>
    have begins : ("Unclosed literal" : Text) <+: "Unclosed literal, expected " := by decide +kernel
    exact ⟨"Unclosed literal", by simp [faultNames], begins.trans ⟨[quote], rfl⟩⟩

theorem spans_of_tokens {script : Text} {ts : List PlacedToken} (read : tokens script = .ok ts) :
    Spans script 0 script.length ts := by
  obtain ⟨first, ls, back, cut, blanks, isRead, ⟨rfl, done⟩ | ⟨_, failed, _⟩⟩ := tokensFrom_layout 0 script
  · have spans := spans_behind blanks isRead cut
    rw [← cut] at spans
    rw [Nat.zero_add] at done
    cases done.symm.trans read
    exact spans
  · cases failed.symm.trans read

/-- The tokens of a predicate are its text but for blanks, up to the first malformed function or literal. -/
theorem tokens_spans (script : Text) :
    (∀ ts, tokens script = .ok ts → Spans script 0 script.length ts) ∧
      (∀ fault, tokens script = .error fault →
        Malformed fault.cause (script.drop fault.index) ∧ (∃ opening ∈ faultOpenings, opening <+: script.drop fault.index) ∧
          (∃ name ∈ faultNames, name <+: fault.cause.message) ∧
          ∃ ts, tokens (script.take fault.index) = .ok ts ∧ Spans script 0 fault.index ts) ∧
      ∀ c index, tokens script ≠ .error ⟨.unexpectedCharacter c, index⟩ := by
  obtain ⟨first, ls, back, cut, blanks, read, outcome⟩ := tokensFrom_layout 0 script
  have spans := spans_behind blanks read cut
  rw [laid_append, ← List.append_assoc] at cut
  rcases outcome with ⟨rfl, done⟩ | ⟨fault, failed, place, malformed⟩
  · rw [List.append_nil] at cut
    rw [Nat.zero_add] at done
    rw [← cut] at spans
    refine ⟨?_, ?_, ?_⟩
    · intro ts read
      cases done.symm.trans read
      exact spans
    · intro fault failed
      cases done.symm.trans failed
    · intro c index failed
      cases done.symm.trans failed
  · have index : fault.index = (first ++ laid [] ls).length := by
      rw [cut, List.length_append] at place
      omega
    have here : script.drop fault.index = back := by rw [cut, index, List.drop_left]
    refine ⟨?_, ?_, ?_⟩
    · intro ts read
      cases failed.symm.trans read
    · intro other failed'
      cases failed.symm.trans failed'
      rw [here, cut, index, List.take_left, ← index, ← cut]
      rw [← index] at spans
      exact ⟨malformed, malformed.opening, malformed.name, _, tokens_front blanks read, spans⟩
    · intro c index failed'
      cases failed.symm.trans failed'
      cases malformed with
      | function malformed => cases malformed

/-- Operators of two words have blanks inside, and lexemes may touch. -/
theorem tokens_spans_touching :
    Spans "a starts\u2003with 'b'>=c" 0 20
      [⟨.word "a", 0, 1⟩, ⟨.operator .startsWithApart, 2, 11⟩, ⟨.quoted "b", 14, 3⟩, ⟨.operator .greaterOrEqual, 17, 2⟩,
        ⟨.word "c", 19, 1⟩] ∧
    Malformed (.unclosedLiteral (.char '\'')) "'c" ∧
    Spans "a >='b' 'c" 0 8 [⟨.word "a", 0, 1⟩, ⟨.operator .greaterOrEqual, 2, 2⟩, ⟨.quoted "b", 4, 3⟩] := by
  have length : ("a starts\u2003with 'b'>=c" : Text).length = 20 := by decide +kernel
  have rest : List.drop 8 ("a >='b' 'c" : Text) = "'c" := by decide +kernel
  have read : tokens (List.take 8 ("a >='b' 'c" : Text)) =
      .ok [⟨.word "a", 0, 1⟩, ⟨.operator .greaterOrEqual, 2, 2⟩, ⟨.quoted "b", 4, 3⟩] :=
    Fallible.ok_of_toOption (by decide +kernel)
  obtain ⟨malformed, _, _, ts, front, spans⟩ := (tokens_spans "a >='b' 'c").2.1 ⟨.unclosedLiteral (.char '\''), 8⟩
    (Fallible.error_of_fault? (by decide +kernel))
  obtain rfl := Except.ok.inj (front.symm.trans read)
  rw [rest] at malformed
  rw [← length]
  exact ⟨(tokens_spans _).1 _ (Fallible.ok_of_toOption (by decide +kernel)), malformed, spans⟩

end RouteScript.Script
