import RouteScript.Proofs.Script.Grammar
import RouteScript.Proofs.Script.Tiling
import RouteScript.Proofs.Script.TokenSpans

/-!
# Where faults are

The fault of a script points into it. Reading fails where a malformed function or literal begins. Every later fault is about
one token, whose text it names (`Blames`), and its index is the one where that token begins (`faults_point_into_script`).
Only a script with nothing in it has a fault that points nowhere.
-/

namespace RouteScript.Script

/-! ### Faults of tokens -/

/-- The fault is about the token: about a function that has no code, an operand that is no type, or a token that stands
where another one should. -/
inductive Blames : SyntaxCause → Token → Prop
  | unknownFunction (body : Text) : Blames (.unknownFunction (Text.strip body)) (.function body)
  | strayChain (body chain accessor : Text) : Blames (.strayChain (Text.strip body) chain accessor) (.function body)
  | invalidTypeName {token : Token} (operand : token.isOperand) : Blames (.invalidTypeName token.value) token
  | expectedOperand {token : Token} (noOperand : ¬token.isOperand) : Blames (.expectedOperand token.value) token
  | expectedLogical {token : Token} (noLogical : token.link? = none) : Blames (.expectedLogical token.value) token
  | danglingLogical (op : Logical) : Blames (.danglingLogical op.spelling) (.logical op)
  | missingRightOperand (op : Operator) : Blames (.missingRightOperand op.spelling) (.operator op)

def IsAbout (ts : List PlacedToken) (fault : SyntaxFault) : Prop :=
  ∃ t ∈ ts, t.index = fault.index ∧ Blames fault.cause t.token

theorem IsAbout.mono {ts us : List PlacedToken} {fault : SyntaxFault} (about : IsAbout ts fault) (included : ts ⊆ us) :
    IsAbout us fault := by
  obtain ⟨t, member, place, blamed⟩ := about
  exact ⟨t, included member, place, blamed⟩

/-! ### Grouping -/

theorem isAbout_stopped {ts : List PlacedToken} {t : PlacedToken} (member : t ∈ ts) {cause : SyntaxCause}
    (blamed : Blames cause t.token) : ∀ fault ∈ (Reading.stopped cause t.index).fault, IsAbout ts fault := by
  rintro fault ⟨⟩
  exact ⟨t, member, rfl, blamed⟩

theorem Reads.isAbout {turn : Turn} {ts : List PlacedToken} {reading : Reading} (reads : Reads turn ts reading) :
    ∀ fault ∈ reading.fault, IsAbout ts fault := by
  induction reads with
  | nothing => simp
  | noLeft link rest noOperand | noRight link after operand operator noOperand =>
    exact isAbout_stopped (by simp) (.expectedOperand (not_isOperand_of_operand? noOperand))
  | missingRight link operand operator => exact isAbout_stopped (by simp) (operator ▸ .missingRightOperand _)
  | compared link operand operator operand' _ later =>
    refine fun fault failed => (later fault failed).mono fun t member => ?_
    exact List.mem_cons_of_mem _ (List.mem_cons_of_mem _ (List.mem_cons_of_mem _ member))
  | alone link operand _ _ later | linked logical _ later =>
    exact fun fault failed => (later fault failed).mono (List.subset_cons_self _ _)
  | dangling logical => exact isAbout_stopped (by simp) (logical ▸ .danglingLogical _)
  | noLink rest other => exact isAbout_stopped (by simp) (.expectedLogical (Token.link?_eq_none other))

/-! ### Writing -/

theorem functionCode_blames {body : Text} {cause : SyntaxCause} (failed : functionCode body = .error cause) :
    Blames cause (.function body) := by
  unfold functionCode at failed
  dsimp only at failed
  split at failed
  · cases failed
    exact .unknownFunction body
  · split at failed
    · rename_i chain accessor _
      cases failed
      exact .strayChain body chain accessor
    · cases failed

def Operand.IsBlamed (o : Operand) (fault : SyntaxFault) : Prop := o.index = fault.index ∧ Blames fault.cause o.token

theorem Operand.code_blames {o : Operand} {fault : SyntaxFault} (failed : o.code = .error (.malformed fault)) :
    o.IsBlamed fault := by
  unfold Operand.code at failed
  split at failed
  · rename_i body function
    obtain ⟨cause, unwritten, same⟩ := Fallible.mapError_error failed
    cases same
    exact ⟨rfl, function ▸ functionCode_blames unwritten⟩
  · unfold numberCode at failed
    repeat' split at failed
    all_goals cases failed
  all_goals cases failed

theorem Operand.typeCode_blames {o : Operand} (operand : o.token.isOperand) {fault : SyntaxFault}
    (failed : o.typeCode = .error (.malformed fault)) : o.IsBlamed fault := by
  unfold Operand.typeCode at failed
  dsimp only at failed
  repeat' split at failed
  all_goals cases failed
  all_goals exact ⟨rfl, .invalidTypeName operand⟩

theorem Comparison.code_blames {c : Comparison} (operands : ∀ o ∈ c.operands, o.token.isOperand) {fault : SyntaxFault}
    (failed : c.code = .error (.malformed fault)) : ∃ o ∈ c.operands, o.IsBlamed fault := by
  have left : c.left ∈ c.operands := List.mem_cons_self
  unfold Comparison.code at failed
  split at failed
  · split at failed
    · cases failed
    · rcases Fallible.bind_error failed with failed | ⟨_, _, impossible⟩
      · exact ⟨c.left, left, Operand.code_blames failed⟩
      · cases impossible
  · rename_i op right both
    have right' : right ∈ c.operands := by simp [Comparison.operands, both]
    rcases Fallible.bind_error failed with failed | ⟨_, _, failed⟩
    · exact ⟨c.left, left, Operand.code_blames failed⟩
    dsimp only at failed
    split at failed
    · rcases Fallible.bind_error failed with failed | ⟨_, _, impossible⟩
      · exact ⟨right, right', Operand.typeCode_blames (operands right right') failed⟩
      · cases impossible
    · rcases Fallible.bind_error failed with failed | ⟨_, _, impossible⟩
      · exact ⟨right, right', Operand.code_blames failed⟩
      · cases impossible

/-- What is wrong with the tokens of a predicate is wrong with one of them. -/
theorem isAbout_of_predicateCode {script : Text} {ts : List PlacedToken} (read : tokens script = .ok ts) (filled : ts ≠ [])
    {fault : SyntaxFault} (failed : predicateCode script = .error (.malformed fault)) : IsAbout ts fault := by
  have about : ∀ fault ∈ (parse ts).fault, IsAbout ts fault := by
    obtain ⟨t, ts, rfl⟩ := List.exists_cons_of_ne_nil filled
    exact (parse_reads t ts).isAbout
  have start : (tokens script).mapError ScriptFault.malformed = pure ts := by
    rw [read]
    rfl
  rw [predicateCode, start, pure_bind] at failed
  rcases Fallible.bind_error failed with unwritten | ⟨pieces, _, failed⟩
  · obtain ⟨⟨link, c⟩, member, unwritten⟩ := Fallible.mem_of_mapM_error unwritten
    rcases Fallible.bind_error unwritten with unwritten | ⟨_, _, impossible⟩
    · have operands := parse_operands ts _ member
      obtain ⟨o, present, place, blamed⟩ := Comparison.code_blames (fun o present => by
        obtain ⟨t, _, operand⟩ := operands o present
        rw [(operand?_eq_some operand).1]
        exact isOperand_of_operand? operand) unwritten
      obtain ⟨t, found, operand⟩ := operands o present
      rw [operand?_of_isOperand (isOperand_of_operand? operand)] at operand
      cases operand
      exact ⟨t, found, place, blamed⟩
    · cases impossible
  · split at failed
    · rename_i other stopped
      cases failed
      exact about fault stopped
    · cases failed

/-! ### Tokens and functions in their places -/

/-- A token of the predicate begins at the fault, and the fault is about it. -/
def IsAboutToken (script : Text) (fault : SyntaxFault) : Prop :=
  ∃ ts t, tokens script = .ok ts ∧ t ∈ ts ∧ t.index = fault.index ∧ Lexed (t.slice script) (script.drop t.stop) t.token ∧
    Blames fault.cause t.token

def IsAboutFunction (script : Text) (fault : SyntaxFault) : Prop :=
  ∃ ss s body, segments script = .ok ss ∧ s ∈ ss ∧ s.index = fault.index ∧ s.segment = .function body ∧
    s.segment.Written (s.slice script) ∧ Blames fault.cause (.function body)

theorem malformed_of_tokens {script : Text} {fault : SyntaxFault} (failed : tokens script = .error fault) :
    Malformed fault.cause (script.drop fault.index) := by
  obtain ⟨first, ls, back, cut, _, _, ⟨_, done⟩ | ⟨fault', failed', place, malformed⟩⟩ := tokensFrom_layout 0 script
  · cases done.symm.trans failed
  · cases failed'.symm.trans failed
    rw [laid_append, ← List.append_assoc] at cut
    have index : fault.index = (first ++ laid [] ls).length := by
      rw [cut, List.length_append] at place
      omega
    rw [cut, index, List.drop_left]
    exact malformed

theorem tokens_eq_nil_iff {script : Text} : tokens script = .ok [] ↔ ∀ c ∈ script, c.isBlank := by
  constructor
  · intro none
    obtain ⟨first, ls, back, rfl, blanks, _, ⟨rfl, done⟩ | ⟨_, failed, _⟩⟩ := tokensFrom_layout 0 script
    · have empty := Except.ok.inj (done.symm.trans none)
      cases ls with
      | nil =>
        rw [laid, List.append_nil]
        exact blanks
      | cons l ls => cases empty
    · cases failed.symm.trans none
  · intro blanks
    have read := tokensFrom_blanks 0 blanks []
    rwa [List.append_nil, tokensFrom] at read

theorem segments_eq_nil_iff {script : Text} : segments script = .ok [] ↔ script = [] := by
  constructor
  · intro none
    cases script with
    | nil => rfl
    | cons c t =>
      unfold segments segmentsFrom at none
      split at none
      · obtain ⟨_, _, none⟩ := Fallible.bind_ok none
        obtain ⟨_, _, none⟩ := Fallible.bind_ok none
        cases none
      · obtain ⟨_, _, none⟩ := Fallible.bind_ok none
        cases none
  · rintro rfl
    rw [segments, segmentsFrom]

theorem index_lt_of_begins {script front : Text} {index : Nat} (filled : front ≠ []) (begins : front <+: script.drop index) :
    index < script.length := by
  by_contra beyond
  rw [List.drop_eq_nil_of_le (by omega), List.prefix_nil] at begins
  exact filled begins

theorem opening_of_isAboutFunction {script : Text} {fault : SyntaxFault} (about : IsAboutFunction script fault) :
    ∃ opening ∈ functionOpenings, opening <+: script.drop fault.index := by
  obtain ⟨ss, s, body, _, _, place, function, written, _⟩ := about
  rw [function] at written
  generalize whole : s.slice script = piece at written
  cases written with
  | @function opening inner known =>
    refine ⟨opening, known, ?_⟩
    have begins : opening <+: functionText opening inner := by
      simpa using opening_prefix_functionText opening inner []
    rw [← whole, PlacedSegment.slice, place] at begins
    exact begins.trans (List.take_prefix _ _)

theorem opening_of_malformedFunction {cause : SyntaxCause} {t : Text} (malformed : MalformedFunction cause t) :
    ∃ opening ∈ functionOpenings, opening <+: t := by
  cases malformed with
  | @empty opening inner rest known => exact ⟨opening, known, opening_prefix_functionText opening inner rest⟩
  | @unclosed opening rest known => exact ⟨opening, known, rest, rfl⟩

theorem valueCode_fault {script : Text} {fault : SyntaxFault} (failed : valueCode script = .error fault) :
    script = [] ∧ fault.index = 0 ∨ IsAboutFunction script fault ∨
      segments script = .error fault ∧ MalformedFunction fault.cause (script.drop fault.index) := by
  have tiled := segmented script
  rcases Fallible.bind_error failed with failed | ⟨_, _, impossible⟩
  · rcases Fallible.bind_error failed with unread | ⟨ss, read, failed⟩
    · rw [unread] at tiled
      exact Or.inr (Or.inr ⟨unread, tiled.1.2⟩)
    · rw [read] at tiled
      by_cases none : ss = []
      · rw [none] at read failed
        cases failed
        exact Or.inl ⟨segments_eq_nil_iff.mp read, rfl⟩
      · rw [if_neg none] at failed
        rcases Fallible.bind_error failed with failed | ⟨_, _, impossible⟩
        · obtain ⟨s, member, failed⟩ := Fallible.mem_of_mapM_error failed
          unfold PlacedSegment.part at failed
          split at failed
          · cases failed
          · rename_i body function
            obtain ⟨cause, failed, rfl⟩ := Fallible.mapError_error failed
            cases unwritten : functionCode body with
            | ok code =>
              rw [unwritten] at failed
              cases failed
            | error other =>
              rw [unwritten] at failed
              cases failed
              have written := tiled.2.1 s member
              exact Or.inr (Or.inl ⟨ss, s, body, read, member, rfl, function, written, functionCode_blames unwritten⟩)
        · cases impossible
  · cases impossible

theorem predicateCode_fault {script : Text} {fault : SyntaxFault}
    (failed : predicateCode script = .error (.malformed fault)) :
    (∀ c ∈ script, c.isBlank) ∧ fault.index = 0 ∨ IsAboutToken script fault ∨
      tokens script = .error fault ∧ Malformed fault.cause (script.drop fault.index) := by
  cases read : tokens script with
  | error other =>
    rw [predicateCode, read] at failed
    cases failed
    exact Or.inr (Or.inr ⟨rfl, malformed_of_tokens read⟩)
  | ok ts =>
    by_cases none : ts = []
    · rw [none] at read
      rw [predicateCode, read] at failed
      cases failed
      exact Or.inl ⟨tokens_eq_nil_iff.mp read, rfl⟩
    · obtain ⟨t, member, place, blamed⟩ := isAbout_of_predicateCode read none failed
      exact Or.inr (Or.inl ⟨ts, t, read, member, place, (spans_of_tokens read).lexed t member, blamed⟩)

/-- Unless the script is empty, a fault points to the function, the literal or the token in it that it is about. -/
theorem faults_point_into_script (script : Text) :
    (∀ fault, valueCode script = .error fault →
      script = [] ∧ fault.index = 0 ∨
        fault.index < script.length ∧ (∃ opening ∈ functionOpenings, opening <+: script.drop fault.index) ∧
          (IsAboutFunction script fault ∨
            segments script = .error fault ∧ MalformedFunction fault.cause (script.drop fault.index))) ∧
      ∀ fault, predicateCode script = .error (.malformed fault) →
        (∀ c ∈ script, c.isBlank) ∧ fault.index = 0 ∨
          fault.index < script.length ∧
            (IsAboutToken script fault ∨
              tokens script = .error fault ∧ Malformed fault.cause (script.drop fault.index)) := by
  constructor
  · intro fault failed
    refine (valueCode_fault failed).imp_right fun points => ?_
    have opened : ∃ opening ∈ functionOpenings, opening <+: script.drop fault.index := by
      rcases points with about | ⟨_, malformed⟩
      · exact opening_of_isAboutFunction about
      · exact opening_of_malformedFunction malformed
    obtain ⟨opening, known, begins⟩ := opened
    exact ⟨index_lt_of_begins (openings_off opening known).1 begins, ⟨opening, known, begins⟩, points⟩
  · intro fault failed
    refine (predicateCode_fault failed).imp_right fun points => ⟨?_, points⟩
    rcases points with ⟨ts, t, read, member, place, _, _⟩ | ⟨_, malformed⟩
    · obtain ⟨_, filled, within⟩ := (spans_of_tokens read).within t member
      rw [← place]
      unfold PlacedToken.stop at within
      omega
    · obtain ⟨opening, known, begins⟩ := malformed.opening
      have filled : ∀ opening ∈ faultOpenings, opening ≠ [] := by decide
      exact index_lt_of_begins (filled opening known) begins

/-- A function without code in a template, an operand that is no type, and a literal that ends the reading. -/
theorem faults_point_into_script_kinds :
    valueCode "a$\x7bb\x7d" = .error ⟨.unknownFunction "b", 1⟩ ∧
      IsAboutFunction "a$\x7bb\x7d" ⟨.unknownFunction "b", 1⟩ ∧
      predicateCode "a is 1" = .error (.malformed ⟨.invalidTypeName "1", 5⟩) ∧
      IsAboutToken "a is 1" ⟨.invalidTypeName "1", 5⟩ ∧
      predicateCode "a 'b" = .error (.malformed ⟨.unclosedLiteral (.char '\''), 2⟩) ∧
      Malformed (.unclosedLiteral (.char '\'')) (List.drop 2 "a 'b") := by
  have value : valueCode "a$\x7bb\x7d" = .error ⟨.unknownFunction "b", 1⟩ := Fallible.error_of_fault? (by decide +kernel)
  have segmented : segments "a$\x7bb\x7d" = .ok [⟨.text "a", 0, 1⟩, ⟨.function "b", 1, 4⟩] :=
    Fallible.ok_of_toOption (by decide +kernel)
  have type : predicateCode "a is 1" = .error (.malformed ⟨.invalidTypeName "1", 5⟩) :=
    Fallible.error_of_fault? (by decide +kernel)
  have typed : tokens "a is 1" = .ok [⟨.word "a", 0, 1⟩, ⟨.operator .isType, 2, 2⟩, ⟨.number "1", 5, 1⟩] :=
    Fallible.ok_of_toOption (by decide +kernel)
  have literal : predicateCode "a 'b" = .error (.malformed ⟨.unclosedLiteral (.char '\''), 2⟩) :=
    Fallible.error_of_fault? (by decide +kernel)
  have unread : tokens "a 'b" = .error ⟨.unclosedLiteral (.char '\''), 2⟩ := Fallible.error_of_fault? (by decide +kernel)
  refine ⟨value, ?_, type, ?_, literal, ?_⟩
  · obtain ⟨empty, _⟩ | ⟨_, _, about | ⟨failed, _⟩⟩ := (faults_point_into_script "a$\x7bb\x7d").1 _ value
    · cases empty
    · exact about
    · cases segmented.symm.trans failed
  · obtain ⟨_, first⟩ | ⟨_, about | ⟨failed, _⟩⟩ := (faults_point_into_script "a is 1").2 _ type
    · cases first
    · exact about
    · cases typed.symm.trans failed
  · obtain ⟨_, first⟩ | ⟨_, ⟨ts, _, read, _⟩ | ⟨_, malformed⟩⟩ := (faults_point_into_script "a 'b").2 _ literal
    · cases first
    · cases unread.symm.trans read
    · exact malformed

end RouteScript.Script
