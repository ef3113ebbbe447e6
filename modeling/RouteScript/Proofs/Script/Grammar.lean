import Mathlib.Data.List.Forall2
import RouteScript.Proofs.Script.CodeStructure
import RouteScript.Proofs.Script.Numeral

/-!
# The grammar of predicates

A predicate is a row of clauses with logical operators between them, and a clause is an operand or two
operands with an operator between them. `Sentence` is a derivation in this grammar, and its tokens are
what it derives. A token list has code exactly when a sentence derives it whose operands all have code,
there is one such sentence at most, and the code is read off it (`predicateCode_iff_sentence`).
-/

namespace RouteScript.Script

open Java

/-! ### Sentences -/

/-- `clause := operand | operand OPERATOR operand`. -/
inductive Clause where
  | alone (operand : { t : Token // t.isOperand })
  | compared (left : { t : Token // t.isOperand }) (op : Operator) (right : { t : Token // t.isOperand })

/-- `sentence := clause (LOGICAL clause)*`. -/
structure Sentence where
  first : Clause
  rest : List (Logical × Clause)

def Clause.tokens : Clause → List Token
  | .alone x => [x.1]
  | .compared l op r => [l.1, .operator op, r.1]

def Sentence.restTokens (rest : List (Logical × Clause)) : List Token :=
  rest.flatMap fun x => .logical x.1 :: x.2.tokens

def Sentence.tokens (s : Sentence) : List Token := s.first.tokens ++ restTokens s.rest

/-! ### Accepted operands and their code -/

/-- Names with points between them, which a line feed may follow. -/
def IsTypeName (t : Text) : Prop :=
  ∃ names : List Text, names ≠ [] ∧ (∀ name ∈ names, isName name) ∧
    (t = Text.joinWith "." names ∨ t = Text.joinWith "." names ++ "\n")

def IsOversized (numeral : Text) : Prop := .char '.' ∉ numeral ∧ maxIntegerDigits < digitCount numeral

/-- The operand has code: a function has to be known, and an integer must not be too long. -/
def Token.HasCode : Token → Prop
  | .function body => ∃ code, functionCode body = .ok code
  | .number numeral => ¬IsOversized numeral
  | _ => True

def Token.NamesType : Token → Prop
  | .word t | .quoted t => IsTypeName t
  | _ => False

def Token.code : Token → Text
  | .function body => (functionCode body).toOption.getD []
  | .number numeral => if .char '.' ∉ numeral ∧ maxInt < magnitude numeral then numeral ++ "L" else numeral
  | .boolean value => (Token.boolean value).value
  | .null => "null"
  | t => stringLiteral t.value

namespace Clause

/-- Every operand has code. On the right of an operator that takes a type it names one instead. -/
def IsAccepted : Clause → Prop
  | .alone x => x.1.HasCode
  | .compared l op r => l.1.HasCode ∧ if op.takesType then r.1.NamesType else r.1.HasCode

/-- The code of a clause. An operand alone is converted to a truth value unless it is one. -/
def code : Clause → Text
  | .alone x =>
    match x.1 with
    | .boolean _ => x.1.value
    | t => "toBoolean(exchange, " ++ t.code ++ ")"
  | .compared l op r =>
    let right := if op.takesType then r.1.value ++ ".class" else r.1.code
    (if op.isNegated then "!" else "") ++ op.helper ++ "(exchange, " ++ l.1.code ++ ", " ++ right ++ ")"

end Clause

namespace Sentence

def IsAccepted (s : Sentence) : Prop := s.first.IsAccepted ∧ ∀ x ∈ s.rest, x.2.IsAccepted

def code (s : Sentence) : Text :=
  Text.joinWith " " (s.first.code :: s.rest.flatMap fun x => [x.1.spelling, x.2.code])

end Sentence

/-! ### Reading a sentence -/

inductive Comparison.ReadFrom : Comparison → Clause → Prop
  | alone (left : Operand) (x : { t : Token // t.isOperand }) (same : left.token = x.1) :
      ReadFrom ⟨left, none⟩ (.alone x)
  | compared (left right : Operand) (op : Operator) (l r : { t : Token // t.isOperand })
      (same : left.token = l.1) (same' : right.token = r.1) :
      ReadFrom ⟨left, some (op, right)⟩ (.compared l op r)

theorem Comparison.ReadFrom.unique {c : Comparison} {x y : Clause} (first : c.ReadFrom x)
    (second : c.ReadFrom y) : x = y := by
  cases first with
  | alone left x same =>
    cases second with
    | alone _ y same' => rw [Subtype.ext (same.symm.trans same')]
  | compared left right op l r same same' =>
    cases second with
    | compared _ _ _ l' r' also also' =>
      rw [Subtype.ext (same.symm.trans also), Subtype.ext (same'.symm.trans also')]

theorem reads_clause (link : Option Logical) (x : Clause) (front back : List PlacedToken)
    (derived : front.map (·.token) = x.tokens) (ended : BeginsNoOperator back) :
    ∃ c, c.ReadFrom x ∧ ∀ reading, Reads .behind back reading →
      Reads (.comparison link) (front ++ back) (reading.push link c) := by
  have operand (t : PlacedToken) (x : { t : Token // t.isOperand }) (same : t.token = x.1) :
      t.operand? = some ⟨x.1, t.index⟩ := by
    rw [operand?_of_isOperand (by rw [same]; exact x.2), same]
  cases x with
  | alone x =>
    obtain ⟨l, rfl, token⟩ := List.map_eq_singleton_iff.mp derived
    exact ⟨_, .alone _ x rfl, fun _ later => .alone link (operand l x token) ended later⟩
  | compared l op r =>
    obtain ⟨a, _, rfl, first, derived⟩ := List.map_eq_cons_iff.mp derived
    obtain ⟨o, _, rfl, second, derived⟩ := List.map_eq_cons_iff.mp derived
    obtain ⟨b, rfl, third⟩ := List.map_eq_singleton_iff.mp derived
    exact ⟨_, .compared _ _ op l r rfl rfl,
      fun _ later => .compared link (operand a l first) second (operand b r third) later⟩

def AreReadFrom (comparisons : List (Option Logical × Comparison)) (clauses : List (Option Logical × Clause)) :
    Prop :=
  List.Forall₂ (fun c x => c.1 = x.1 ∧ c.2.ReadFrom x.2) comparisons clauses

def linkedClauses (link : Option Logical) (s : Sentence) : List (Option Logical × Clause) :=
  (link, s.first) :: s.rest.map fun x => (some x.1, x.2)

theorem reads_sentence (link : Option Logical) (s : Sentence) {ts : List PlacedToken}
    (derived : ts.map (·.token) = s.tokens) :
    ∃ comparisons, Reads (.comparison link) ts ⟨comparisons, none⟩ ∧ AreReadFrom comparisons (linkedClauses link s) := by
  obtain ⟨first, rest⟩ := s
  induction rest generalizing link first ts with
  | nil =>
    obtain ⟨c, source, read⟩ := reads_clause link first ts []
      (by simpa [Sentence.tokens, Sentence.restTokens] using derived) beginsNoOperator_nil
    rw [List.append_nil] at read
    exact ⟨_, read _ .nothing, .cons ⟨rfl, source⟩ .nil⟩
  | cons x rest ih =>
    obtain ⟨op, next⟩ := x
    -- The tokens are those of the first clause, the logical operator and those of a shorter sentence.
    obtain ⟨front, back, rfl, own, others⟩ := List.map_eq_append_iff.mp derived
    obtain ⟨t, more, rfl, logical, others⟩ := List.map_eq_cons_iff.mp others
    change t.token = .logical op at logical
    obtain ⟨c, source, read⟩ := reads_clause link first front (t :: more) own
      (beginsNoOperator_cons.mpr (by simp [logical]))
    obtain ⟨comparisons, later, sources⟩ := ih (some op) next others
    cases more with
    | nil => cases later
    | cons n more => exact ⟨_, read _ (.linked logical later), .cons ⟨rfl, source⟩ sources⟩

/-- The comparisons of a reading were read from clauses of the tokens, and a reading without a fault is of
derived tokens. -/
structure Reading.Of (r : Reading) (ts : List Token) (derived : Prop) : Prop where
  clauses : ∃ clauses, AreReadFrom r.comparisons clauses ∧ ∀ x ∈ clauses, ∀ t ∈ x.2.tokens, t ∈ ts
  sound : r.fault = none → derived

theorem Reading.of_stopped (cause : SyntaxCause) (index : Nat) (ts : List Token) (derived : Prop) :
    (Reading.stopped cause index).Of ts derived :=
  ⟨⟨[], .nil, by simp⟩, fun sound => nomatch sound⟩

theorem Reading.of_nothing {derived : Prop} (ts : List Token) (holds : derived) :
    Reading.Of ⟨[], none⟩ ts derived := ⟨⟨[], .nil, by simp⟩, fun _ => holds⟩

theorem Reading.Of.push {r : Reading} {ts : List Token} {derived derived' : Prop} (rest : r.Of ts derived)
    (link : Option Logical) {c : Comparison} {x : Clause} (source : c.ReadFrom x) (longer : derived → derived')
    {us : List Token} (included : ∀ t ∈ x.tokens ++ ts, t ∈ us) : (r.push link c).Of us derived' := by
  obtain ⟨clauses, read, among⟩ := rest.clauses
  refine ⟨⟨(link, x) :: clauses, .cons ⟨rfl, source⟩ read, ?_⟩, fun sound => longer (rest.sound sound)⟩
  intro y member t present
  rcases List.mem_cons.mp member with rfl | member
  · exact included t (List.mem_append_left _ present)
  · exact included t (List.mem_append_right _ (among y member t present))

def Turn.Derives : Turn → List Token → Prop
  | .comparison _, ts => ∃ s : Sentence, s.tokens = ts
  | .behind, ts => ∃ rest, Sentence.restTokens rest = ts

theorem Reads.derives {turn : Turn} {ts : List PlacedToken} {reading : Reading} (reads : Reads turn ts reading) :
    reading.Of (ts.map (·.token)) (turn.Derives (ts.map (·.token))) := by
  induction reads with
  | nothing => exact Reading.of_nothing [] ⟨[], rfl⟩
  | @compared link l o r left right op after reading operand operator operand' _ later =>
    let x : { t : Token // t.isOperand } := ⟨l.token, isOperand_of_operand? operand⟩
    let y : { t : Token // t.isOperand } := ⟨r.token, isOperand_of_operand? operand'⟩
    refine later.push link (.compared left right op x y (operand?_eq_some operand).1 (operand?_eq_some operand').1) ?_ ?_
    · rintro ⟨rest, derived⟩
      exact ⟨⟨.compared x op y, rest⟩, by simp [Sentence.tokens, Clause.tokens, derived, operator, x, y]⟩
    · simp only [Clause.tokens, List.map_cons, operator]
      exact fun t member => member
  | @alone link l left rest reading operand _ _ later =>
    let x : { t : Token // t.isOperand } := ⟨l.token, isOperand_of_operand? operand⟩
    refine later.push link (.alone left x (operand?_eq_some operand).1) ?_ fun t member => member
    rintro ⟨rest, derived⟩
    exact ⟨⟨.alone x, rest⟩, by simp [Sentence.tokens, Clause.tokens, derived, x]⟩
  | @linked t next op more reading logical _ later =>
    obtain ⟨⟨clauses, read, among⟩, sound⟩ := later
    refine ⟨⟨clauses, read, fun x member t present => List.mem_cons_of_mem _ (among x member t present)⟩, ?_⟩
    intro none
    obtain ⟨s, derived⟩ := sound none
    refine ⟨(op, s.first) :: s.rest, ?_⟩
    rw [List.map_cons, logical, ← derived]
    rfl
  | _ => exact Reading.of_stopped _ _ _ _

theorem parse_of (ts : List PlacedToken) :
    (parse ts).Of (ts.map (·.token)) (∃ s : Sentence, s.tokens = ts.map (·.token)) := by
  cases ts with
  | nil => exact Reading.of_stopped _ _ _ _
  | cons t ts => exact (parse_reads t ts).derives

theorem parse_sentence {s : Sentence} {ts : List PlacedToken} (derived : s.tokens = ts.map (·.token)) :
    (parse ts).fault = none ∧ AreReadFrom (parse ts).comparisons (linkedClauses none s) := by
  cases ts with
  | nil =>
    obtain ⟨first, rest⟩ := s
    cases first <;> cases derived
  | cons t ts =>
    obtain ⟨comparisons, reads, sources⟩ := reads_sentence none s derived.symm
    rw [reads.parse_eq]
    exact ⟨rfl, sources⟩

/-- No two sentences derive the same tokens. -/
theorem sentence_unique {s s' : Sentence} (same : s.tokens = s'.tokens) : s = s' := by
  -- Both are what the comparisons of one reading were read from.
  let ts : List PlacedToken := s.tokens.map (⟨·, 0, 0⟩)
  have derived : s.tokens = ts.map (·.token) := by simp [ts, Function.comp_def]
  have first := (parse_sentence derived).2
  have second := (parse_sentence (same.symm.trans derived)).2
  have clauses : linkedClauses none s = linkedClauses none s' := by
    refine List.right_unique_forall₂' ?_ first second
    rintro c x y ⟨link, source⟩ ⟨link', source'⟩
    exact Prod.ext (link.symm.trans link') (source.unique source')
  obtain ⟨a, rest⟩ := s
  obtain ⟨b, rest'⟩ := s'
  obtain ⟨head, tail⟩ := List.cons.inj clauses
  have injective : Function.Injective fun x : Logical × Clause => (some x.1, x.2) := by
    rintro ⟨op, x⟩ ⟨op', x'⟩ equal
    cases equal
    rfl
  have firsts : a = b := (Prod.mk.inj head).2
  have rests : rest = rest' := List.map_injective_iff.mpr injective tail
  rw [firsts, rests]

/-! ### The code of a sentence -/

theorem isDottedName_iff {t : Text} :
    isDottedName t ↔ ∃ names : List Text, names ≠ [] ∧ (∀ name ∈ names, isName name) ∧ t = Text.joinWith "." names := by
  constructor
  · intro accepted
    exact ⟨_, Text.parts_ne_nil _ t, List.all_eq_true.mp accepted, (Text.joinWith_parts _ t).symm⟩
  · rintro ⟨names, filled, named, rfl⟩
    have cut : Text.parts (.char '.') (Text.joinWith "." names) = names :=
      Text.parts_joinWith filled fun name member => not_mem_of_isName (by decide) (named name member)
    rw [isDottedName, cut]
    exact List.all_eq_true.mpr named

theorem isTypeOperand_iff {t : Text} : isTypeOperand t ↔ IsTypeName t := by
  simp only [isTypeOperand, Bool.or_eq_true, Bool.and_eq_true, decide_eq_true_eq]
  constructor
  · rintro (name | ⟨ended, name⟩)
    · obtain ⟨names, filled, named, rfl⟩ := isDottedName_iff.mp name
      exact ⟨names, filled, named, Or.inl rfl⟩
    · obtain ⟨names, filled, named, front⟩ := isDottedName_iff.mp name
      obtain ⟨before, rfl⟩ := List.getLast?_eq_some_iff.mp ended
      rw [List.dropLast_concat] at front
      exact ⟨names, filled, named, Or.inr (by rw [front]; rfl)⟩
  · rintro ⟨names, filled, named, rfl | rfl⟩
    · exact Or.inl (isDottedName_iff.mpr ⟨names, filled, named, rfl⟩)
    · refine Or.inr ⟨by simp [Text.ofString], ?_⟩
      have front : (Text.joinWith "." names ++ ("\n" : Text)).dropLast = Text.joinWith "." names := List.dropLast_concat
      rw [front]
      exact isDottedName_iff.mpr ⟨names, filled, named, rfl⟩

def IsReported (ts : List Token) (fault : ScriptFault) : Prop :=
  (∃ f, fault = .malformed f) ∨
    ∃ numeral, .number numeral ∈ ts ∧ IsOversized numeral ∧ fault = .oversizedInteger (digitCount numeral)

theorem IsReported.mono {ts us : List Token} {fault : ScriptFault} (reported : IsReported ts fault)
    (included : ∀ t ∈ ts, t ∈ us) : IsReported us fault := by
  rcases reported with syntaxFault | ⟨numeral, member, oversized, same⟩
  · exact Or.inl syntaxFault
  · exact Or.inr ⟨numeral, included _ member, oversized, same⟩

/-- The computation gives the value when the condition holds and reports a fault when it does not. -/
def Decides {α : Type} (accepted : Prop) (ts : List Token) (result : Except ScriptFault α) (value : α) : Prop :=
  (accepted ∧ result = .ok value) ∨ (¬accepted ∧ ∃ fault, result = .error fault ∧ IsReported ts fault)

theorem numberCode_decides {numeral : Text} (shape : IsNumeral numeral) :
    Decides (Token.number numeral).HasCode [.number numeral] (numberCode numeral) (Token.number numeral).code := by
  unfold numberCode
  split
  · rename_i point
    have point : .char '.' ∈ numeral := by simpa using point
    exact Or.inl ⟨fun oversized => oversized.1 point, by simp [Token.code, point]⟩
  · rename_i integral
    have integral : .char '.' ∉ numeral := by simpa using integral
    rw [unsigned_length shape integral]
    split
    · rename_i long
      refine Or.inr ⟨fun short => short ⟨integral, long⟩, _, rfl, ?_⟩
      exact Or.inr ⟨numeral, List.mem_singleton.mpr rfl, ⟨integral, long⟩, rfl⟩
    · rename_i short
      refine Or.inl ⟨fun oversized => short oversized.2, ?_⟩
      simp only [Token.code, integral, not_false_eq_true, true_and]
      split <;> rfl

theorem Operand.code_decides {o : Operand} (numerals : ∀ numeral, o.token = .number numeral → IsNumeral numeral) :
    Decides o.token.HasCode [o.token] o.code o.token.code := by
  unfold Operand.code
  split
  · rename_i body function
    rw [function]
    cases known : functionCode body with
    | ok code => exact Or.inl ⟨⟨code, known⟩, by simp [Token.code, known, Except.mapError, Except.toOption]⟩
    | error cause =>
      refine Or.inr ⟨?_, _, rfl, Or.inl ⟨_, rfl⟩⟩
      rintro ⟨code, accepted⟩
      cases known.symm.trans accepted
  · rename_i numeral number
    rw [number]
    exact numberCode_decides (numerals numeral number)
  · rename_i value boolean
    rw [boolean]
    exact Or.inl ⟨trivial, rfl⟩
  · rename_i null
    rw [null]
    exact Or.inl ⟨trivial, rfl⟩
  · rename_i token noFunction noNumber noBoolean noNull
    refine Or.inl ?_
    cases kind : o.token with
    | function body => exact absurd kind (noFunction body)
    | number numeral => exact absurd kind (noNumber numeral)
    | boolean value => exact absurd kind (noBoolean value)
    | null => exact absurd kind noNull
    | _ => exact ⟨trivial, rfl⟩

theorem Operand.typeCode_decides (o : Operand) :
    Decides o.token.NamesType [o.token] o.typeCode (o.token.value ++ ".class") := by
  have named : ∀ name : Text, Decides (IsTypeName name) [o.token]
      (if isTypeOperand name then .ok (name ++ ".class")
        else .error (.malformed ⟨.invalidTypeName o.token.value, o.index⟩)) (name ++ ".class") := by
    intro name
    split
    · rename_i accepted
      exact Or.inl ⟨isTypeOperand_iff.mp accepted, rfl⟩
    · rename_i refused
      exact Or.inr ⟨fun accepted => refused (isTypeOperand_iff.mpr accepted), _, rfl, Or.inl ⟨_, rfl⟩⟩
  unfold Operand.typeCode
  cases kind : o.token with
  | word name =>
    rw [kind] at named
    exact named name
  | quoted name =>
    rw [kind] at named
    exact named name
  | _ => exact Or.inr ⟨id, _, rfl, Or.inl ⟨_, rfl⟩⟩

section Decides

variable {α β γ : Type} {accepted accepted' : Prop} {ts us : List Token} {result : Except ScriptFault α}
  {result' : Except ScriptFault β} {a : α} {b : β}

theorem Decides.map (decided : Decides accepted ts result a) (f : α → β) :
    Decides accepted ts (do return f (← result)) (f a) := by
  rcases decided with ⟨holds, rfl⟩ | ⟨fails, fault, rfl, reported⟩
  · exact Or.inl ⟨holds, rfl⟩
  · exact Or.inr ⟨fails, fault, rfl, reported⟩

theorem Decides.both (first : Decides accepted ts result a) (second : Decides accepted' us result' b)
    (f : α → β → γ) :
    Decides (accepted ∧ accepted') (ts ++ us) (do return f (← result) (← result')) (f a b) := by
  rcases first with ⟨holds, rfl⟩ | ⟨fails, fault, rfl, reported⟩
  · rcases second with ⟨holds', rfl⟩ | ⟨fails', fault, rfl, reported⟩
    · exact Or.inl ⟨⟨holds, holds'⟩, rfl⟩
    · exact Or.inr ⟨fun both => fails' both.2, fault, rfl, reported.mono fun t => List.mem_append_right ts⟩
  · exact Or.inr ⟨fun both => fails both.1, fault, rfl, reported.mono fun t => List.mem_append_left us⟩

theorem Decides.mono (decided : Decides accepted ts result a) (same : accepted ↔ accepted')
    (included : ∀ t ∈ ts, t ∈ us) : Decides accepted' us result a := by
  rcases decided with ⟨holds, succeeded⟩ | ⟨fails, fault, failed, reported⟩
  · exact Or.inl ⟨same.mp holds, succeeded⟩
  · exact Or.inr ⟨fun holds => fails (same.mpr holds), fault, failed, reported.mono included⟩

theorem Decides.ok_iff (decided : Decides accepted ts result a) {c : α} : result = .ok c ↔ accepted ∧ a = c := by
  rcases decided with ⟨holds, rfl⟩ | ⟨fails, fault, rfl, _⟩
  · exact ⟨fun same => ⟨holds, Except.ok.inj same⟩, fun both => congrArg _ both.2⟩
  · exact ⟨(nomatch ·), fun both => absurd both.1 fails⟩

theorem Decides.reported (decided : Decides accepted ts result a) {fault : ScriptFault}
    (failed : result = .error fault) : IsReported ts fault := by
  rcases decided with ⟨_, rfl⟩ | ⟨_, found, rfl, reported⟩
  · cases failed
  · cases failed
    exact reported

end Decides

theorem Clause.code_alone {x : { t : Token // t.isOperand }} (noBoolean : ∀ value, x.1 ≠ .boolean value) :
    (Clause.alone x).code = apply "toBoolean" ["exchange", x.1.code] := by
  rw [Clause.code]
  split
  · rename_i value boolean
    exact absurd boolean (noBoolean value)
  · simp [apply, Text.joinWith, Text.ofString]

theorem Clause.code_compared (l : { t : Token // t.isOperand }) (op : Operator) (r : { t : Token // t.isOperand }) :
    (Clause.compared l op r).code =
      let call := apply op.helper ["exchange", l.1.code, if op.takesType then r.1.value ++ ".class" else r.1.code]
      if op.isNegated then .char '!' :: call else call := by
  simp only [Clause.code, apply, Text.joinWith]
  split <;> simp [Text.ofString]

theorem Comparison.ReadFrom.code_decides {c : Comparison} {x : Clause} (source : c.ReadFrom x)
    (numerals : ∀ numeral, .number numeral ∈ x.tokens → IsNumeral numeral) :
    Decides x.IsAccepted x.tokens c.code x.code := by
  cases source with
  | alone left x same =>
    have leftCode := left.code_decides fun numeral number =>
      numerals numeral (by simp [Clause.tokens, ← number, same])
    rw [same] at leftCode
    unfold Comparison.code
    dsimp only
    split
    · rename_i value boolean
      have kind : x.1 = .boolean value := same.symm.trans boolean
      refine Or.inl ⟨?_, ?_⟩
      · rw [Clause.IsAccepted, kind]
        trivial
      · rw [same, Clause.code]
        simp only [kind]
    · rename_i token noBoolean
      rw [Clause.code_alone fun value boolean => noBoolean value (same.trans boolean)]
      exact leftCode.map fun code => apply "toBoolean" ["exchange", code]
  | compared left right op l r same same' =>
    have leftCode := left.code_decides fun numeral number =>
      numerals numeral (by simp [Clause.tokens, ← number, same])
    have rightCode : Decides (if op.takesType then r.1.NamesType else r.1.HasCode) [r.1]
        (if op.takesType then right.typeCode else right.code)
        (if op.takesType then r.1.value ++ ".class" else r.1.code) := by
      rw [← same']
      split
      · exact right.typeCode_decides
      · exact right.code_decides fun numeral number =>
          numerals numeral (by simp [Clause.tokens, ← number, same'])
    rw [same] at leftCode
    have both := leftCode.both rightCode fun a b =>
      if op.isNegated then .char '!' :: apply op.helper ["exchange", a, b] else apply op.helper ["exchange", a, b]
    have decided : Decides (Clause.compared l op r).IsAccepted ([l.1] ++ [r.1])
        (Comparison.code ⟨left, some (op, right)⟩) (Clause.compared l op r).code := by
      rw [Clause.code_compared]
      unfold Comparison.code
      dsimp only
      cases taken : op.takesType <;> simpa [taken, Clause.IsAccepted] using both
    exact decided.mono Iff.rfl (by simp [Clause.tokens])

def linkedPieces (x : Option Logical × Clause) : List Text := (x.1.map Logical.spelling).toList ++ [x.2.code]

theorem linkedCode_decides {comparisons : List (Option Logical × Comparison)}
    {clauses : List (Option Logical × Clause)} (read : AreReadFrom comparisons clauses)
    (numerals : ∀ x ∈ clauses, ∀ numeral, .number numeral ∈ x.2.tokens → IsNumeral numeral) :
    Decides (∀ x ∈ clauses, x.2.IsAccepted) (clauses.flatMap (·.2.tokens))
      (comparisons.mapM fun (link, c) => linkedCode link c) (clauses.map linkedPieces) := by
  induction read with
  | nil => exact Or.inl ⟨by simp, rfl⟩
  | @cons c x comparisons clauses here _ ih =>
    obtain ⟨link, c⟩ := c
    obtain ⟨link', x⟩ := x
    obtain ⟨rfl, source⟩ : link = link' ∧ c.ReadFrom x := here
    have first : Decides x.IsAccepted x.tokens (linkedCode link c) (linkedPieces (link, x)) :=
      (source.code_decides (numerals (link, x) List.mem_cons_self)).map
        fun code => (link.map Logical.spelling).toList ++ [code]
    have later := ih fun y member => numerals y (List.mem_cons_of_mem _ member)
    rw [List.mapM_cons]
    exact (first.both later List.cons).mono (by simp) (by simp)

theorem flatten_linkedPieces (s : Sentence) :
    Text.joinWith " " ((linkedClauses none s).map linkedPieces).flatten = s.code := by
  have rest : ((s.rest.map fun x => (some x.1, x.2)).map linkedPieces).flatten =
      s.rest.flatMap fun x => [x.1.spelling, x.2.code] := by
    rw [List.map_map, ← List.flatMap_def]
    rfl
  rw [linkedClauses, List.map_cons, List.flatten_cons, rest]
  rfl

theorem linkedClauses_accepted (s : Sentence) :
    (∀ x ∈ linkedClauses none s, x.2.IsAccepted) ↔ s.IsAccepted := by
  simp only [linkedClauses, List.forall_mem_cons, List.forall_mem_map]
  rfl

theorem mem_tokens_of_linkedClauses {s : Sentence} {x : Option Logical × Clause} (member : x ∈ linkedClauses none s)
    {t : Token} (present : t ∈ x.2.tokens) : t ∈ s.tokens := by
  rcases List.mem_cons.mp member with rfl | member
  · exact List.mem_append_left _ present
  · obtain ⟨y, later, rfl⟩ := List.mem_map.mp member
    exact List.mem_append_right _ (List.mem_flatMap.mpr ⟨y, later, List.mem_cons_of_mem _ present⟩)

/-- A predicate has code exactly when one sentence derives its tokens whose operands are accepted. -/
theorem predicateCode_iff_sentence {script : Text} {ts : List PlacedToken} (read : tokens script = .ok ts) :
    (∀ code, predicateCode script = .ok code ↔
      ∃ s : Sentence, s.tokens = ts.map (·.token) ∧ s.IsAccepted ∧ s.code = code) ∧
    (∀ s s' : Sentence, s.tokens = ts.map (·.token) → s'.tokens = ts.map (·.token) → s = s') ∧
    ∀ fault, predicateCode script = .error fault →
      (∃ f, fault = .malformed f) ∨
      ∃ numeral, .number numeral ∈ ts.map (·.token) ∧ IsOversized numeral ∧
        fault = .oversizedInteger (digitCount numeral) := by
  have run : predicateCode script = (do
      let pieces ← (parse ts).comparisons.mapM fun (link, c) => linkedCode link c
      (parse ts).fault.elim (.ok (Text.joinWith " " pieces.flatten)) fun fault => .error (.malformed fault)) := by
    have start : (tokens script).mapError ScriptFault.malformed = pure ts := by
      rw [read]
      rfl
    rw [predicateCode, start, pure_bind]
    refine bind_congr fun pieces => ?_
    cases (parse ts).fault <;> rfl
  have decided : ∀ s : Sentence, s.tokens = ts.map (·.token) →
      Decides (∀ x ∈ linkedClauses none s, x.2.IsAccepted) ((linkedClauses none s).flatMap (·.2.tokens))
        ((parse ts).comparisons.mapM fun (link, c) => linkedCode link c) ((linkedClauses none s).map linkedPieces) := by
    intro s derived
    refine linkedCode_decides (parse_sentence derived).2 fun x member numeral present => tokens_isNumeral read ?_
    rw [← derived]
    exact mem_tokens_of_linkedClauses member present
  refine ⟨fun code => ⟨?_, ?_⟩, fun s s' first second => sentence_unique (first.trans second.symm), ?_⟩
  · intro compiled
    rw [run] at compiled
    obtain ⟨pieces, written, compiled⟩ := Fallible.bind_ok compiled
    cases sound : (parse ts).fault with
    | some fault =>
      rw [sound] at compiled
      cases compiled
    | none =>
      rw [sound] at compiled
      cases compiled
      obtain ⟨s, derived⟩ := (parse_of ts).sound sound
      obtain ⟨accepted, rfl⟩ := (decided s derived).ok_iff.mp written
      exact ⟨s, derived, (linkedClauses_accepted s).mp accepted, (flatten_linkedPieces s).symm⟩
  · rintro ⟨s, derived, accepted, rfl⟩
    have written := (decided s derived).ok_iff.mpr ⟨(linkedClauses_accepted s).mpr accepted, rfl⟩
    rw [run, written, (parse_sentence derived).1, ← flatten_linkedPieces]
    rfl
  · intro fault failed
    rw [run] at failed
    rcases Fallible.bind_error failed with failed | ⟨pieces, _, failed⟩
    · obtain ⟨clauses, source, among⟩ := (parse_of ts).clauses
      have decided := linkedCode_decides source fun x member numeral present =>
        tokens_isNumeral read (among x member _ present)
      refine (decided.reported failed).mono fun t member => ?_
      obtain ⟨x, present, inside⟩ := List.mem_flatMap.mp member
      exact among x present t inside
    · cases unsound : (parse ts).fault with
      | some f =>
        rw [unsound] at failed
        cases failed
        exact Or.inl ⟨f, rfl⟩
      | none =>
        rw [unsound] at failed
        cases failed

/-- A negated type test and a truth value: the derivation of this script and the code read off it. -/
theorem predicateCode_iff_sentence_type :
    ∃ (ts : List PlacedToken) (s : Sentence), tokens "$\x7bbody\x7d !is a.B || true" = .ok ts ∧
      s.tokens = ts.map (·.token) ∧
      s.IsAccepted ∧ s.code = "!is(exchange, body, a.B.class) || true" ∧
      predicateCode "$\x7bbody\x7d !is a.B || true" = .ok "!is(exchange, body, a.B.class) || true" := by
  let s : Sentence :=
    ⟨.compared ⟨.function "body", rfl⟩ .isNotType ⟨.word "a.B", rfl⟩, [(.or, .alone ⟨.boolean true, rfl⟩)]⟩
  have read : tokens "$\x7bbody\x7d !is a.B || true" =
      .ok [⟨.function "body", 0, 7⟩, ⟨.operator .isNotType, 8, 3⟩, ⟨.word "a.B", 12, 3⟩, ⟨.logical .or, 16, 2⟩,
        ⟨.boolean true, 19, 4⟩] := Fallible.ok_of_toOption (by decide +kernel)
  have known : functionCode "body" = .ok "body" := Fallible.ok_of_toOption (by decide +kernel)
  have accepted : s.IsAccepted := by
    refine ⟨⟨⟨_, known⟩, ["a", "B"], by simp, by decide, Or.inl (by decide)⟩, ?_⟩
    simp [s, Clause.IsAccepted, Token.HasCode]
  have code : s.code = "!is(exchange, body, a.B.class) || true" := by decide +kernel
  exact ⟨_, s, read, rfl, accepted, code, ((predicateCode_iff_sentence read).1 _).mpr ⟨s, rfl, accepted, code⟩⟩

end RouteScript.Script
