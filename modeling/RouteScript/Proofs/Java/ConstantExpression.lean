import RouteScript.Proofs.Java.Comments
import RouteScript.Proofs.Java.ConstantReading
import RouteScript.Proofs.Java.ConstantText

/-!
# Constant expressions

String literals with plus signs between them, and parentheses around any part, are read as one expression, and its text is
that of the literals (`rules_reads`). With what such an expression is read from and what its tree says, the text of an
expression does not depend on how it is grouped (`constantText_any_grouping`).
-/

namespace RouteScript.Java

open Java.Parser

/-! ### What constant strings begin with -/

/-- The first token is a string literal or an opening parenthesis. -/
def BeginsConstant (ts : List Token) : Prop := ∃ t mid, ts = t :: mid ∧ (t.kind = .string ∨ isSymbol "(" t = true)

/-- Such tokens, and such ones again behind an opening parenthesis. -/
structure OpensConstant (ts : List Token) : Prop where
  begins : BeginsConstant ts
  inside : ∀ o mid, ts = o :: mid → isSymbol "(" o = true → BeginsConstant mid

theorem BeginsConstant.headNot {ts : List Token} (begins : BeginsConstant ts) {p : Token → Bool}
    (other : ∀ t, t.kind = .string ∨ isSymbol "(" t = true → p t = false) : HeadNot p ts := by
  obtain ⟨t, mid, rfl, opens⟩ := begins
  rintro _ ⟨⟩
  exact other t opens

theorem BeginsConstant.headNot_word {ts : List Token} (begins : BeginsConstant ts) {p : Token → Bool}
    (words : ∀ t, p t = true → t.kind = .word) : HeadNot p ts := by
  refine begins.headNot fun t opens => Bool.eq_false_iff.mpr fun isWord => ?_
  have kind := words t isWord
  simp [isSymbol, kind] at opens

theorem BeginsConstant.word_none {ts : List Token} (begins : BeginsConstant ts) (w : Text) : word w ts = none :=
  Parser.word_none (begins.headNot_word (by simp +contextual [isWord]))

theorem BeginsConstant.headNot_symbol {ts : List Token} (begins : BeginsConstant ts) {s : Text} (other : s ≠ "(") :
    HeadNot (isSymbol s) ts := by
  refine begins.headNot fun t opens => ?_
  rcases opens with string | paren
  · simp [isSymbol, string]
  · simp only [isSymbol, Bool.and_eq_true, decide_eq_true_eq] at paren
    simp [isSymbol, paren.2, Ne.symm other]

/-- Markers and types have a first token of their own. -/
structure NeedsHead (r : Rules) : Prop where
  marker : ∀ ts, HeadNot (isSymbol "@") ts → r _ .marker ts = none
  typeName : ∀ words ts, HeadNot (·.kind = .word) ts → r _ (.typeName words) ts = none

theorem rules_needsHead (depth : Nat) : NeedsHead (rules depth) := by
  cases depth with
  | zero => exact ⟨fun _ _ => rfl, fun _ _ _ => rfl⟩
  | succ depth =>
    refine ⟨fun ts other => bind_of_none (tokenIf_none other), fun words ts other => bind_of_none ?_⟩
    refine (orElse_of_none (bind_of_none (tokenIf_none (other.imp ?_))) _).trans (bind_of_none (tokenIf_none (other.imp ?_)))
    all_goals
      intro t noWord
      simp_all

theorem NeedsHead.markers {self : Rules} (needs : NeedsHead self) {ts : List Token} (begins : BeginsConstant ts) :
    markers self ts = some ([], ts) :=
  many_of_none (needs.marker ts (begins.headNot_symbol (by decide)))

theorem NeedsHead.typeName_none {self : Rules} (needs : NeedsHead self) (words : List Text) {ts : List Token}
    (begins : BeginsConstant ts) : self _ (.typeName words) ts = none :=
  needs.typeName words ts (begins.headNot_word (by simp))

theorem parameter_none {self : Rules} (needs : NeedsHead self) {ts : List Token} (begins : BeginsConstant ts) :
    parameter self ts = none := by
  have noModifier : modifiers self ts = some ([], ts) := by
    refine many_of_none ((orElse_of_none (needs.marker ts (begins.headNot_symbol (by decide))) _).trans (bind_of_none ?_))
    unfold modifierWord
    rw [orElse_of_none, orElse_of_none]
    · exact bind_of_none (begins.word_none "non")
    · exact bind_of_none (begins.word_none "sealed")
    · exact bind_of_none (tokenIf_none (begins.headNot_word (by simp +contextual)))
  exact (bind_of_some noModifier).trans (bind_of_none (needs.typeName_none primitives begins))

theorem BeginsConstant.anyWord_none {ts : List Token} (begins : BeginsConstant ts) (words : List Text) :
    nameOtherThan words ts = none :=
  tokenIf_none (begins.headNot_word (by simp +contextual))

theorem lambdaParameters_none {self : Rules} (needs : NeedsHead self) {ts : List Token} (opens : OpensConstant ts) :
    lambdaParameters self ts = none := by
  have noNames : between "(" ")" (separated "," do
      let _ ← anyName
      return ([] : List Tree)) ts = none := by
    refine between_none fun o mid same paren a rest read => ?_
    exact (not_none_of_read read (bind_of_none (bind_of_none ((opens.inside o mid same paren).anyWord_none [])))).elim
  -- An empty list of parameters could be read, but no parenthesis closes it.
  have noParameters : parameters self ts = none := by
    refine between_none fun o mid same paren a rest read => ?_
    have begins := opens.inside o mid same paren
    rcases orElse_some read with read | ⟨_, empty⟩
    · exact (not_none_of_read read (bind_of_none (parameter_none needs begins))).elim
    · cases empty
      exact begins.headNot_symbol (by decide)
  rw [lambdaParameters, orElse_of_none (bind_of_none (opens.begins.anyWord_none expressionWords)), orElse_of_none noParameters]
  exact noNames

theorem lambdaExpression_none {self : Rules} {ts : List Token} (failed : lambdaParameters self ts = none) :
    lambdaExpression self ts = none := by
  refine (bind_of_some (show _ = some (ts, ts) from rfl)).trans ?_
  dsimp only
  split
  · rfl
  · exact bind_of_none failed

theorem cast_none {self : Rules} (lambda : Bool) (needs : NeedsHead self) {ts : List Token} (opens : OpensConstant ts) :
    cast self lambda ts = none := by
  rw [Option.eq_none_iff_forall_ne_some]
  rintro ⟨tree, rest⟩ read
  obtain ⟨_, mid, first, second⟩ := bind_some read
  obtain ⟨o, same, paren⟩ := symbol_some first
  obtain ⟨_, mid', looked, third⟩ := bind_some second
  obtain ⟨_, mid'', looked', fourth⟩ := bind_some third
  obtain ⟨_, _, typed, _⟩ := bind_some fourth
  rw [look_some looked', look_some looked] at typed
  have begins := opens.inside o mid same paren
  refine not_none_of_read typed (bind_of_none ((bind_of_some (needs.markers begins)).trans ?_))
  exact bind_of_none (needs.typeName_none expressionWords begins)

/-- Such tokens are those of a primary expression. -/
theorem operand_eq_primaryOperand {self : Rules} (lambda : Bool) (needs : NeedsHead self) {ts : List Token}
    (opens : OpensConstant ts) : operand self lambda ts = primaryOperand self lambda ts := by
  have noSign : signed self lambda ts = none := by
    refine bind_of_none (tokenIf_none (opens.begins.headNot ?_))
    rintro t (string | paren)
    · simp [string]
    · simp_all [isSymbol]
      decide
  have noLambda : (if lambda then lambdaExpression self else failure) ts = none := by
    split
    · exact lambdaExpression_none (lambdaParameters_none needs opens)
    · rfl
  have noSwitch : switchExpression self ts = none := bind_of_none (opens.begins.word_none "switch")
  rw [operand, orElse_of_none noSign, orElse_of_none noLambda, orElse_of_none (cast_none lambda needs opens),
    orElse_of_none noSwitch]

/-! ### Reading constant strings -/

/-- The token goes on with the operand before it. -/
def extendsOperand (t : Token) : Bool :=
  t.kind = .symbol && ([".", "[", "::", "++", "--"] : List Text).contains t.text

/-- The token goes on with the expression before it: with its last operand, with an operator or with a question mark. -/
def extendsExpression (t : Token) : Bool :=
  extendsOperand t || isWord "instanceof" t || isSymbol ">" t || isSymbol "?" t ||
    t.kind = .symbol && (symbolRanks.lookup t.text).isSome

theorem headNot_symbol_of_extendsOperand {rest : List Token} (ends : HeadNot extendsOperand rest) {s : Text}
    (known : ([".", "[", "::", "++", "--"] : List Text).contains s = true) : HeadNot (isSymbol s) rest := by
  refine ends.imp fun t other => Bool.eq_false_iff.mpr fun isSign => ?_
  simp only [isSymbol, Bool.and_eq_true, decide_eq_true_eq] at isSign
  rw [extendsOperand, isSign.1, isSign.2, known] at other
  cases other

theorem primaryStep_none (self : Rules) (p : Primary) {rest : List Token} (ends : HeadNot extendsOperand rest) :
    primaryStep self p rest = none := by
  have noPoint : afterPoint self p.tree rest = none :=
    bind_of_none (symbol_none (headNot_symbol_of_extendsOperand ends (by decide)))
  rw [primaryStep, orElse_of_none noPoint, orElse_of_none]
  · exact bind_of_none (symbol_none (headNot_symbol_of_extendsOperand ends (by decide)))
  · exact bind_of_none (bind_of_none (symbol_none (headNot_symbol_of_extendsOperand ends (by decide))))

theorem primaryOperand_of_start {self : Rules} (lambda : Bool) {tree : Tree} {ts rest : List Token}
    (start : primaryStart self ts = some (⟨tree, false⟩, rest)) (ends : HeadNot extendsOperand rest) :
    primaryOperand self lambda ts = some (tree, rest) := by
  have whole : primary self ts = some (⟨tree, false⟩, rest) := by
    refine (bind_of_some start).trans ?_
    rw [repeated, iterate_of_none (primaryStep_none self _ ends)]
  refine (bind_of_some whole).trans ((bind_of_some (show _ = some (tree, rest) from rfl)).trans ?_)
  rw [repeated, iterate_of_none]
  refine bind_of_none (tokenIf_none fun t head => ?_)
  rw [headNot_symbol_of_extendsOperand ends (by decide) t head, headNot_symbol_of_extendsOperand ends (by decide) t head]
  rfl

theorem primaryStart_string (self : Rules) {t : Token} (string : t.kind = .string) (rest : List Token) :
    primaryStart self (t :: rest) = some (⟨.literal t.text, false⟩, rest) := by
  refine orElse_of_some ((bind_of_some ((bind_of_some (tokenIf_cons ?_ rest)).trans rfl)).trans ?_) _
  · simp [string]
  · rw [if_pos string]
    rfl

theorem primaryStart_grouped {self : Rules} (needs : NeedsHead self) {o c : Token} {ts rest : List Token} {inner : Tree}
    (opens : isSymbol "(" o = true) (closes : isSymbol ")" c = true)
    (inside : self _ (.expression true) ts = some (inner, c :: rest)) :
    primaryStart self (o :: ts) = some (⟨.grouped inner, false⟩, rest) := by
  have begins : BeginsConstant (o :: ts) := ⟨o, ts, rfl, Or.inr opens⟩
  have kind : o.kind = .symbol := by simp_all [isSymbol]
  rw [primaryStart, orElse_of_none, orElse_of_none, orElse_of_none, orElse_of_some]
  · exact (bind_of_some (between_of_some opens inside closes)).trans rfl
  · exact bind_of_none (begins.anyWord_none expressionWords)
  · exact bind_of_none (bind_of_none (needs.typeName_none expressionWords begins))
  · refine bind_of_none (bind_of_none (tokenIf_none ?_))
    rintro _ ⟨⟩
    simp [kind]

/-- Tokens of one operand: a string literal, or parentheses around tokens of constant strings. -/
inductive OperandTokens : List Token → Prop where
  | literal {t : Token} (string : t.kind = .string) : OperandTokens [t]
  | grouped {o c : Token} {ts : List Token} (opens : isSymbol "(" o = true) (inside : ConstantTokens ts)
      (closes : isSymbol ")" c = true) : OperandTokens (o :: (ts ++ [c]))

/-- Operands, each behind a plus sign. -/
inductive RowTokens : List Token → Prop where
  | nil : RowTokens []
  | cons {p : Token} {us vs : List Token} (plus : isSymbol "+" p = true) (operand : OperandTokens us) (row : RowTokens vs) :
      RowTokens (p :: (us ++ vs))

theorem RowTokens.append {ts us : List Token} (first : RowTokens ts) (second : RowTokens us) : RowTokens (ts ++ us) := by
  induction first with
  | nil => exact second
  | cons plus operand _ ih =>
    rw [List.cons_append, List.append_assoc]
    exact .cons plus operand ih

/-- However the sums are grouped, the tokens are those of an operand and a row behind it. -/
theorem ConstantTokens.operands {ts : List Token} (constant : ConstantTokens ts) :
    ∃ us vs, ts = us ++ vs ∧ OperandTokens us ∧ RowTokens vs := by
  induction constant with
  | @literal t string => exact ⟨[t], [], rfl, .literal string, .nil⟩
  | @grouped o c ts opens inside closes => exact ⟨o :: (ts ++ [c]), [], by simp, .grouped opens inside closes, .nil⟩
  | @sum p _ _ _ plus _ first second =>
    obtain ⟨us, vs, rfl, operand, row⟩ := first
    obtain ⟨us', vs', rfl, operand', row'⟩ := second
    exact ⟨us, vs ++ p :: (us' ++ vs'), by simp, operand, row.append (.cons plus operand' row')⟩

theorem OperandTokens.beginsConstant {us : List Token} (operand : OperandTokens us) (rest : List Token) :
    BeginsConstant (us ++ rest) := by
  cases operand with
  | @literal t string => exact ⟨t, rest, rfl, Or.inl string⟩
  | @grouped o c ts opens _ _ => exact ⟨o, ts ++ [c] ++ rest, rfl, Or.inr opens⟩

theorem ConstantTokens.beginsConstant {ts : List Token} (constant : ConstantTokens ts) (rest : List Token) :
    BeginsConstant (ts ++ rest) := by
  obtain ⟨us, vs, rfl, operand, _⟩ := constant.operands
  rw [List.append_assoc]
  exact operand.beginsConstant (vs ++ rest)

theorem OperandTokens.opensConstant {us : List Token} (operand : OperandTokens us) (rest : List Token) :
    OpensConstant (us ++ rest) := by
  refine ⟨operand.beginsConstant rest, ?_⟩
  rintro o' mid same paren
  cases operand with
  | literal string =>
    cases same
    simp [isSymbol, string] at paren
  | @grouped o c ts _ inside _ =>
    have back : ts ++ [c] ++ rest = mid := (List.cons.inj same).2
    rw [← back, List.append_assoc]
    exact inside.beginsConstant ([c] ++ rest)

def ReadsExpressions (self : Rules) (n : Nat) : Prop :=
  ∀ lambda taken rest, ConstantTokens taken → taken.length < n → HeadNot extendsExpression rest →
    ∃ tree, self _ (.expression lambda) (taken ++ rest) = some (tree, rest) ∧ tree.constantText = some (stringsText taken)

def ReadsOperands (self : Rules) (n : Nat) : Prop :=
  ∀ lambda taken rest, OperandTokens taken → taken.length ≤ n → HeadNot extendsOperand rest →
    ∃ tree, self _ (.operand lambda) (taken ++ rest) = some (tree, rest) ∧ tree.constantText = some (stringsText taken)

theorem operand_reads {self : Rules} {n : Nat} (needs : NeedsHead self) (reads : ReadsExpressions self n) (lambda : Bool)
    {taken rest : List Token} (tokens : OperandTokens taken) (short : taken.length ≤ n + 1)
    (ends : HeadNot extendsOperand rest) :
    ∃ tree, operand self lambda (taken ++ rest) = some (tree, rest) ∧ tree.constantText = some (stringsText taken) := by
  rw [operand_eq_primaryOperand lambda needs (tokens.opensConstant rest)]
  cases tokens with
  | @literal t string =>
    refine ⟨.literal t.text, primaryOperand_of_start lambda (primaryStart_string self string rest) ends, ?_⟩
    simp [Tree.constantText, stringsText, string]
  | @grouped o c ts opens inside closes =>
    have stops : HeadNot extendsExpression (c :: rest) := headNot_of_symbol closes rest fun _ => rfl
    simp only [List.length_cons, List.length_append] at short
    obtain ⟨inner, read, text⟩ := reads true ts (c :: rest) inside (by omega) stops
    have start := primaryStart_grouped needs opens closes read
    refine ⟨.grouped inner, ?_, text.trans ?_⟩
    · simpa using primaryOperand_of_start lambda start ends
    · rw [stringsText_grouped opens ts closes]

theorem angleOperator_none {ts : List Token} (other : HeadNot (isSymbol ">") ts) : angleOperator ts = none := by
  rw [angleOperator, orElse_of_none, orElse_of_none, orElse_of_none]
  · exact bind_of_none (symbol_none other)
  all_goals exact bind_of_none (bind_of_none (tokenIf_none other))

theorem operator_none {rest : List Token} (ends : HeadNot extendsExpression rest) : operator rest = none := by
  rw [operator, orElse_of_none, Option.eq_none_iff_forall_ne_some]
  · rintro ⟨op, rest'⟩ read
    obtain ⟨t, mid, taken, ranked⟩ := bind_some read
    obtain ⟨rfl, isSign⟩ := tokenIf_some taken
    have unknown : symbolRanks.lookup t.text = none := by
      have other := ends t rfl
      simp only [extendsExpression, isSign, Bool.true_and, Bool.or_eq_false_iff] at other
      exact Option.isNone_iff_eq_none.mp (by simpa using other.2)
    rw [unknown] at ranked
    cases ranked
  · exact angleOperator_none (ends.imp fun t other => by simp_all [extendsExpression])

theorem operator_plus {p : Token} (plus : isSymbol "+" p = true) (ts : List Token) :
    operator (p :: ts) = some (⟨9, true⟩, ts) := by
  rw [operator, orElse_of_none (angleOperator_none (headNot_of_symbol plus ts fun _ => rfl))]
  obtain ⟨kind, text, start⟩ := p
  simp only [isSymbol, Bool.and_eq_true, decide_eq_true_eq] at plus
  obtain ⟨rfl, rfl⟩ := plus
  rfl

theorem rowStep_of_noTest {self : Rules} (lambda : Bool) {ts : List Token} (other : HeadNot (isWord "instanceof") ts) :
    rowStep self lambda ts = (do
      let op ← operator
      return [(op, ← self _ (.operand lambda))] : Parser (List (Operator × Tree))) ts :=
  orElse_of_none (bind_of_none (bind_of_none (word_none other))) _

theorem rowStep_none (self : Rules) (lambda : Bool) {rest : List Token} (ends : HeadNot extendsExpression rest) :
    rowStep self lambda rest = none := by
  rw [rowStep_of_noTest lambda (ends.imp fun t other => by simp_all [extendsExpression])]
  exact bind_of_none (operator_none ends)

theorem rowStep_plus {self : Rules} {lambda : Bool} {p : Token} (plus : isSymbol "+" p = true) {ts rest : List Token} {tree : Tree}
    (read : self _ (.operand lambda) ts = some (tree, rest)) :
    rowStep self lambda (p :: ts) = some ([(⟨9, true⟩, tree)], rest) := by
  rw [rowStep_of_noTest lambda (headNot_of_symbol plus ts fun _ => rfl)]
  exact (bind_of_some (operator_plus plus ts)).trans ((bind_of_some read).trans rfl)

theorem RowTokens.headNot {vs rest : List Token} (row : RowTokens vs) (ends : HeadNot extendsExpression rest) :
    HeadNot extendsOperand (vs ++ rest) := by
  cases row with
  | nil => exact ends.imp fun t other => by simp_all [extendsExpression]
  | cons plus _ _ => exact headNot_of_symbol plus _ fun _ => rfl

/-- A row is read to its end, operand by operand. -/
theorem row_reads {self : Rules} {n : Nat} (reads : ReadsOperands self n) (lambda : Bool) {vs rest : List Token}
    (row : RowTokens vs) (short : vs.length ≤ n) (ends : HeadNot extendsExpression rest) :
    ∃ xs, (∀ before, iterate (fun before => do return before ++ (← rowStep self lambda)) before (vs ++ rest) =
      (before ++ xs, rest)) ∧ ∀ text, rowText (some text) xs = some (text ++ stringsText vs) := by
  induction row with
  | nil =>
    refine ⟨[], fun before => ?_, fun text => by simp [rowText, stringsText]⟩
    rw [List.append_nil]
    exact iterate_of_none (bind_of_none (rowStep_none self lambda ends))
  | @cons p us vs plus operand row ih =>
    simp only [List.length_cons, List.length_append] at short
    obtain ⟨xs, later, texts⟩ := ih (by omega)
    obtain ⟨tree, read, text⟩ := reads lambda us (vs ++ rest) operand (by omega) (row.headNot ends)
    refine ⟨(⟨9, true⟩, tree) :: xs, fun before => ?_, fun front => ?_⟩
    · have step := (bind_of_some (f := fun xs => pure (before ++ xs)) (rowStep_plus plus read)).trans rfl
      have shorter : (vs ++ rest).length < (p :: (us ++ (vs ++ rest))).length := by
        simp only [List.length_cons, List.length_append]
        omega
      rw [List.cons_append, List.append_assoc, iterate_of_some step shorter, later, List.append_assoc]
      rfl
    · rw [rowText_cons, text, Operator.text_of_isSum rfl, texts, stringsText_symbol plus, stringsText_append,
        List.append_assoc]

theorem expression_reads {self : Rules} {n : Nat} (reads : ReadsOperands self n) (lambda : Bool) {taken rest : List Token}
    (tokens : ConstantTokens taken) (short : taken.length ≤ n) (ends : HeadNot extendsExpression rest) :
    ∃ tree, expression self lambda (taken ++ rest) = some (tree, rest) ∧ tree.constantText = some (stringsText taken) := by
  obtain ⟨us, vs, rfl, operand, row⟩ := tokens.operands
  rw [List.length_append] at short
  obtain ⟨first, start, text⟩ := reads lambda us (vs ++ rest) operand (by omega) (row.headNot ends)
  obtain ⟨xs, repeated, texts⟩ := row_reads reads lambda row (by omega) ends
  have rowRead : many (rowStep self lambda) (vs ++ rest) = some (xs, rest) := congrArg some (repeated [])
  have noQuestion : HeadNot (isSymbol "?") rest := ends.imp fun t other => by simp_all [extendsExpression]
  refine ⟨joinOperands first xs, ?_, ?_⟩
  · rw [List.append_assoc]
    exact (bind_of_some start).trans ((bind_of_some rowRead).trans ((bind_of_some (taken_of_none (symbol_none noQuestion))).trans rfl))
  · rw [constantText_joinOperands, text, texts, stringsText_append]

/-- Each rule reads what the rules one level deeper leave to it. -/
theorem rules_reads (depth : Nat) : ReadsExpressions (rules depth) depth ∧ ReadsOperands (rules depth) depth := by
  -- An operand in parentheses costs two levels and has two tokens more than what is in them.
  induction depth with
  | zero =>
    refine ⟨fun lambda taken rest _ short => absurd short (Nat.not_lt_zero _), fun lambda taken rest tokens short => ?_⟩
    cases tokens with
    | literal | grouped => simp at short
  | succ depth ih =>
    refine ⟨fun lambda taken rest tokens short => ?_, fun lambda taken rest tokens short => ?_⟩
    · exact expression_reads ih.2 lambda tokens (Nat.le_of_lt_succ short)
    · exact operand_reads (rules_needsHead depth) ih.1 lambda tokens short

/-- The text of an expression is that of its string literals one after another, however they are grouped. -/
theorem constantText_any_grouping :
    (∀ tree : Tree,
      (∀ text, tree.constantText = some text ↔ tree.IsConstant ∧ text = tree.literals.flatMap literalValue) ∧
        (tree.constantText = none ↔ ¬tree.IsConstant)) ∧
    (∀ depth lambda ts tree rest, rules depth _ (.expression lambda) ts = some (tree, rest) →
      tree.constantText = none ∨
        ∃ taken, ts = taken ++ rest ∧ ConstantTokens taken ∧ tree.constantText = some (stringsText taken)) ∧
    (∀ taken rest, ConstantTokens taken → HeadNot extendsExpression rest → ∀ depth lambda, taken.length < depth →
      ∃ tree, rules depth _ (.expression lambda) (taken ++ rest) = some (tree, rest) ∧
        tree.constantText = some (stringsText taken)) ∧
    ∀ gap, Gap gap → ∀ offset t, tokensFrom offset (gap ++ t) = tokensFrom (offset + gap.length) t := by
  refine ⟨?_, ?_, ?_, ?_⟩
  · intro tree
    exact ⟨fun text => Tree.constantText_eq_some_iff_isConstant, Tree.constantText_eq_none_iff⟩
  · intro depth lambda ts tree rest read
    exact (rules_faithful depth lambda).1 ts tree rest read
  · intro taken rest constant ends depth lambda short
    exact (rules_reads depth).1 lambda taken rest constant short ends
  · intro gap skipped offset t
    exact tokensFrom_gap skipped offset t

def nestedTokens : List Token :=
  [⟨.string, "\"a\"", 0⟩, ⟨.symbol, "+", 3⟩, ⟨.symbol, "(", 4⟩, ⟨.symbol, "(", 5⟩, ⟨.string, "\"\"\"\nb\"\"\"", 6⟩,
    ⟨.symbol, ")", 14⟩, ⟨.symbol, "+", 15⟩, ⟨.string, "\"c\"", 16⟩, ⟨.symbol, ")", 19⟩]

theorem nestedTokens_constant : ConstantTokens nestedTokens := by
  have inner := ConstantTokens.grouped (o := ⟨.symbol, "(", 5⟩) (c := ⟨.symbol, ")", 14⟩) (by decide)
    (.literal (t := ⟨.string, "\"\"\"\nb\"\"\"", 6⟩) rfl) (by decide)
  have outer := ConstantTokens.grouped (o := ⟨.symbol, "(", 4⟩) (c := ⟨.symbol, ")", 19⟩) (by decide)
    (inner.sum (p := ⟨.symbol, "+", 15⟩) (by decide) (.literal (t := ⟨.string, "\"c\"", 16⟩) rfl)) (by decide)
  exact (ConstantTokens.literal (t := ⟨.string, "\"a\"", 0⟩) rfl).sum (p := ⟨.symbol, "+", 3⟩) (by decide) outer

theorem constantText_any_grouping_nested :
    (∃ tree, rules 10 _ (.expression true) (nestedTokens ++ [⟨.symbol, ",", 20⟩]) = some (tree, [⟨.symbol, ",", 20⟩]) ∧
      tree.constantText = some "abc" ∧ ∃ taken, nestedTokens ++ [⟨.symbol, ",", 20⟩] = taken ++ [⟨.symbol, ",", 20⟩] ∧
        ConstantTokens taken ∧ tree.constantText = some (stringsText taken)) ∧
    (Tree.sum (.grouped (.sum (.literal "\"a\"") (.literal "\"b\""))) (.literal "\"c\"")).constantText = some "abc" ∧
    (Tree.grouped (.sum (.literal "\"a\"") (.call none "b" 4 []))).constantText = none ∧
    tokensFrom 0 (("/*+*/" : Text) ++ ("\"a\"" : Text)) = tokensFrom 5 "\"a\"" := by
  obtain ⟨trees, taken, reads, gaps⟩ := constantText_any_grouping
  refine ⟨?_, ?_, ?_, ?_⟩
  · have text : stringsText nestedTokens = "abc" := by decide +kernel
    obtain ⟨tree, read, constant⟩ := reads nestedTokens [⟨.symbol, ",", 20⟩] nestedTokens_constant
      (by rintro _ ⟨⟩; decide) 10 true (by decide)
    rw [text] at constant
    rcases taken 10 true _ tree _ read with none | stands
    · cases none.symm.trans constant
    · exact ⟨tree, read, constant, stands⟩
  · refine ((trees _).1 _).mpr ⟨?_, ?_⟩
    · simp [Tree.isConstant_sum, Tree.isConstant_grouped, Tree.isConstant_literal]
    · simp only [Tree.literals_sum, Tree.literals_grouped, Tree.literals_literal]
      decide +kernel
  · refine (trees _).2.mpr fun constant => ?_
    have call := (Tree.isConstant_sum.mp (Tree.isConstant_grouped.mp constant)).2
    cases call ⟨none, .call none "b" 4 []⟩ (by rw [walk]; exact List.mem_cons_self)
  · have comment : Gap ("/*+*/" : Text) := @Gap.block [.char '+'] [] (by decide) (by decide) .nil
    exact gaps "/*+*/" comment 0 "\"a\""

end RouteScript.Java
