import RouteScript.Java.CompilationUnit
import RouteScript.Proofs.Java.OperatorText
import RouteScript.Proofs.Java.ParserRuns

/-!
# What constant strings are read from

Whatever tokens an expression is read from, it has a text only if they are string literals with plus signs between them and
parentheses around any part. The text is then that of these literals, in the order of the tokens (`rules_faithful`).
-/

namespace RouteScript.Java

open Java.Parser

/-! ### What has no text -/

/-- The expression is made of something else than string literals. -/
def Tree.IsOther (t : Tree) : Prop := t.constantText = none

theorem signed_isOther (self : Rules) (lambda : Bool) : Gives (signed self lambda) Tree.IsOther :=
  gives_bind _ fun _ => gives_bind _ fun _ => gives_pure rfl

theorem lambdaExpression_isOther (self : Rules) : Gives (lambdaExpression self) Tree.IsOther :=
  gives_bind _ fun _ => gives_check <| gives_bind _ fun _ => gives_bind _ fun _ => gives_bind _ fun _ => gives_pure rfl

theorem cast_isOther (self : Rules) (lambda : Bool) : Gives (cast self lambda) Tree.IsOther :=
  gives_bind _ fun _ => gives_bind _ fun _ => gives_bind _ fun _ => gives_bind _ fun _ => gives_bind _ fun _ =>
    gives_bind _ fun _ => gives_check <| gives_bind _ fun _ => gives_pure rfl

theorem switchExpression_isOther (self : Rules) : Gives (switchExpression self) Tree.IsOther :=
  gives_bind _ fun _ => gives_bind _ fun _ => gives_bind _ fun _ => gives_pure rfl

theorem afterPoint_isOther (self : Rules) (receiver : Tree) : Gives (afterPoint self receiver) (·.tree.IsOther) := by
  refine gives_bind _ fun _ => ?_
  refine Gives.orElse (gives_bind _ fun _ => gives_pure rfl) ?_
  refine Gives.orElse (gives_bind _ fun _ => gives_pure rfl) ?_
  refine Gives.orElse (gives_bind _ fun _ => gives_bind _ fun _ => gives_check <| gives_pure rfl) ?_
  refine Gives.orElse ?_ ?_
  · refine gives_bind _ fun types => gives_bind _ fun name => gives_bind _ fun args => gives_pure ?_
    unfold Tree.IsOther
    dsimp only
    split <;> rfl
  exact Gives.orElse (gives_bind _ fun _ => gives_pure rfl) (gives_bind _ fun _ => gives_pure rfl)

theorem primaryStep_isOther (self : Rules) (p : Primary) : Gives (primaryStep self p) (·.tree.IsOther) :=
  Gives.orElse (afterPoint_isOther self p.tree) <| Gives.orElse (gives_bind _ fun _ => gives_pure rfl) <|
    gives_bind _ fun _ => gives_bind _ fun _ => gives_bind _ fun _ => gives_pure rfl

theorem typeExpression_isOther (self : Rules) : Gives (typeExpression self) Tree.IsOther := by
  refine gives_bind _ fun type => gives_bind _ fun isMethod => ?_
  split
  · exact gives_pure rfl
  · exact gives_bind _ fun _ => gives_bind _ fun _ => gives_pure rfl

theorem namedPrimary_isOther (self : Rules) : Gives (namedPrimary self) (·.tree.IsOther) :=
  gives_bind _ fun _ => Gives.orElse (gives_bind _ fun _ => gives_pure rfl) (gives_pure rfl)

/-! ### Tokens of constant strings -/

/-- String literals with plus signs between them, and parentheses around any part. -/
inductive ConstantTokens : List Token → Prop where
  | literal {t : Token} (string : t.kind = .string) : ConstantTokens [t]
  | grouped {o c : Token} {ts : List Token} (opens : isSymbol "(" o = true) (inside : ConstantTokens ts)
      (closes : isSymbol ")" c = true) : ConstantTokens (o :: (ts ++ [c]))
  | sum {p : Token} {ts us : List Token} (before : ConstantTokens ts) (plus : isSymbol "+" p = true)
      (after : ConstantTokens us) : ConstantTokens (ts ++ p :: us)

/-- The values of the string literals among the tokens, one after another. -/
def stringsText (ts : List Token) : Text := (ts.filter (·.kind = .string)).flatMap fun t => literalValue t.text

theorem stringsText_append (ts us : List Token) : stringsText (ts ++ us) = stringsText ts ++ stringsText us := by
  rw [stringsText, List.filter_append, List.flatMap_append]
  rfl

theorem stringsText_symbol {s : Text} {t : Token} (isSign : isSymbol s t = true) (ts : List Token) :
    stringsText (t :: ts) = stringsText ts := by
  simp [stringsText, (isSymbol_iff.mp isSign).1]

theorem stringsText_grouped {o c : Token} (opens : isSymbol "(" o = true) (ts : List Token) (closes : isSymbol ")" c = true) :
    stringsText (o :: (ts ++ [c])) = stringsText ts := by
  rw [stringsText_symbol opens, stringsText_append, stringsText_symbol closes]
  exact List.append_nil _

/-- The expression has no text, or it was read from tokens of constant strings and has their text. -/
def Tree.IsReadFrom (tree : Tree) (ts rest : List Token) : Prop :=
  tree.IsOther ∨ ∃ taken, ts = taken ++ rest ∧ ConstantTokens taken ∧ tree.constantText = some (stringsText taken)

/-- Every expression that the parser gives was read so. -/
def Faithful {α : Type} (p : Parser α) (tree : α → Tree) : Prop :=
  ∀ ts a rest, p ts = some (a, rest) → (tree a).IsReadFrom ts rest

theorem faithful_of_gives {α : Type} {p : Parser α} {tree : α → Tree} (gives : Gives p fun a => (tree a).IsOther) :
    Faithful p tree :=
  fun ts a rest read => Or.inl (gives ts a rest read)

theorem Faithful.orElse {α : Type} {p q : Parser α} {tree : α → Tree} (first : Faithful p tree) (second : Faithful q tree) :
    Faithful (p <|> q) tree := by
  intro ts a rest read
  rcases orElse_some read with read | ⟨_, read⟩
  · exact first ts a rest read
  · exact second ts a rest read

theorem Tree.IsReadFrom.repeated {α : Type} {step : α → Parser α} {a b : α} {ts mid rest : List Token} (tree : α → Tree)
    (before : (tree a).IsReadFrom ts mid) (later : ∀ a, Gives (step a) fun b => (tree b).IsOther)
    (read : Parser.repeated step a mid = some (b, rest)) : (tree b).IsReadFrom ts rest := by
  have last : iterate step a mid = (b, rest) := Option.some.inj read
  rcases iterate_gives later a mid with same | other
  · cases same.symm.trans last
    exact before
  · rw [last] at other
    exact Or.inl other

theorem literal_faithful : Faithful literal id := by
  intro ts tree rest read
  obtain ⟨t, mid, taken, same⟩ := bind_some read
  obtain ⟨rfl, _⟩ := tokenIf_some taken
  cases same
  by_cases string : t.kind = .string
  · refine Or.inr ⟨[t], rfl, .literal string, ?_⟩
    simp [string, Tree.constantText, stringsText]
  · refine Or.inl ?_
    simp [string, Tree.IsOther, Tree.constantText]

theorem grouped_faithful {inside : Parser Tree} (faithful : Faithful inside id) :
    Faithful (between "(" ")" inside) Tree.grouped := by
  intro ts tree rest read
  obtain ⟨o, c, mid, rfl, opens, read, closes⟩ := between_some read
  rcases faithful mid tree (c :: rest) read with other | ⟨taken, rfl, constant, text⟩
  · exact Or.inl other
  · refine Or.inr ⟨o :: (taken ++ [c]), by simp, .grouped opens constant closes, text.trans ?_⟩
    rw [stringsText_grouped opens taken closes]

theorem Faithful.map {α β : Type} {p : Parser α} {f : α → β} {tree : β → Tree} (faithful : Faithful p (tree ∘ f)) :
    Faithful (do return f (← p)) tree := by
  intro ts b rest read
  obtain ⟨a, mid, read, same⟩ := bind_some read
  cases same
  exact faithful ts a _ read

theorem primaryStart_faithful {self : Rules} (faithful : Faithful (self _ (.expression true)) id) :
    Faithful (primaryStart self) Primary.tree := by
  refine Faithful.orElse (Faithful.map literal_faithful) ?_
  refine Faithful.orElse (Faithful.map (faithful_of_gives (typeExpression_isOther self))) ?_
  refine Faithful.orElse (faithful_of_gives (namedPrimary_isOther self)) ?_
  refine Faithful.orElse (Faithful.map (grouped_faithful faithful)) ?_
  refine Faithful.orElse (faithful_of_gives (gives_bind _ fun _ => gives_pure rfl)) ?_
  refine faithful_of_gives (gives_bind _ fun t => ?_)
  dsimp only
  split
  · exact gives_bind _ fun _ => gives_check (gives_pure rfl)
  · exact gives_pure rfl

theorem primary_faithful {self : Rules} (faithful : Faithful (self _ (.expression true)) id) :
    Faithful (primary self) Primary.tree := by
  intro ts p rest read
  obtain ⟨start, mid, first, read⟩ := bind_some read
  exact (primaryStart_faithful faithful ts start mid first).repeated Primary.tree (primaryStep_isOther self) read

theorem primaryOperand_faithful {self : Rules} (lambda : Bool) (faithful : Faithful (self _ (.expression true)) id) :
    Faithful (primaryOperand self lambda) id := by
  intro ts tree rest read
  obtain ⟨p, mid, first, read⟩ := bind_some read
  obtain ⟨tree', mid', second, read⟩ := bind_some read
  -- What is assigned and what is counted is no constant, so only a primary expression that stands alone is left.
  have before : tree'.IsReadFrom ts mid' := by
    rcases orElse_some second with assigned | ⟨_, same⟩
    · exact Or.inl (holds_of_read assigned (gives_check <| gives_bind _ fun _ => gives_bind _ fun _ => gives_pure rfl))
    · cases same
      exact primary_faithful faithful ts p mid first
  refine before.repeated id (fun t => ?_) read
  exact gives_bind _ fun _ => gives_pure rfl

theorem operand_faithful {self : Rules} (lambda : Bool) (faithful : Faithful (self _ (.expression true)) id) :
    Faithful (operand self lambda) id := by
  refine Faithful.orElse (faithful_of_gives (signed_isOther self lambda)) ?_
  refine Faithful.orElse (faithful_of_gives ?_) ?_
  · split
    · exact lambdaExpression_isOther self
    · exact gives_failure _
  refine Faithful.orElse (faithful_of_gives (cast_isOther self lambda)) ?_
  exact Faithful.orElse (faithful_of_gives (switchExpression_isOther self)) (primaryOperand_faithful lambda faithful)

/-! ### Operands in a row -/

theorem angleOperator_isSum : Gives angleOperator (·.isSum = false) :=
  Gives.orElse (gives_bind _ fun _ => gives_pure rfl) <| Gives.orElse (gives_bind _ fun _ => gives_pure rfl) <|
    Gives.orElse (gives_bind _ fun _ => gives_pure rfl) (gives_bind _ fun _ => gives_pure rfl)

theorem operator_some {op : Operator} {ts rest : List Token} (read : operator ts = some (op, rest)) :
    op.isSum = false ∨ op.isSum = true ∧ ∃ p, ts = p :: rest ∧ isSymbol "+" p = true := by
  rcases orElse_some read with angle | ⟨_, other⟩
  · exact Or.inl (angleOperator_isSum ts op rest angle)
  obtain ⟨t, mid, taken, ranked⟩ := bind_some other
  obtain ⟨rfl, isSign⟩ := tokenIf_some taken
  cases rank : symbolRanks.lookup t.text with
  | none =>
    rw [rank] at ranked
    cases ranked
  | some n =>
    rw [rank] at ranked
    cases ranked
    by_cases plus : t.text = "+"
    · exact Or.inr ⟨decide_eq_true plus, t, rfl, by simpa [isSymbol, plus] using isSign⟩
    · exact Or.inl (decide_eq_false plus)

theorem typeTest_isSum (self : Rules) : Gives (typeTest self) (·.1.isSum = false) :=
  gives_bind _ fun _ => gives_bind _ fun _ => gives_bind _ fun _ => gives_pure rfl

/-- What an expression repeats behind its first operand: an operator with an operand, or a type test. -/
def rowStep (self : Rules) (lambda : Bool) : Parser (List (Operator × Tree)) :=
  (do return [← typeTest self]) <|>
  (do
    let op ← operator
    return [(op, ← self _ (.operand lambda))])

theorem rowStep_some {self : Rules} {lambda : Bool} {ts rest : List Token} {row : List (Operator × Tree)}
    (read : rowStep self lambda ts = some (row, rest)) :
    ∃ op tree, row = [(op, tree)] ∧ (op.isSum = false ∨
      op.isSum = true ∧ ∃ p mid, ts = p :: mid ∧ isSymbol "+" p = true ∧ self _ (.operand lambda) mid = some (tree, rest)) := by
  rcases orElse_some read with read | ⟨_, read⟩
  · obtain ⟨x, mid, read, same⟩ := bind_some read
    cases same
    exact ⟨x.1, x.2, rfl, Or.inl (typeTest_isSum self ts x _ read)⟩
  · obtain ⟨op, mid, first, read⟩ := bind_some read
    obtain ⟨tree, mid', second, same⟩ := bind_some read
    cases same
    refine ⟨op, tree, rfl, (operator_some first).imp id ?_⟩
    rintro ⟨isSum, p, same, plus⟩
    exact ⟨isSum, p, mid, same, plus, second⟩

/-- Behind tokens of constant strings, a row has no text or goes on with such tokens. -/
theorem rowText_repeats {self : Rules} {lambda : Bool} (faithful : Faithful (self _ (.operand lambda)) id)
    {ts rest taken : List Token} {row : List (Operator × Tree)} (repeats : Repeats (rowStep self lambda) ts row rest)
    (constant : ConstantTokens taken) :
    rowText (some (stringsText taken)) row = none ∨ ∃ more, ts = more ++ rest ∧ ConstantTokens (taken ++ more) ∧
      rowText (some (stringsText taken)) row = some (stringsText (taken ++ more)) := by
  -- Each step adds a plus sign and an operand to what was taken, or the text is lost for the whole row.
  induction repeats generalizing taken with
  | stop ts => exact Or.inr ⟨[], rfl, by rwa [List.append_nil], by rw [List.append_nil]; rfl⟩
  | @step ts mid rest row' row first _ ih =>
    obtain ⟨op, tree, rfl, other | ⟨isSum, p, behind, rfl, plus, second⟩⟩ := rowStep_some first
    · exact Or.inl (by rw [List.singleton_append, rowText_cons, Operator.text_of_not_isSum other, rowText_none])
    rw [List.singleton_append, rowText_cons]
    rcases faithful behind tree mid second with other | ⟨taken', rfl, constant', text⟩
    · exact Or.inl (by rw [show tree.constantText = none from other, Operator.text_none, rowText_none])
    · have both : op.text (some (stringsText taken)) tree.constantText = some (stringsText (taken ++ p :: taken')) := by
        rw [id_eq] at text
        rw [text, Operator.text_of_isSum isSum, stringsText_append, stringsText_symbol plus]
      rw [both]
      refine (ih (.sum constant plus constant')).imp id ?_
      rintro ⟨more, rfl, constant, text⟩
      exact ⟨p :: (taken' ++ more), by simp, by simpa using constant, by simpa using text⟩

theorem expression_faithful {self : Rules} (lambda : Bool) (faithful : Faithful (self _ (.operand lambda)) id) :
    Faithful (expression self lambda) id := by
  intro ts tree rest read
  obtain ⟨first, mid, start, read⟩ := bind_some read
  obtain ⟨row, mid', repeated, read⟩ := bind_some read
  obtain ⟨asks, mid'', sign, read⟩ := bind_some read
  cases asks with
  | true =>
    -- A question mark makes the whole expression a choice.
    exact Or.inl (holds_of_read read (gives_bind _ fun _ => gives_bind _ fun _ => gives_bind _ fun _ => gives_pure rfl))
  | false =>
    cases read
    obtain rfl := taken_false sign
    unfold Tree.IsReadFrom Tree.IsOther
    rw [id_eq, constantText_joinOperands]
    rcases faithful ts first mid start with other | ⟨taken, rfl, constant, text⟩
    · exact Or.inl (by rw [show first.constantText = none from other, rowText_none])
    · rw [show first.constantText = _ from text]
      refine (rowText_repeats faithful (many_some repeated) constant).imp id ?_
      rintro ⟨more, rfl, constant, text⟩
      exact ⟨taken ++ more, by rw [List.append_assoc], constant, text⟩

/-- The rules read expressions so. -/
theorem rules_faithful (depth : Nat) (lambda : Bool) :
    Faithful (rules depth _ (.expression lambda)) id ∧ Faithful (rules depth _ (.operand lambda)) id := by
  induction depth generalizing lambda with
  | zero => exact ⟨faithful_of_gives (gives_failure _), faithful_of_gives (gives_failure _)⟩
  | succ depth ih => exact ⟨expression_faithful lambda (ih lambda).2, operand_faithful lambda (ih true).1⟩

end RouteScript.Java
