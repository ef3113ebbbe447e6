import RouteScript.Java.Type

/-!
# Java expressions

Operators bind by rank and to the left. A name, a field or an element of an array that an assignment
sign follows takes the whole expression after the sign.
-/

namespace RouteScript.Java

open Java.Parser

def expressionWords : List Text :=
  let words : List Text := ["new", "this", "super", "true", "false", "null", "switch"]
  primitives ++ words

/-! ### Operators -/

/-- An operator between two operands. Operators of higher rank bind first. -/
structure Operator where
  rank : Nat
  isSum : Bool
  deriving DecidableEq, Repr

def Operator.tree (op : Operator) (left right : Tree) : Tree :=
  if op.isSum then .sum left right else .other [left, right]

def symbolRanks : List (Text × Nat) :=
  [("||", 1), ("&&", 2), ("|", 3), ("^", 4), ("&", 5), ("==", 6), ("!=", 6), ("<", 7), ("<=", 7),
    ("<<", 8), ("+", 9), ("-", 9), ("*", 10), ("/", 10), ("%", 10)]

def angleOperator : Parser Operator :=
  -- A closing angle bracket is a token of its own, for the sake of type arguments.
  (do adjacent [">", ">", ">"]; return ⟨8, false⟩) <|>
  (do adjacent [">", ">"]; return ⟨8, false⟩) <|>
  (do adjacent [">", "="]; return ⟨7, false⟩) <|>
  (do symbol ">"; return ⟨7, false⟩)

def typeTestRank : Nat := 7

def operator : Parser Operator :=
  angleOperator <|> do
    let t ← tokenIf (·.kind = .symbol)
    match symbolRanks.lookup t.text with
    | some rank => return ⟨rank, t.text = "+"⟩
    | none => failure

/-- Joins the operand with the pending ones whose operators bind at least as strongly as `rank`. -/
def joinPending (rank : Nat) : List (Tree × Operator) → Tree → List (Tree × Operator) × Tree
  | (left, op) :: below, right =>
    if rank ≤ op.rank then joinPending rank below (op.tree left right)
    else ((left, op) :: below, right)
  | [], right => ([], right)

def joinOperands (first : Tree) (rest : List (Operator × Tree)) : Tree :=
  let (pending, last) := rest.foldl (fun (pending, right) (op, operand) =>
    let (pending, left) := joinPending op.rank pending right
    ((left, op) :: pending, operand)) (([] : List (Tree × Operator)), first)
  (joinPending 0 pending last).2

/-! ### Patterns -/

def recordPattern (self : Rules) : Parser (List Tree) := do
  let type ← simpleType self expressionWords
  let parts ← between "(" ")" <| option <| separated "," <|
    self _ .pattern <|> (do word "_"; return [])
  return type ++ parts

def typePattern (self : Rules) : Parser (List Tree) := do
  let type ← self _ (.typeName expressionWords)
  let _ ← anyName
  return type

def pattern (self : Rules) : Parser (List Tree) := recordPattern self <|> typePattern self

def typeTest (self : Rules) : Parser (Operator × Tree) := do
  word "instanceof"
  let _ ← taken (word "final")
  let parts ← recordPattern self <|> do
    let type ← markedType self
    let _ ← option do return [← nameOtherThan ["instanceof"]]
    return type
  return (⟨typeTestRank, false⟩, .other parts)

/-! ### Calls and creation -/

def oneExpression (self : Rules) : Parser (List Tree) := do return [← self _ (.expression true)]

def arguments (self : Rules) : Parser (List Tree) :=
  between "(" ")" (option (separated "," (oneExpression self)))

def initializer (self : Rules) : Parser (List Tree) :=
  braced (self _ .initializer) <|> oneExpression self

def sizedDimension (self : Rules) : Parser (List Tree) := do
  let before ← markers self
  let size ← between "[" "]" (oneExpression self)
  return before ++ size

def creation (self : Rules) : Parser (List Tree) := do
  word "new"
  let before ← markers self
  let arguments' ← option (typeArguments self)
  let type ← simpleType self primitives
  let rest ←
    (do return (← arguments self) ++ (← option (self _ .classBody))) <|>
    (do
      let sizes ← sizedDimension self
      return sizes ++ (← many (sizedDimension self)) ++ (← dimensions self)) <|>
    (do
      if !(← look 0 fun t => isSymbol "[" t || isSymbol "@" t) then failure
      return (← dimensions self) ++ (← braced (self _ .initializer)))
  return before ++ arguments' ++ type ++ rest

/-! ### Primary expressions -/

/-- A primary expression, and whether something can be assigned to it. -/
structure Primary where
  tree : Tree
  assignable : Bool

def literal : Parser Tree := do
  let t ← tokenIf fun t => t.kind ≠ .word && t.kind ≠ .symbol
  return if t.kind = .string then .literal t.text else .other []

def typeExpression (self : Rules) : Parser Tree := do
  let type ← self _ (.typeName expressionWords)
  if ← look 0 (isSymbol "::") then return .other type
  else
    symbol "."
    word "class"
    return .other type

def namedPrimary (self : Rules) : Parser Primary := do
  let name ← nameOtherThan expressionWords
  (do
    let args ← arguments self
    return ⟨.call none name.text name.start args, false⟩) <|>
    return ⟨.other [], true⟩

def primaryStart (self : Rules) : Parser Primary :=
  (do return ⟨← literal, false⟩) <|>
  (do return ⟨← typeExpression self, false⟩) <|>
  namedPrimary self <|>
  (do return ⟨.grouped (← between "(" ")" (self _ (.expression true))), false⟩) <|>
  (do return ⟨.other (← creation self), false⟩) <|>
  (do
    let t ← tokenIf fun t => isWord "this" t || isWord "true" t || isWord "false" t || isWord "null" t ||
      isWord "super" t
    -- `super` alone is no expression.
    if t.text = "super" then
      if !(← look 0 fun t => isSymbol "." t || isSymbol "::" t) then failure
    return ⟨.other [], false⟩)

def afterPoint (self : Rules) (receiver : Tree) : Parser Primary := do
  symbol "."
  (do return ⟨.other (receiver :: (← creation self)), false⟩) <|>
    (do word "this"; return ⟨.other [receiver], true⟩) <|>
    (do
      word "super"
      if !(← look 0 fun t => isSymbol "." t || isSymbol "::" t) then failure
      return ⟨.other [receiver], false⟩) <|>
    (do
      let types ← option (typeArguments self)
      let name ← nameOtherThan wordsAfterPoint
      let args ← arguments self
      let call : Tree := .call (some receiver) name.text name.start args
      return ⟨if types.isEmpty then call else .other (call :: types), false⟩) <|>
    (do
      let _ ← nameOtherThan wordsAfterPoint
      return ⟨.other [receiver], true⟩) <|>
    (do
      let _ ← tokenIf (·.kind = .string)
      return ⟨.other [receiver], false⟩)

def primaryStep (self : Rules) (p : Primary) : Parser Primary :=
  afterPoint self p.tree <|>
  (do return ⟨.other (p.tree :: (← between "[" "]" (oneExpression self))), true⟩) <|>
  (do
    symbol "::"
    let types ← option (typeArguments self)
    let _ ← anyName
    return ⟨.other (p.tree :: types), false⟩)

def primary (self : Rules) : Parser Primary := do repeated (primaryStep self) (← primaryStart self)

def assignment : Parser Unit :=
  (do
    let t ← tokenIf (·.kind = .symbol)
    let signs : List Text := ["=", "+=", "-=", "*=", "/=", "&=", "|=", "^=", "%=", "<<="]
    if !signs.contains t.text then failure) <|>
  adjacent [">", ">", "="] <|> adjacent [">", ">", ">", "="]

def primaryOperand (self : Rules) (lambda : Bool) : Parser Tree := do
  let p ← primary self
  let tree ← (do
    if !p.assignable then failure
    assignment
    return .other [p.tree, ← self _ (.expression lambda)]) <|> return p.tree
  repeated (fun t => do
    let _ ← tokenIf fun s => isSymbol "++" s || isSymbol "--" s
    return .other [t]) tree

/-! ### Parameters and lambdas -/

def modifierWords : List Text :=
  ["public", "protected", "private", "abstract", "static", "final", "strictfp", "default",
    "synchronized", "native", "transient", "volatile"]

/-- A word that modifies a declaration. `sealed` does so only before another word. -/
def modifierWord : Parser Unit :=
  (do let _ ← tokenIf fun t => t.kind = .word && modifierWords.contains t.text) <|>
  (do
    word "sealed"
    if !(← look 0 (·.kind = .word)) then failure) <|>
  (do
    word "non"
    symbol "-"
    word "sealed")

def modifiers (self : Rules) : Parser (List Tree) :=
  many (self _ .marker <|> do modifierWord; return [])

def parameter (self : Rules) : Parser (List Tree) := do
  let before ← modifiers self
  let type ← self _ (.typeName primitives)
  let rest ←
    (do
      symbol "..."
      let marks ← markers self
      let _ ← anyName
      return marks ++ (← dimensions self)) <|>
    (do
      let _ ← many do
        let name ← anyName
        symbol "."
        return [name]
      word "this"
      return []) <|>
    (do
      let _ ← anyName
      dimensions self)
  return before ++ type ++ rest

def parameters (self : Rules) : Parser (List Tree) :=
  between "(" ")" (option (separated "," (parameter self)))

/-- The parenthesis that closes the `depth` open ones comes before an arrow. -/
def arrowFollows (depth : Nat) : List Token → Bool
  | [] => false
  | t :: rest =>
    if isSymbol "(" t then arrowFollows (depth + 1) rest
    else if isSymbol ")" t then
      if depth ≤ 1 then rest.head?.any (isSymbol "->") else arrowFollows (depth - 1) rest
    else arrowFollows depth rest

def lambdaParameters (self : Rules) : Parser (List Tree) :=
  (do
    let _ ← nameOtherThan expressionWords
    return []) <|>
  parameters self <|>
  between "(" ")" (separated "," do
    let _ ← anyName
    return [])

def lambdaExpression (self : Rules) : Parser Tree := do
  let ts ← get
  -- A lambda is told by its arrow before anything of it is read.
  if !((ts.head?.any (isSymbol "(") && arrowFollows 0 ts) || ts[1]?.any (isSymbol "->")) then failure
  let before ← lambdaParameters self
  symbol "->"
  let body ← self _ .block <|> oneExpression self
  return .other (before ++ body)

/-! ### Casts -/

def startsCastOperand (t : Token) : Bool :=
  match t.kind with
  | .word => t.text ≠ "instanceof"
  | .symbol => t.text = "(" || t.text = "!" || t.text = "~"
  | _ => true

def cast (self : Rules) (lambda : Bool) : Parser Tree := do
  symbol "("
  let simple := (← look 0 fun t => t.kind = .word && primitives.contains t.text) &&
    (← look 1 (isSymbol ")"))
  let types ← separated "&" do
    return (← markers self) ++ (← self _ (.typeName expressionWords))
  symbol ")"
  -- A sign behind a parenthesized name belongs to a sum.
  if !simple && !(← look 0 startsCastOperand) then failure
  return .other (types ++ [← self _ (.operand lambda)])

/-! ### Switches -/

def condition (self : Rules) : Parser (List Tree) := between "(" ")" (oneExpression self)

def guard (self : Rules) : Parser (List Tree) := do
  word "when"
  return [← self _ (.expression false)]

def caseItems (self : Rules) : Parser (List Tree) :=
  (do
    let p ← self _ .pattern
    if !(← look 0 fun t => isSymbol "->" t || isSymbol ":" t || isWord "when" t) then failure
    return p) <|>
  separated "," ((do word "default"; return []) <|> do return [← self _ (.expression false)])

def switchLabel (self : Rules) : Parser (List Tree) :=
  (do
    word "case"
    return (← caseItems self) ++ (← option (guard self))) <|>
  (do word "default"; return [])

def throwStatement (self : Rules) : Parser (List Tree) := do
  word "throw"
  let e ← oneExpression self
  symbol ";"
  return e

def expressionStatement (self : Rules) : Parser (List Tree) := do
  let e ← oneExpression self
  symbol ";"
  return e

def switchRule (self : Rules) : Parser (List Tree) := do
  let label ← switchLabel self
  symbol "->"
  return label ++ (← self _ .block <|> throwStatement self <|> expressionStatement self)

def switchGroup (self : Rules) : Parser (List Tree) := do
  let label ← switchLabel self
  symbol ":"
  return label ++ (← many (self _ .statement))

/-- A switch. It holds rules only or groups only. -/
def switchExpression (self : Rules) : Parser Tree := do
  word "switch"
  let value ← condition self
  let body ← between "\x7b" "\x7d" <|
    (do
      let rules ← many (switchRule self)
      if ← look 0 (isSymbol "\x7d") then return rules else failure) <|>
    many (switchGroup self)
  return .other (value ++ body)

/-! ### Expressions -/

def signed (self : Rules) (lambda : Bool) : Parser Tree := do
  let signs : List Text := ["+", "-", "!", "~", "++", "--"]
  let _ ← tokenIf fun t => t.kind = .symbol && signs.contains t.text
  return .other [← self _ (.operand lambda)]

def operand (self : Rules) (lambda : Bool) : Parser Tree :=
  signed self lambda <|>
  (if lambda then lambdaExpression self else failure) <|>
  cast self lambda <|>
  switchExpression self <|>
  primaryOperand self lambda

def expression (self : Rules) (lambda : Bool) : Parser Tree := do
  let first ← self _ (.operand lambda)
  let rest ← many <|
    (do return [← typeTest self]) <|>
    (do
      let op ← operator
      return [(op, ← self _ (.operand lambda))])
  let tree := joinOperands first rest
  if ← taken (symbol "?") then
    let yes ← self _ (.expression true)
    symbol ":"
    return .other [tree, yes, ← self _ (.expression lambda)]
  else return tree

end RouteScript.Java
