import RouteScript.Java.Declaration

/-!
# Java statements
-/

namespace RouteScript.Java

open Java.Parser

def statementWords : List Text :=
  let words : List Text :=
    ["if", "while", "for", "do", "break", "continue", "return", "throw", "try", "assert", "class",
      "interface", "enum", "import", "package", "case"]
  expressionWords ++ modifierWords ++ words

/-! ### Packages, imports and modules -/

/-- A package declaration: the trees of its markers, and the offsets between which the name of the
package stands. -/
def packageDeclaration (self : Rules) : Parser (List Tree × Nat × Nat) := do
  let before ← markers self
  word "package"
  let name ← qualifiedName
  symbol ";"
  return (before, name)

def importDeclaration : Parser Unit := do
  word "import"
  let _ ← taken (word "static")
  let _ ← qualifiedName
  let _ ← taken do
    symbol "."
    symbol "*"
  symbol ";"

def namesAfter (w : Text) : Parser Unit := do
  word w
  let _ ← separated "," do return [← qualifiedName]

def moduleDirective : Parser (List Tree) := do
  (do
    word "requires"
    let _ ← many do
      word "transitive" <|> word "static"
      return [()]
    let _ ← qualifiedName) <|>
    (do
      word "exports" <|> word "opens"
      let _ ← qualifiedName
      let _ ← taken (namesAfter "to")) <|>
    (do
      word "uses"
      let _ ← qualifiedName) <|>
    (do
      word "provides"
      let _ ← qualifiedName
      namesAfter "with")
  symbol ";"
  return []

def moduleDeclaration (self : Rules) : Parser (List Tree) := do
  let before ← markers self
  let _ ← taken (word "open")
  word "module"
  let _ ← qualifiedName
  let _ ← between "\x7b" "\x7d" (many moduleDirective)
  return before

/-! ### Branches and loops -/

def ifStatement (self : Rules) : Parser (List Tree) := do
  word "if"
  let c ← condition self
  let yes ← self _ .statement
  let no ← option do
    word "else"
    self _ .statement
  return c ++ yes ++ no

def whileStatement (self : Rules) : Parser (List Tree) := do
  word "while"
  return (← condition self) ++ (← self _ .statement)

def doStatement (self : Rules) : Parser (List Tree) := do
  word "do"
  let body ← self _ .statement
  word "while"
  let c ← condition self
  symbol ";"
  return body ++ c

def eachHeader (self : Rules) : Parser (List Tree) := do
  let before ← modifiers self
  let type ← self _ (.typeName expressionWords)
  let _ ← anyName
  let marks ← dimensions self
  symbol ":"
  return before ++ type ++ marks ++ (← oneExpression self)

def localVariables (self : Rules) : Parser (List Tree) := do
  return (← modifiers self) ++ (← variableDeclaration self statementWords ["instanceof"])

def countHeader (self : Rules) : Parser (List Tree) := do
  let expressions := option (separated "," (oneExpression self))
  let start ← localVariables self <|> do
    let es ← expressions
    symbol ";"
    return es
  let goesOn ← option (oneExpression self)
  symbol ";"
  return start ++ goesOn ++ (← expressions)

def forStatement (self : Rules) : Parser (List Tree) := do
  word "for"
  let header ← between "(" ")" (eachHeader self) <|> between "(" ")" (countHeader self)
  return header ++ (← self _ .statement)

/-! ### Leaving -/

def jumpStatement : Parser (List Tree) := do
  word "break" <|> word "continue"
  let _ ← option do return [← anyName]
  symbol ";"
  return []

def returnStatement (self : Rules) : Parser (List Tree) := do
  word "return"
  let value ← option (oneExpression self)
  symbol ";"
  return value

def yieldStatement (self : Rules) : Parser (List Tree) := do
  word "yield"
  expressionStatement self

def assertStatement (self : Rules) : Parser (List Tree) := do
  word "assert"
  let claim ← oneExpression self
  let message ← option do
    symbol ":"
    oneExpression self
  symbol ";"
  return claim ++ message

/-! ### Exceptions -/

def catchClause (self : Rules) : Parser (List Tree) := do
  word "catch"
  let parameter ← between "(" ")" do
    let before ← modifiers self
    let types ← separated "|" (self _ (.typeName primitives))
    let _ ← anyName
    return before ++ types ++ (← dimensions self)
  return parameter ++ (← self _ .block)

def finallyClause (self : Rules) : Parser (List Tree) := do
  word "finally"
  self _ .block

def resource (self : Rules) : Parser (List Tree) :=
  (do
    let before ← modifiers self
    let type ← self _ (.typeName expressionWords)
    let _ ← nameOtherThan ["instanceof"]
    let marks ← dimensions self
    symbol "="
    return before ++ type ++ marks ++ (← oneExpression self)) <|>
  (do
    let p ← primary self
    if p.assignable then return [p.tree] else failure)

def resources (self : Rules) : Parser (List Tree) :=
  between "(" ")" do
    let rs ← separated ";" (resource self)
    let _ ← taken (symbol ";")
    return rs

/-- A block with handlers. Without resources one handler or a last block has to follow. -/
def tryStatement (self : Rules) : Parser (List Tree) := do
  word "try"
  if ← look 0 (isSymbol "(") then
    let rs ← resources self
    let body ← self _ .block
    let handlers ← many (catchClause self)
    return rs ++ body ++ handlers ++ (← option (finallyClause self))
  else
    let body ← self _ .block
    let handlers ←
      (do
        let first ← catchClause self
        return first ++ (← many (catchClause self)) ++ (← option (finallyClause self))) <|>
      finallyClause self
    return body ++ handlers

/-! ### Statements -/

def block (self : Rules) : Parser (List Tree) :=
  between "\x7b" "\x7d" (many (self _ .statement))

def synchronizedStatement (self : Rules) : Parser (List Tree) := do
  word "synchronized"
  return (← condition self) ++ (← self _ .block)

def labeledStatement (self : Rules) : Parser (List Tree) := do
  let _ ← nameOtherThan statementWords
  symbol ":"
  self _ .statement

/-- An expression whose first word is not the beginning of another statement. -/
def plainExpression (self : Rules) : Parser (List Tree) := do
  if ← look 0 fun t => t.kind = .word && statementWords.contains t.text &&
      !expressionWords.contains t.text then failure
  expressionStatement self

def switchStatement (self : Rules) : Parser (List Tree) := do return [← switchExpression self]

def statement (self : Rules) : Parser (List Tree) :=
  (do symbol ";"; return []) <|>
  self _ .block <|>
  ifStatement self <|>
  whileStatement self <|>
  doStatement self <|>
  forStatement self <|>
  jumpStatement <|>
  returnStatement self <|>
  yieldStatement self <|>
  assertStatement self <|>
  throwStatement self <|>
  tryStatement self <|>
  synchronizedStatement self <|>
  labeledStatement self <|>
  (do return (← typeDeclaration self).parts) <|>
  (do return (← packageDeclaration self).1) <|>
  (do importDeclaration; return []) <|>
  moduleDeclaration self <|>
  localVariables self <|>
  plainExpression self <|>
  switchStatement self

end RouteScript.Java
