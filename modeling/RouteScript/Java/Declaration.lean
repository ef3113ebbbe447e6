import RouteScript.Java.Expression

/-!
# Java declarations

Variables, methods and types.
-/

namespace RouteScript.Java

open Java.Parser

/-! ### Variables -/

def variableDeclarator (self : Rules) (words : List Text) : Parser (List Tree) := do
  let _ ← nameOtherThan words
  let marks ← dimensions self
  let value ← option do
    symbol "="
    self _ .initializer
  return marks ++ value

/-- Variables of one type up to a semicolon. The type begins with none of the first words, and the
variables have none of the second as their names. -/
def variableDeclaration (self : Rules) (typeWords nameWords : List Text) : Parser (List Tree) := do
  let type ← self _ (.typeName typeWords)
  let declared ← separated "," (variableDeclarator self nameWords)
  symbol ";"
  return type ++ declared

/-! ### Methods -/

def throwsClause (self : Rules) : Parser (List Tree) := do
  word "throws"
  separated "," (markedType self)

def methodFromHeader (self : Rules) (words : List Text) : Parser (List Tree) := do
  let before ← option do
    return (← typeParameters self) ++ (← markers self)
  let type ← self _ (.typeName words)
  let _ ← anyName
  let params ← parameters self
  let marks ← dimensions self
  let thrown ← option (throwsClause self)
  let body ← self _ .block <|> do symbol ";"; return []
  return before ++ type ++ params ++ marks ++ thrown ++ body

def constructorCall (self : Rules) : Parser (List Tree) := do
  let before ←
    (do
      let types ← option (typeArguments self)
      let _ ← tokenIf fun t => isWord "this" t || isWord "super" t
      return types) <|>
    (do
      let first ← primaryStart self
      let outer ← repeated (fun (p : Primary) => do
        if (← look 0 (isSymbol ".")) && (← look 1 (isWord "super")) then failure
        primaryStep self p) first
      symbol "."
      let types ← option (typeArguments self)
      word "super"
      return outer.tree :: types)
  let args ← arguments self
  symbol ";"
  return before ++ [.other args]

def constructorFromHeader (self : Rules) (words : List Text) : Parser (List Tree) := do
  let before ← option (typeParameters self)
  let _ ← nameOtherThan words
  let params ← parameters self
  let thrown ← option (throwsClause self)
  let body ← between "\x7b" "\x7d" do
    let call ← option (constructorCall self)
    return call ++ (← many (self _ .statement))
  return before ++ params ++ thrown ++ body

/-! ### Types -/

def typesAfter (self : Rules) (w : Text) : Parser (List Tree) := do
  word w
  separated "," (markedType self)

def enumConstant (self : Rules) : Parser (List Tree) := do
  let before ← modifiers self
  let _ ← anyName
  let args ← option do return [.other (← arguments self)]
  return before ++ args ++ (← option (self _ .classBody))

def memberWords : List Text :=
  let words : List Text := ["class", "interface", "enum"]
  primitives ++ modifierWords ++ words

def typeBody (self : Rules) (kind : TypeKind) : Parser (List Tree) :=
  between "\x7b" "\x7d" (many (self _ (.member kind)))

def typeHeader (self : Rules) : Parser (List Tree) := do
  let types ← option (typeParameters self)
  let extended ← option (typesAfter self "extends")
  let implemented ← option (typesAfter self "implements")
  let permitted ← option (typesAfter self "permits")
  return types ++ extended ++ implemented ++ permitted

def enumBody (self : Rules) : Parser (List Tree) :=
  between "\x7b" "\x7d" do
    let constants ← option (separated "," (enumConstant self))
    let _ ← taken (symbol ",")
    let members ← option do
      symbol ";"
      many (self _ (.member .classType))
    return constants ++ members

def typeFromKeyword (self : Rules) : Parser TypeDeclaration :=
  (do
    word "class"
    let name ← anyName
    let header ← typeHeader self
    return ⟨.classType, name.text, header ++ (← typeBody self .classType)⟩) <|>
  (do
    word "interface"
    let name ← anyName
    let header ← typeHeader self
    return ⟨.interfaceType, name.text, header ++ (← typeBody self .interfaceType)⟩) <|>
  (do
    symbol "@"
    word "interface"
    let name ← anyName
    return ⟨.markerType, name.text, ← typeBody self .markerType⟩) <|>
  (do
    word "record"
    let name ← anyName
    let types ← option (typeParameters self)
    let params ← parameters self
    let interfaces ← option (typesAfter self "implements")
    return ⟨.recordType, name.text, types ++ params ++ interfaces ++ (← typeBody self .classType)⟩) <|>
  (do
    word "enum"
    let name ← anyName
    let interfaces ← option (typesAfter self "implements")
    return ⟨.enumType, name.text, interfaces ++ (← enumBody self)⟩)

def typeDeclaration (self : Rules) : Parser TypeDeclaration := do
  let before ← modifiers self
  let declared ← typeFromKeyword self
  return { declared with parts := before ++ declared.parts }

def markerElement (self : Rules) : Parser (List Tree) := do
  let type ← self _ (.typeName memberWords)
  let _ ← anyName
  symbol "("
  symbol ")"
  let marks ← dimensions self
  let value ← option do
    word "default"
    self _ .elementValue
  symbol ";"
  return type ++ marks ++ value

/-- A constructor, or the body of the constructor of a record. -/
def constructor (self : Rules) : Parser (List Tree) :=
  constructorFromHeader self memberWords <|> do
    let _ ← nameOtherThan memberWords
    self _ .block

def initialBlock (self : Rules) : Parser (List Tree) := do
  let _ ← taken (word "static")
  self _ .block

def memberFromHeader (self : Rules) (kind : TypeKind) : Parser (List Tree) :=
  (do return (← typeFromKeyword self).parts) <|>
  (match kind with
    | .markerType => markerElement self
    | .interfaceType => methodFromHeader self memberWords
    | _ => methodFromHeader self memberWords <|> constructor self) <|>
  variableDeclaration self memberWords []

def member (self : Rules) (kind : TypeKind) : Parser (List Tree) :=
  (do symbol ";"; return []) <|>
  (if kind = .classType then initialBlock self else failure) <|>
  (do return (← modifiers self) ++ (← memberFromHeader self kind))

end RouteScript.Java
