import RouteScript.Java.Parser

/-!
# Java types and markers

Types, type arguments and the markers (`@Name`) that stand before declarations and types. The trees of
a type are those of the expressions in its markers.
-/

namespace RouteScript.Java

open Java.Parser

def primitives : List Text :=
  ["byte", "short", "int", "long", "char", "float", "double", "boolean", "void"]

def wordsAfterPoint : List Text := ["class", "new", "this", "super"]

/-- Names with points between them: the offsets where they begin and end. -/
def qualifiedName : Parser (Nat × Nat) := do
  let first ← anyName
  repeated (fun (start, _) => do
    symbol "."
    let next ← anyName
    return (start, next.stop)) (first.start, first.stop)

def markers (self : Rules) : Parser (List Tree) := many (self _ .marker)

def markerValues (self : Rules) : Parser (List Tree) :=
  between "(" ")" <|
    (separated "," do
      let _ ← anyName
      symbol "="
      self _ .elementValue) <|>
    option (self _ .elementValue)

def marker (self : Rules) : Parser (List Tree) := do
  let sign ← tokenIf (isSymbol "@")
  if ← look 0 fun t => isWord "interface" t && t.start = sign.stop then failure
  let _ ← qualifiedName
  option (markerValues self)

def braced (p : Parser (List Tree)) : Parser (List Tree) :=
  between "\x7b" "\x7d" do
    let values ← option (separated "," p)
    let _ ← taken (symbol ",")
    return values

def elementValue (self : Rules) : Parser (List Tree) :=
  braced (self _ .elementValue) <|> self _ .marker <|> do return [← self _ (.expression true)]

def markedType (self : Rules) : Parser (List Tree) := do
  return (← markers self) ++ (← self _ (.typeName primitives))

def wildcard (self : Rules) : Parser (List Tree) := do
  let before ← markers self
  symbol "?"
  let bound ← option do
    word "extends" <|> word "super"
    markedType self
  return before ++ bound

def typeArguments (self : Rules) : Parser (List Tree) :=
  between "<" ">" (option (separated "," (wildcard self <|> markedType self)))

def dimensions (self : Rules) : Parser (List Tree) :=
  many do
    let before ← markers self
    symbol "["
    symbol "]"
    return before

/-- A type without brackets. The first name is none of the given words. -/
def simpleType (self : Rules) (words : List Text) : Parser (List Tree) :=
  (do
    let _ ← tokenIf fun t => t.kind = .word && primitives.contains t.text
    return []) <|> do
    let _ ← nameOtherThan words
    let arguments ← option (typeArguments self)
    repeated (fun before => do
      symbol "."
      let marks ← markers self
      let _ ← nameOtherThan wordsAfterPoint
      return before ++ marks ++ (← option (typeArguments self))) arguments

def typeName (self : Rules) (words : List Text) : Parser (List Tree) := do
  return (← simpleType self words) ++ (← dimensions self)

def typeParameters (self : Rules) : Parser (List Tree) :=
  between "<" ">" <| separated "," do
    let before ← markers self
    let _ ← anyName
    let bound ← option do
      word "extends"
      separated "&" (markedType self)
    return before ++ bound

end RouteScript.Java
