import RouteScript.Java.Token
import RouteScript.Java.Tree

/-!
# Reading Java tokens

A parser takes tokens from the front of a list or fails. The rules of the grammar refer to one
another by name (`Rule`), and a rule is given the reader of all rules (`Rules`), so that every rule is
a plain definition.
-/

namespace RouteScript.Java

abbrev Parser := StateT (List Token) Option

namespace Parser

def isSymbol (s : Text) (t : Token) : Bool := t.kind = .symbol && t.text = s

def isWord (w : Text) (t : Token) : Bool := t.kind = .word && t.text = w

def look (n : Nat) (p : Token → Bool) : Parser Bool := return (← get)[n]?.any p

def tokenIf (p : Token → Bool) : Parser Token := fun ts =>
  match ts with
  | t :: rest => if p t then some (t, rest) else none
  | [] => none

def symbol (s : Text) : Parser Unit := do let _ ← tokenIf (isSymbol s)

def word (w : Text) : Parser Unit := do let _ ← tokenIf (isWord w)

def nameOtherThan (words : List Text) : Parser Token :=
  tokenIf fun t => t.kind = .word && !words.contains t.text

def anyName : Parser Token := nameOtherThan []

/-- Whether the parser succeeds; if not, nothing is taken. -/
def taken (p : Parser Unit) : Parser Bool := (do p; return true) <|> return false

def option {α : Type} (p : Parser (List α)) : Parser (List α) := p <|> return []

/-- Goes on while `p` takes tokens, which it turns into the next value. -/
def iterate {α : Type} (p : α → Parser α) (a : α) (ts : List Token) : α × List Token :=
  match p a ts with
  | none => (a, ts)
  -- A round that takes no token would go on for ever, and ends the repetition.
  | some (b, rest) => if rest.length < ts.length then iterate p b rest else (a, ts)
termination_by ts.length

def repeated {α : Type} (p : α → Parser α) (a : α) : Parser α := fun ts => some (iterate p a ts)

def many {α : Type} (p : Parser (List α)) : Parser (List α) :=
  repeated (fun before => do return before ++ (← p)) []

def separated {α : Type} (s : Text) (p : Parser (List α)) : Parser (List α) := do
  let first ← p
  repeated (fun before => do symbol s; return before ++ (← p)) first

def between {α : Type} (before after : Text) (p : Parser α) : Parser α := do
  symbol before
  let a ← p
  symbol after
  return a

def adjacent : List Text → Parser Unit
  | [] => pure ()
  | [s] => symbol s
  | s :: rest => do
    let first ← tokenIf (isSymbol s)
    if ← look 0 fun t => t.start = first.stop then adjacent rest else failure

end Parser

/-- The rules that other rules refer to, each with what it gives. An expression may be a lambda or
must not be one, because an arrow follows it. -/
inductive Rule : Type → Type where
  | marker : Rule (List Tree)
  | typeName : List Text → Rule (List Tree)
  | expression : Bool → Rule Tree
  | operand : Bool → Rule Tree
  | initializer : Rule (List Tree)
  | elementValue : Rule (List Tree)
  | pattern : Rule (List Tree)
  | block : Rule (List Tree)
  | statement : Rule (List Tree)
  | classBody : Rule (List Tree)
  | member : TypeKind → Rule (List Tree)

abbrev Rules := (α : Type) → Rule α → Parser α

end RouteScript.Java
