import RouteScript.Java.Statement

/-!
# Java source files

`CompilationUnit.read` reads a source file: its package, and the types that it declares at its top.
-/

namespace RouteScript.Java

open Java.Parser

/-- The rules, where a rule refers to the rules of the reader it is given. -/
def ruleOf (self : Rules) : Rules
  | _, .marker => marker self
  | _, .typeName words => typeName self words
  | _, .expression lambda => expression self lambda
  | _, .operand lambda => operand self lambda
  | _, .initializer => initializer self
  | _, .elementValue => elementValue self
  | _, .pattern => pattern self
  | _, .block => block self
  | _, .statement => statement self
  | _, .classBody => typeBody self .classType
  | _, .member kind => member self kind

def rules : Nat → Rules
  | 0 => fun _ _ => failure
  | depth + 1 => fun α r => ruleOf (rules depth) α r

inductive TopLevel where
  | package (start stop : Nat)
  | type (declared : TypeDeclaration)
  | other

def topLevel (self : Rules) : Parser TopLevel :=
  (do
    let (_, start, stop) ← packageDeclaration self
    return .package start stop) <|>
  (do return .type (← typeDeclaration self)) <|>
  (do
    let _ ← statement self
    return .other) <|>
  (do
    let _ ← modifiers self
    let _ ← methodFromHeader self memberWords
    return .other)

structure CompilationUnit where
  package : Option Text
  types : List TypeDeclaration

def nestingLimit (count : Nat) : Nat := 8 * count + 8

/-- Everything that stands at the top of a source file. A fault is the offset of the first thing that
cannot be read. -/
def topLevels (tokens : List Token) : Except Nat (List TopLevel) :=
  let read := many do return [← topLevel (rules (nestingLimit tokens.length))]
  match read.run tokens with
  | some (items, []) => .ok items
  | some (_, t :: _) => .error t.start
  | none => .error 0

/-- A fault in the grammar of a source file, in or before something that begins on this line. -/
structure GrammarFault where
  line : Nat
  deriving DecidableEq, Repr

def GrammarFault.message (f : GrammarFault) : Text := "syntax error near line " ++ Text.ofNat f.line

def lineOf (source : Text) (offset : Nat) : Nat := (source.take offset).count (.char '\n') + 1

def CompilationUnit.read (source : Text) : Except GrammarFault CompilationUnit :=
  match tokens source >>= topLevels with
  | .error offset => .error ⟨lineOf source offset⟩
  | .ok items =>
    let packages := items.filterMap fun
      | .package start stop => some ((source.drop start).take (stop - start))
      | _ => none
    let types := items.filterMap fun
      | .type declared => some declared
      | _ => none
    .ok ⟨packages.head?, types⟩

end RouteScript.Java
