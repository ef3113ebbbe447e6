import RouteScript.Java.Literal
import RouteScript.Script.Fault
import RouteScript.Text.WordCharacter

/-!
# Function calls

The body of a function is one of a fixed set of names or has one of a fixed set of shapes. `Call` is
what a body means and `Call.code` its Java code. `patterns` recognises the shapes; no body has two of
them, so their order does not matter.
-/

namespace RouteScript.Script

open Java (stringLiteral)

inductive Lookup where
  | header
  | exchangeProperty
  | variable
  | sys
  | sysenv
  deriving DecidableEq, Repr

inductive TypedAccessor where
  | bodyAs
  | mandatoryBodyAs
  | headerAs
  | exchangePropertyAs
  | variableAs
  deriving DecidableEq, Repr

inductive Call where
  | constant (code : Text)
  | lookup (source : Lookup) (key : Text)
  | typed (accessor : TypedAccessor) (key : Option Text) (type chain : Text)
  | date (command : Text) (pattern : Option Text)
  | random (first : Text) (second : Option Text)
  | properties (key : Text) (fallback : Option Text)
  | staticField (type field : Text)
  | empty (kind : Text)
  deriving DecidableEq, Repr

def constants : List (Text × Text) := [
  ("body", "body"),
  ("in.body", "body"),
  ("bodyOneLine", "bodyOneLine(exchange)"),
  ("headers", "message.getHeaders()"),
  ("in.headers", "message.getHeaders()"),
  ("variables", "variables(exchange)"),
  ("exchangeId", "exchange.getExchangeId()"),
  ("id", "message.getMessageId()"),
  ("messageId", "message.getMessageId()"),
  ("exchange", "exchange"),
  ("camelContext", "context"),
  ("camelId", "context.getName()"),
  ("routeId", "routeId(exchange)"),
  ("threadName", "threadName()"),
  ("exception", "exception(exchange)"),
  ("exception.message", "exceptionMessage(exchange)"),
  ("exception.stacktrace", "exceptionStacktrace(exchange)"),
  ("null", "null")]

/-! ### Names -/

def isNameStart (c : CodePoint) : Bool := c.isAsciiLetter || c == .char '_' || c == .char '$'

def isNamePart (c : CodePoint) : Bool := c.isWord || c == .char '$'

def isName : Text → Bool
  | [] => false
  | c :: t => isNameStart c && t.all isNamePart

def isDottedName (t : Text) : Bool := (Text.parts (.char '.') t).all isName

/-- What is left of a reversed type name without the bracket pairs at its end. -/
def dropBrackets : Text → Text
  | .char ']' :: .char '[' :: t => dropBrackets t
  | t => t

def isTypeName (t : Text) : Bool := isDottedName (dropBrackets t.reverse).reverse

/-- `t` without the blanks and then the matching quotes around it. -/
def unquote (t : Text) : Text :=
  let s := Text.strip t
  match s with
  -- One quote alone stands around nothing.
  | q :: _ :: _ =>
    if (q = .char '\'' ∨ q = .char '"') ∧ s.getLast? = some q then Java.inside 1 s else s
  | _ => s

/-! ### Shapes -/

def isOneLine (t : Text) : Bool := !t.contains (.char '\n')

def isInteger : Text → Bool
  | .char '-' :: t => t ≠ [] && t.all CodePoint.isDigit
  | t => t ≠ [] && t.all CodePoint.isDigit

def Lookup.names : Lookup → List Text
  | .header => ["in.headers", "in.header", "headers", "header"]
  | .exchangeProperty => ["exchangeProperty"]
  | .variable => ["variable"]
  | .sys => ["sys"]
  | .sysenv => ["sysenv", "env"]

/-- The key that `rest` asks for: `.key`, `[key]` or `:key`. -/
def lookupKey? : Text → Option Text
  | .char '.' :: key => if key ≠ [] && isOneLine key then some key else none
  | .char ':' :: key => if key ≠ [] && isOneLine key then some key else none
  | .char '[' :: rest =>
    match rest.getLast? with
    | some (.char ']') =>
      let key := rest.dropLast
      if key ≠ [] && isOneLine key then some key else none
    | _ => none
  | _ => none

def lookup? (source : Lookup) (body : Text) : Option Call :=
  source.names.findSome? fun name => do
    let key ← lookupKey? (← Text.after? name body)
    return .lookup source (unquote key)

def TypedAccessor.name : TypedAccessor → Text
  | .bodyAs => "bodyAs"
  | .mandatoryBodyAs => "mandatoryBodyAs"
  | .headerAs => "headerAs"
  | .exchangePropertyAs => "exchangePropertyAs"
  | .variableAs => "variableAs"

def TypedAccessor.isKeyed : TypedAccessor → Bool
  | .bodyAs | .mandatoryBodyAs => false
  | .headerAs | .exchangePropertyAs | .variableAs => true

/-- `type)chain`: the type without the blanks around it, and the chain on one line. -/
def typeAndChain? (t : Text) : Option (Text × Text) := do
  let (inner, chain) ← Text.cutFirst? (.char ')') t
  let type := Text.strip inner
  if isTypeName type && isOneLine chain then some (type, chain) else none

/-- `accessor(type)chain` or `accessor(key, type)chain`. -/
def typed? (accessor : TypedAccessor) (body : Text) : Option Call := do
  let arguments ← Text.after? (accessor.name ++ "(") body
  if accessor.isKeyed then
    let (key, rest) ← Text.cutFirst? (.char ',') arguments
    if key = [] then none
    else
      let (type, chain) ← typeAndChain? rest
      return .typed accessor (some (unquote key)) type chain
  else
    let (type, chain) ← typeAndChain? arguments
    return .typed accessor none type chain

/-- `date:command` or `date:command:pattern`. -/
def date? (body : Text) : Option Call := do
  let rest ← Text.after? "date:" body
  match Text.cutFirst? (.char ':') rest with
  | none => if rest = [] then none else some (.date rest none)
  | some (command, pattern) =>
    if command ≠ [] ∧ pattern ≠ [] ∧ isOneLine pattern then some (.date command (some pattern))
    else none

/-- `random(max)` or `random(min, max)`. -/
def random? (body : Text) : Option Call := do
  let rest ← Text.after? "random(" body
  let (arguments, tail) ← Text.cutFirst? (.char ')') rest
  if tail ≠ [] then none
  else match (Text.parts (.char ',') arguments).map Text.strip with
    | [first] => if isInteger first then some (.random first none) else none
    | [first, second] =>
      if isInteger first && isInteger second then some (.random first (some second)) else none
    | _ => none

/-- `properties:key` or `properties:key:default`. -/
def properties? (body : Text) : Option Call := do
  let rest ← Text.after? "properties:" body
  match Text.cutFirst? (.char ':') rest with
  | none => if rest = [] then none else some (.properties rest none)
  | some (key, fallback) =>
    if key ≠ [] ∧ isOneLine fallback then some (.properties key (some fallback)) else none

/-- `type:Type.field`. -/
def staticField? (body : Text) : Option Call := do
  let rest ← Text.after? "type:" body
  let (type, field) ← Text.cutLast? (.char '.') rest
  if isTypeName type && isName field then some (.staticField type field) else none

/-- `empty(kind)`. -/
def empty? (body : Text) : Option Call := do
  let rest ← Text.after? "empty(" body
  let (inner, tail) ← Text.cutFirst? (.char ')') rest
  let kind := Text.strip inner
  if tail = [] ∧ kind ≠ [] ∧ kind.all CodePoint.isWord then some (.empty kind) else none

def constant? (body : Text) : Option Call := (constants.lookup body).map .constant

def patterns : List (Text → Option Call) := [
  typed? .bodyAs,
  typed? .mandatoryBodyAs,
  typed? .headerAs,
  typed? .exchangePropertyAs,
  typed? .variableAs,
  lookup? .header,
  lookup? .exchangeProperty,
  lookup? .variable,
  lookup? .sys,
  lookup? .sysenv,
  date?,
  random?,
  properties?,
  staticField?,
  empty?]

def call? (body : Text) : Option Call := constant? body <|> patterns.findSome? fun p => p body

/-! ### Code -/

def Lookup.target : Lookup → Text × Text
  | .header => ("header", "message")
  | .exchangeProperty => ("exchangeProperty", "exchange")
  | .variable => ("variable", "exchange")
  | .sys => ("sys", "exchange")
  | .sysenv => ("sysenv", "exchange")

def TypedAccessor.target : TypedAccessor → Text
  | .bodyAs | .mandatoryBodyAs | .headerAs => "message"
  | .exchangePropertyAs | .variableAs => "exchange"

def apply (helper : Text) (arguments : List Text) : Text :=
  helper ++ "(" ++ Text.joinWith ", " arguments ++ ")"

def Call.code : Call → Text
  | .constant code => code
  | .lookup source key => apply source.target.1 [source.target.2, stringLiteral key]
  | .typed accessor key type chain =>
    apply accessor.name
      (accessor.target :: (key.map stringLiteral).toList ++ [type ++ ".class"]) ++ chain
  | .date command pattern =>
    apply "date" ("exchange" :: stringLiteral command :: (pattern.map stringLiteral).toList)
  -- One bound alone is the upper one.
  | .random first none => apply "random" ["exchange", "0", first]
  | .random first (some second) => apply "random" ["exchange", first, second]
  | .properties key fallback =>
    apply "properties" ("exchange" :: stringLiteral key :: (fallback.map stringLiteral).toList)
  | .staticField type field => apply "type" ["exchange", type ++ ".class", stringLiteral field]
  | .empty kind => apply "empty" ["exchange", stringLiteral kind]

/-- The chain after a typed accessor when it does not begin with a point, with the accessor's name. -/
def Call.strayChain? : Call → Option (Text × Text)
  | .typed accessor _ _ chain =>
    if chain = [] ∨ chain.head? = some (.char '.') then none else some (chain, accessor.name)
  | _ => none

def functionCode (body : Text) : Except SyntaxCause Text :=
  let expression := Text.strip body
  match call? expression with
  | none => .error (.unknownFunction expression)
  | some call =>
    match call.strayChain? with
    | some (chain, accessor) => .error (.strayChain expression chain accessor)
    | none => .ok call.code

end RouteScript.Script
