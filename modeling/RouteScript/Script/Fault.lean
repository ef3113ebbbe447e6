import RouteScript.Text.CodePoint

/-!
# What can be wrong with a script
-/

namespace RouteScript

inductive SyntaxCause where
  | emptyFunction
  | unclosedFunction
  | unclosedLiteral (quote : CodePoint)
  | unexpectedCharacter (c : CodePoint)
  | emptyExpression
  | emptyPredicate
  | expectedLogical (token : Text)
  | danglingLogical (operator : Text)
  | missingRightOperand (operator : Text)
  | expectedOperand (token : Text)
  | invalidTypeName (name : Text)
  | unknownFunction (expression : Text)
  | strayChain (expression chain accessor : Text)
  deriving DecidableEq, Repr

/-- A malformed script: the cause and the index of the code point it is about. -/
structure SyntaxFault where
  cause : SyntaxCause
  index : Nat
  deriving DecidableEq, Repr

/-- Why a script has no code: it is malformed, or it holds an integer of too many digits. -/
inductive ScriptFault where
  | malformed (fault : SyntaxFault)
  | oversizedInteger (digits : Nat)
  deriving DecidableEq, Repr

def SyntaxCause.message : SyntaxCause → Text
  | .emptyFunction => "Empty function"
  | .unclosedFunction => "Unclosed function, expected '\x7d'"
  | .unclosedLiteral quote => "Unclosed literal, expected " ++ [quote]
  | .unexpectedCharacter c => "Unexpected character '" ++ [c] ++ "'"
  | .emptyExpression => "Empty expression"
  | .emptyPredicate => "Empty predicate"
  | .expectedLogical token => "Unexpected token '" ++ token ++ "', expected && or ||"
  | .danglingLogical operator => "Dangling logical operator '" ++ operator ++ "'"
  | .missingRightOperand operator => "Missing right operand for operator '" ++ operator ++ "'"
  | .expectedOperand token => "Unexpected token '" ++ token ++ "', expected an operand"
  | .invalidTypeName name => "Invalid type name '" ++ name ++ "'"
  | .unknownFunction expression => "Unknown function '" ++ expression ++ "'"
  | .strayChain expression chain accessor =>
    "Invalid function '" ++ expression ++ "': unexpected '" ++ chain ++ "' after " ++ accessor

def SyntaxCause.messageAt (cause : SyntaxCause) (index : Int) : Text :=
  cause.message ++ " at index " ++ Text.ofInt index

def SyntaxFault.message (f : SyntaxFault) : Text := f.cause.messageAt f.index

def maxIntegerDigits : Nat := 4300

def oversizedIntegerMessage (digits : Nat) : Text :=
  "Exceeds the limit (" ++ Text.ofNat maxIntegerDigits ++
    " digits) for integer string conversion: value has " ++ Text.ofNat digits ++
    " digits; use sys.set_int_max_str_digits() to increase the limit"

def ScriptFault.message : ScriptFault → Text
  | .malformed fault => fault.message
  | .oversizedInteger digits => oversizedIntegerMessage digits

end RouteScript
