import RouteScript.Xml.Source

/-!
# Faults of XML documents
-/

namespace RouteScript.Xml

inductive Cause where
  | unexpected
  | noElement
  | invalidToken
  | unclosedToken
  | partialCharacter
  | tagMismatch
  | duplicateAttribute
  | junkAfterRoot
  | parameterReference
  | undefinedEntity
  | recursiveEntity
  | asynchronousEntity
  | invalidCharacterNumber
  | binaryEntity
  | externalEntityInAttribute
  | misplacedDeclaration
  | wrongEncoding
  | unclosedCdata
  | unboundPrefix
  | undeclaredPrefix
  | malformedDeclaration
  | malformedPublicId
  | reservedXmlPrefix
  | reservedXmlnsPrefix
  | reservedNamespace
  | unresolvedEntity (name : Text)
  deriving DecidableEq, Repr

def Cause.message : Cause → Text
  | .unexpected => "syntax error"
  | .noElement => "no element found"
  | .invalidToken => "not well-formed (invalid token)"
  | .unclosedToken => "unclosed token"
  | .partialCharacter => "partial character"
  | .tagMismatch => "mismatched tag"
  | .duplicateAttribute => "duplicate attribute"
  | .junkAfterRoot => "junk after document element"
  | .parameterReference => "illegal parameter entity reference"
  | .undefinedEntity => "undefined entity"
  | .recursiveEntity => "recursive entity reference"
  | .asynchronousEntity => "asynchronous entity"
  | .invalidCharacterNumber => "reference to invalid character number"
  | .binaryEntity => "reference to binary entity"
  | .externalEntityInAttribute => "reference to external entity in attribute"
  | .misplacedDeclaration => "XML or text declaration not at start of entity"
  | .wrongEncoding => "encoding specified in XML declaration is incorrect"
  | .unclosedCdata => "unclosed CDATA section"
  | .unboundPrefix => "unbound prefix"
  | .undeclaredPrefix => "must not undeclare prefix"
  | .malformedDeclaration => "XML declaration not well-formed"
  | .malformedPublicId => "illegal character(s) in public id"
  | .reservedXmlPrefix =>
    "reserved prefix (xml) must not be undeclared or bound to another namespace name"
  | .reservedXmlnsPrefix => "reserved prefix (xmlns) must not be declared or undeclared"
  | .reservedNamespace => "prefix must not be bound to one of the reserved namespace names"
  | .unresolvedEntity name => "undefined entity &" ++ name ++ ";"

/-- A fault: what is wrong, and the rest of the document from where it is wrong. -/
structure Fault where
  cause : Cause
  rest : Source
  deriving DecidableEq, Repr

def Fault.message (document : Source) (f : Fault) : Text :=
  let before := document.take (document.length - f.rest.length)
  let (line, column) := lineAndColumn 1 0 before
  f.cause.message ++ ": line " ++ Text.ofNat line ++ ", column " ++ Text.ofNat column

end RouteScript.Xml
