import RouteScript.Files.Path

/-!
# Sites

A site is a script found in a source file, with what is known of its use.
-/

namespace RouteScript

inductive UsageKind where
  | predicate
  | value
  deriving DecidableEq, Repr

inductive Dialect where
  | code
  | document
  deriving DecidableEq, Repr

/-- A script in a source file. The owner is the class that holds it. -/
structure Site where
  script : Text
  kind : UsageKind
  owner : Option Text
  origin : Path
  dialect : Dialect
  deriving DecidableEq, Repr

def UsageKind.label : UsageKind → Text
  | .predicate => "predicate"
  | .value => "value"

def Dialect.label : Dialect → Text
  | .code => "code"
  | .document => "document"

def syntheticOwner : Text := "org.apache.camel.language.csimple.XmlRouteBuilder"

def Site.effectiveOwner (s : Site) : Text :=
  match s.owner with
  | none | some [] => syntheticOwner
  | some owner => owner

def nextNumber (earlier : List Site) (owner : Text) : Nat :=
  (earlier.filter fun s => s.effectiveOwner = owner).length + 1

def numberFrom (earlier : List Site) : List Site → List (Site × Nat)
  | [] => []
  | s :: rest => (s, nextNumber earlier s.effectiveOwner) :: numberFrom (earlier ++ [s]) rest

/-- Each site with its number among the sites of its owner, from 1 on. -/
def numberSites (sites : List Site) : List (Site × Nat) := numberFrom [] sites

end RouteScript
