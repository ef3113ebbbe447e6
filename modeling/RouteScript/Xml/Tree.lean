import RouteScript.Text.CodePoint

/-!
# XML element trees
-/

namespace RouteScript.Xml

structure QName where
  space : Option Text
  name : Text
  deriving DecidableEq, Repr, Inhabited

inductive Node where
  | text (content : Text)
  | element (name : QName) (attributes : List (QName × Text)) (children : List Node)
  deriving Repr, Inhabited

mutual

def Node.content : Node → Text
  | .text t => t
  | .element _ _ children => contentOf children

def contentOf : List Node → Text
  | [] => []
  | n :: ns => n.content ++ contentOf ns

end

structure Element where
  name : QName
  attributes : List (QName × Text)
  children : List Node
  deriving Repr, Inhabited

mutual

/-- The elements in a node in the order of the document. Each has its place: the numbers of the nodes
that lead to it from the top. -/
def Node.elements : Node → List (List Nat × Element)
  | .text _ => []
  | .element name attributes children =>
    ([], ⟨name, attributes, children⟩) :: elementsAmong 0 children

def elementsAmong (i : Nat) : List Node → List (List Nat × Element)
  | [] => []
  | n :: ns => n.elements.map (fun x => (i :: x.1, x.2)) ++ elementsAmong (i + 1) ns

end

def Node.isElement : Node → Bool
  | .text _ => false
  | .element .. => true

def Element.childPlaces (place : List Nat) (e : Element) : List (List Nat) :=
  (e.children.zipIdx.filter fun x => x.1.isElement).map fun x => place ++ [x.2]

def parentsOf (elements : List (List Nat × Element)) : List (List Nat × Element) :=
  elements.flatMap fun x => (x.2.childPlaces x.1).map (·, x.2)

def attribute? (attributes : List (QName × Text)) (name : Text) : Option Text :=
  attributes.lookup ⟨none, name⟩

end RouteScript.Xml
