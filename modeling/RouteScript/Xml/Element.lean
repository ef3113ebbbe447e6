import RouteScript.Xml.Doctype
import RouteScript.Xml.Tree

/-!
# Start tags and namespaces

`openElement` gives the full name and the attributes of an element, with the defaults of its
attributes, and the namespaces that its prefixes stand for inside it.
-/

namespace RouteScript.Xml

/-- What the prefixes stand for, the innermost first. The empty prefix is for elements without one. -/
abbrev Bindings := List (Text × Text)

def xmlNamespace : Text := "http://www.w3.org/XML/1998/namespace"

def xmlnsNamespace : Text := "http://www.w3.org/2000/xmlns/"

def firstBindings : Bindings := [("xml", xmlNamespace)]

def bind (bindings : Bindings) (front space : Text) : Except Cause Bindings :=
  if space = [] ∧ front ≠ [] then .error .undeclaredPrefix
  else if front = "xmlns" then .error .reservedXmlnsPrefix
  else if space.contains (.char '}') then .error .unexpected
  else if front = "xml" ∧ space ≠ xmlNamespace then .error .reservedXmlPrefix
  else if front ≠ "xml" ∧ space = xmlNamespace then .error .reservedNamespace
  else if front ≠ "xml" ∧ space = xmlnsNamespace then .error .reservedNamespace
  else .ok ((front, space) :: bindings)

def declaredPrefix? (name : Option Text × Text) : Option Text :=
  match name with
  | (none, n) => if n = "xmlns" then some [] else none
  | (some front, n) => if front = "xmlns" then some n else none

def elementName (bindings : Bindings) (name : Option Text × Text) : Except Cause QName :=
  match name.1 with
  | none =>
    match bindings.lookup [] with
    | some (c :: space) => .ok ⟨some (c :: space), name.2⟩
    | _ => .ok ⟨none, name.2⟩
  | some front =>
    match bindings.lookup front with
    | some space => .ok ⟨some space, name.2⟩
    | none => .error .unboundPrefix

def attributeName (bindings : Bindings) (name : Option Text × Text) : Except Cause QName :=
  match name.1 with
  | none => .ok ⟨none, name.2⟩
  | some _ => elementName bindings name

structure TagState where
  bindings : Bindings
  names : List (Option Text × Text)
  attributes : List ((Option Text × Text) × Text)

def TagState.add (s : TagState) (name : Option Text × Text) (value : Text) : Except Cause TagState :=
  match declaredPrefix? name with
  | some front => do
    let bindings ← bind s.bindings front value
    return { s with bindings, names := name :: s.names }
  | none =>
    return { s with names := name :: s.names, attributes := s.attributes ++ [(name, value)] }

def addWritten (d : Doctype) (element : Option Text × Text) (start : Source) :
    List RawAttribute → TagState → Except Fault TagState
  | [], s => .ok s
  | a :: rest, s => do
    if s.names.contains a.name then throw ⟨.duplicateAttribute, a.place⟩
    let rule := d.rules.find? fun r => r.element = element && r.name = a.name
    let keeps := (rule.map (·.keepsBlanks)).getD true
    let value ← attributeValue d keeps start a.value a.length
    let s ← (s.add a.name value).mapError (⟨·, start⟩)
    addWritten d element start rest s

def addDefaults : List AttributeRule → TagState → Except Cause TagState
  | [], s => .ok s
  | r :: rest, s =>
    match r.value with
    | some value =>
      if s.names.contains r.name then addDefaults rest s
      else do addDefaults rest (← s.add r.name value)
    | none => addDefaults rest s

def fullAttributes (bindings : Bindings) :
    List ((Option Text × Text) × Text) → List (QName × Text) → Except Cause (List (QName × Text))
  | [], done => .ok done
  | (name, value) :: rest, done => do
    let full ← attributeName bindings name
    if full.space.isSome && done.any (·.1 = full) then throw .duplicateAttribute
    fullAttributes bindings rest (done ++ [(full, value)])

/-- An element that is open: the name of its tag, its full name and attributes, what its prefixes stand
for, and what is in it so far, the last first. -/
structure Frame where
  tag : Text
  name : QName
  attributes : List (QName × Text)
  bindings : Bindings
  children : List Node

def writtenName (name : Option Text × Text) : Text :=
  match name.1 with
  | some front => front ++ ":" ++ name.2
  | none => name.2

def openElement (d : Doctype) (bindings : Bindings) (start : Source) (tag : StartTag) :
    Except Fault Frame := do
  let place {α : Type} (e : Except Cause α) : Except Fault α := e.mapError (⟨·, start⟩)
  let s ← addWritten d tag.name start tag.attributes ⟨bindings, [], []⟩
  let s ← place (addDefaults (d.rules.filter (·.element = tag.name)) s)
  let attributes ← place (fullAttributes s.bindings s.attributes [])
  let name ← place (elementName s.bindings tag.name)
  return ⟨writtenName tag.name, name, attributes, s.bindings, []⟩

def Frame.close (f : Frame) : Node := .element f.name f.attributes f.children.reverse

end RouteScript.Xml
