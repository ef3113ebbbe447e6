import RouteScript.Proofs.Fallible
import RouteScript.Proofs.Text.Lines
import RouteScript.Route.Extraction

/-!
# Sites of a document

The sites of a document are collected from the list of its elements, with a table of the element around each of them.
They are the sites that a recursion over the document meets, which hands on to the children how the element around them
uses a script (`ofDocument_eq`). The recursion looks at no namespace of an element (`ofNode_bare`).
-/

namespace RouteScript

namespace Xml

/-! ### Places -/

/-- The element at a place. -/
def Node.elementAt? : Node → List Nat → Option Element
  | .text _, _ => none
  | .element name attributes children, [] => some ⟨name, attributes, children⟩
  | .element _ _ children, i :: place => children[i]?.bind fun child => child.elementAt? place

theorem mem_elementsAmong {i : Nat} {ns : List Node} {place : List Nat} {e : Element} :
    (place, e) ∈ elementsAmong i ns ↔
      ∃ j child below, ns[j]? = some child ∧ place = (i + j) :: below ∧ (below, e) ∈ child.elements := by
  induction ns generalizing i with
  | nil => simp [elementsAmong]
  | cons n ns ih =>
    rw [elementsAmong, List.mem_append, ih, List.mem_map]
    constructor
    · rintro (⟨⟨below, e'⟩, member, same⟩ | ⟨j, child, below, present, rfl, member⟩)
      · cases same
        exact ⟨0, n, below, rfl, rfl, member⟩
      · exact ⟨j + 1, child, below, present, by rw [Nat.add_assoc, Nat.add_comm 1 j], member⟩
    · rintro ⟨j, child, below, present, rfl, member⟩
      cases j with
      | zero =>
        cases present
        exact Or.inl ⟨(below, e), member, rfl⟩
      | succ j => exact Or.inr ⟨j, child, below, present, by rw [Nat.add_assoc, Nat.add_comm 1 j], member⟩

theorem mem_elements {n : Node} {place : List Nat} {e : Element} :
    (place, e) ∈ n.elements ↔ n.elementAt? place = some e := by
  induction place generalizing n with
  | nil =>
    cases n with
    | text t => simp [Node.elements, Node.elementAt?]
    | element name attributes children =>
      rw [Node.elements, List.mem_cons, mem_elementsAmong]
      simp [Node.elementAt?, eq_comm]
  | cons i place ih =>
    cases n with
    | text t => simp [Node.elements, Node.elementAt?]
    | element name attributes children =>
      rw [Node.elements, List.mem_cons, mem_elementsAmong, Node.elementAt?, Option.bind_eq_some_iff]
      constructor
      · rintro (impossible | ⟨j, child, below, present, same, member⟩)
        · cases impossible
        · rw [Nat.zero_add] at same
          cases same
          exact ⟨child, present, ih.mp member⟩
      · rintro ⟨child, present, found⟩
        exact Or.inr ⟨i, child, place, present, by rw [Nat.zero_add], ih.mpr found⟩

/-! ### The table of the elements around -/

theorem mem_parentsOf {root : Node} {key : List Nat} {e : Element} :
    (key, e) ∈ parentsOf root.elements ↔
      ∃ place i child, root.elementAt? place = some e ∧ e.children[i]? = some child ∧ child.isElement ∧
        key = place ++ [i] := by
  simp only [parentsOf, Element.childPlaces, List.mem_flatMap, List.mem_map, List.mem_filter]
  constructor
  · rintro ⟨⟨place, e'⟩, member, _, ⟨⟨child, i⟩, ⟨present, inner⟩, rfl⟩, same⟩
    cases same
    exact ⟨place, i, child, mem_elements.mp member, List.mem_zipIdx_iff_getElem?.mp present, inner, rfl⟩
  · rintro ⟨place, i, child, found, present, inner, rfl⟩
    exact ⟨(place, e), mem_elements.mpr found, _, ⟨(child, i), ⟨List.mem_zipIdx_iff_getElem?.mpr present, inner⟩, rfl⟩, rfl⟩

/-- In the table, the elements inside a node at the place `q` have the elements around them. -/
def Links (parents : List (List Nat × Element)) (q : List Nat) (n : Node) : Prop :=
  ∀ place i e child, n.elementAt? place = some e → e.children[i]? = some child → child.isElement →
    parents.lookup (q ++ place ++ [i]) = some e

theorem links_parentsOf (root : Node) : Links (parentsOf root.elements) [] root := by
  intro place i e child found present inner
  have member : (place ++ [i], e) ∈ parentsOf root.elements := mem_parentsOf.mpr ⟨place, i, child, found, present, inner, rfl⟩
  rw [List.nil_append]
  cases looked : (parentsOf root.elements).lookup (place ++ [i]) with
  | none => exact absurd (List.lookup_eq_none_iff.mp looked _ member) (by simp)
  | some e' =>
    obtain ⟨front, behind, split, _⟩ := List.lookup_eq_some_iff.mp looked
    have member' : (place ++ [i], e') ∈ parentsOf root.elements := by simp [split]
    -- The place of the inner element is that of the outer one and one more number.
    obtain ⟨place', i', _, found', _, _, same⟩ := mem_parentsOf.mp member'
    obtain ⟨rfl, _⟩ := List.append_inj' same rfl
    exact found'.symm.trans found

theorem lookup_parentsOf_nil (root : Node) : (parentsOf root.elements).lookup [] = none := by
  rw [List.lookup_eq_none_iff]
  rintro ⟨key, e⟩ member
  obtain ⟨place, i, _, _, _, _, rfl⟩ := mem_parentsOf.mp member
  simp

section Links

variable {parents : List (List Nat × Element)} {q : List Nat} {name : QName} {attributes : List (QName × Text)}
  {children : List Node} {i : Nat} {child : Node}

theorem Links.around (links : Links parents q (.element name attributes children)) (present : children[i]? = some child)
    (inner : child.isElement) : parents.lookup (q ++ [i]) = some ⟨name, attributes, children⟩ := by
  have found := links [] i ⟨name, attributes, children⟩ child rfl present inner
  rwa [List.append_nil] at found

theorem Links.inside (links : Links parents q (.element name attributes children)) (present : children[i]? = some child) :
    Links parents (q ++ [i]) child := by
  intro place k e inner found present' isInner
  have deeper : (Node.element name attributes children).elementAt? (i :: place) = some e := by
    rw [Node.elementAt?, present]
    exact found
  have looked := links (i :: place) k e inner deeper present' isInner
  rwa [List.append_cons q i place] at looked

end Links

/-! ### Namespaces -/

mutual

/-- A node with its elements taken out of their namespaces. -/
def Node.bare : Node → Node
  | .text t => .text t
  | .element name attributes children => .element ⟨none, name.name⟩ attributes (bareAll children)

def bareAll : List Node → List Node
  | [] => []
  | n :: ns => n.bare :: bareAll ns

end

mutual

theorem bare_bare : ∀ n : Node, n.bare.bare = n.bare
  | .text _ => rfl
  | .element _ _ children => by rw [Node.bare, Node.bare, bareAll_bareAll children]

theorem bareAll_bareAll : ∀ ns, bareAll (bareAll ns) = bareAll ns
  | [] => rfl
  | n :: ns => by rw [bareAll, bareAll, bare_bare n, bareAll_bareAll ns]

end

mutual

theorem content_bare : ∀ n : Node, n.bare.content = n.content
  | .text _ => rfl
  | .element _ _ children => contentOf_bareAll children

theorem contentOf_bareAll : ∀ ns, contentOf (bareAll ns) = contentOf ns
  | [] => rfl
  | n :: ns => by rw [bareAll, contentOf, contentOf, content_bare n, contentOf_bareAll ns]

end

end Xml

namespace XmlSites

open Xml

mutual

/-- The sites in a node, in the order of the document. `kind` is how the element around it uses a script. -/
def ofNode (origin : Path) (kind : UsageKind) : Xml.Node → List Site
  | .text _ => []
  | .element name attributes children =>
    siteOf origin kind name attributes (Xml.contentOf children) ++
      ofNodes origin (usageIn name attributes) children

def ofNodes (origin : Path) (kind : UsageKind) : List Xml.Node → List Site
  | [] => []
  | n :: ns => ofNode origin kind n ++ ofNodes origin kind ns

end

/-- The site of an element at a place of a node that stands at the place `q`. -/
def siteAt (origin : Path) (parents : List (List Nat × Element)) (q : List Nat) (x : List Nat × Element) : List Site :=
  siteOf origin (usageUnder (parents.lookup (q ++ x.1))) x.2.name x.2.attributes (contentOf x.2.children)

theorem flatMap_siteAt_inside (origin : Path) (parents : List (List Nat × Element)) (q : List Nat) (i : Nat)
    (xs : List (List Nat × Element)) :
    (xs.map fun x => (i :: x.1, x.2)).flatMap (siteAt origin parents q) = xs.flatMap (siteAt origin parents (q ++ [i])) := by
  rw [List.flatMap_map]
  congr 1
  funext x
  rw [siteAt, siteAt, List.append_cons q i x.1]

mutual

/-- Where the table is right about a node, the list of its elements has the sites of the recursion. -/
theorem flatMap_elements (origin : Path) (parents : List (List Nat × Element)) :
    ∀ (n : Xml.Node) (q : List Nat), Links parents q n →
      n.elements.flatMap (siteAt origin parents q) = ofNode origin (usageUnder (parents.lookup q)) n
  | .text _, _, _ => rfl
  | .element name attributes children, q, links => by
    have inside := flatMap_elementsAmong origin parents ⟨name, attributes, children⟩ children q 0
      (fun j child present => by
        rw [Nat.zero_add]
        exact ⟨links.inside present, links.around present⟩)
    rw [Node.elements, List.flatMap_cons, inside, ofNode, siteAt, List.append_nil]

theorem flatMap_elementsAmong (origin : Path) (parents : List (List Nat × Element)) (e : Element) :
    ∀ (ns : List Xml.Node) (q : List Nat) (i : Nat),
      (∀ j child, ns[j]? = some child →
        Links parents (q ++ [i + j]) child ∧ (child.isElement → parents.lookup (q ++ [i + j]) = some e)) →
      (elementsAmong i ns).flatMap (siteAt origin parents q) = ofNodes origin (usageIn e.name e.attributes) ns
  | [], _, _, _ => rfl
  | n :: ns, q, i, linked => by
    obtain ⟨links, around⟩ := linked 0 n rfl
    have first := flatMap_elements origin parents n (q ++ [i]) links
    have rest := flatMap_elementsAmong origin parents e ns q (i + 1) (fun j child present => by
      have later := linked (j + 1) child present
      rwa [← Nat.add_assoc, Nat.add_right_comm] at later)
    rw [elementsAmong, List.flatMap_append, flatMap_siteAt_inside, first, rest, ofNodes]
    cases n with
    | text t => rfl
    | element name attributes children =>
      rw [Nat.add_zero] at around
      rw [around rfl]
      rfl

end

/-- Elements without a script have no sites. -/
theorem flatMap_filter_isScript (origin : Path) (parents : List (List Nat × Element)) (q : List Nat)
    (xs : List (List Nat × Element)) :
    (xs.filter fun x => isScript x.2.name x.2.attributes).flatMap (siteAt origin parents q) =
      xs.flatMap (siteAt origin parents q) := by
  induction xs with
  | nil => rfl
  | cons x xs ih =>
    rw [List.filter_cons, List.flatMap_cons, ← ih]
    split
    · rw [List.flatMap_cons]
    · rename_i other
      rw [siteAt, siteOf]
      simp [other]

/-- The sites that are collected from the elements of a document are those of the recursion. -/
theorem ofDocument_eq (origin : Path) (root : Xml.Node) : ofDocument origin root = ofNode origin .value root := by
  have flat := flatMap_elements origin (parentsOf root.elements) root [] (links_parentsOf root)
  rw [lookup_parentsOf_nil, ← flatMap_filter_isScript] at flat
  exact flat

mutual

theorem ofNode_bare (origin : Path) (kind : UsageKind) : ∀ n : Xml.Node, ofNode origin kind n.bare = ofNode origin kind n
  | .text _ => rfl
  | .element name attributes children => by
    rw [Node.bare, ofNode, ofNode, contentOf_bareAll, ofNodes_bareAll]
    rfl

theorem ofNodes_bareAll (origin : Path) (kind : UsageKind) : ∀ ns, ofNodes origin kind (bareAll ns) = ofNodes origin kind ns
  | [] => rfl
  | n :: ns => by rw [bareAll, ofNodes, ofNodes, ofNode_bare origin kind n, ofNodes_bareAll origin kind ns]

end

theorem siteOf_filled {origin : Path} {kind : UsageKind} {name : QName} {attributes : List (QName × Text)}
    {content : Text} {site : Site} (member : site ∈ siteOf origin kind name attributes content) :
    Text.strip site.script ≠ [] := by
  unfold siteOf at member
  dsimp only at member
  split at member
  · rename_i filled
    rw [List.mem_singleton.mp member, Text.strip_strip]
    simp only [Bool.and_eq_true, decide_eq_true_eq] at filled
    exact filled.2
  · cases member

theorem ofDocument_filled {origin : Path} {root : Xml.Node} {site : Site} (member : site ∈ ofDocument origin root) :
    Text.strip site.script ≠ [] := by
  obtain ⟨⟨place, e⟩, _, inside⟩ := List.mem_flatMap.mp member
  exact siteOf_filled inside

end XmlSites

/-! ### Source files -/

/-- A file that can be read gives the sites in it whose script is not blank, and no warning. -/
theorem extract_of_sitesOf {d : Disk} {cwd : List Text} {dialect : Dialect} {path : Path} {content : Bytes}
    {sites : List Site} (readable : d.read cwd path = .ok content) (parsed : sitesOf dialect path content = .ok sites) :
    (extract d cwd dialect path).2 = ⟨path, sites.filter fun s => Text.strip s.script ≠ [], none⟩ := by
  have found : sitesIn d cwd dialect path = .ok (sites.filter fun s => Text.strip s.script ≠ []) := by
    rw [sitesIn, readable]
    change (sitesOf dialect path content >>= fun sites => _) = _
    rw [parsed]
    rfl
  rw [extract, found]

/-- The sites of a document are those that the recursion over it meets in order, in whatever namespaces its elements
are. -/
theorem document_sites (path : Path) (root : Xml.Node) :
    XmlSites.ofDocument path root = XmlSites.ofNode path .value root ∧
    (∀ root' : Xml.Node, root'.bare = root.bare → XmlSites.ofDocument path root' = XmlSites.ofDocument path root) ∧
    ∀ (d : Disk) (cwd : List Text) (content : Bytes), d.read cwd path = .ok content →
      Xml.readDocument content = .ok root →
      (extract d cwd .document path).2 = ⟨path, XmlSites.ofDocument path root, none⟩ := by
  refine ⟨XmlSites.ofDocument_eq path root, ?_, ?_⟩
  · intro root' same
    calc XmlSites.ofDocument path root'
        = XmlSites.ofNode path .value root'.bare := by rw [XmlSites.ofDocument_eq, XmlSites.ofNode_bare]
      _ = XmlSites.ofNode path .value root.bare := by rw [same]
      _ = XmlSites.ofDocument path root := by rw [XmlSites.ofDocument_eq, XmlSites.ofNode_bare]
  · intro d cwd content readable parsed
    have sites : sitesOf .document path content = .ok (XmlSites.ofDocument path root) := by
      unfold sitesOf
      simp only [parsed]
    rw [extract_of_sitesOf readable sites, List.filter_eq_self.mpr]
    exact fun site member => decide_eq_true (XmlSites.ofDocument_filled member)

/-- A document with a script inside a script, in namespaces. -/
def nestedDocument : Bytes :=
  "<l:loop xmlns:l='u' doWhile=' TRUE '><l:csimple>a<x language='csimple'> b</x></l:csimple></l:loop>".toUTF8.toList

theorem document_sites_nested :
    ∃ root, Xml.readDocument nestedDocument = .ok root ∧
      XmlSites.ofNode ⟨0, ["f"]⟩ .value root =
        [⟨"a b", .predicate, none, ⟨0, ["f"]⟩, .document⟩, ⟨"b", .value, none, ⟨0, ["f"]⟩, .document⟩] ∧
      XmlSites.ofDocument ⟨0, ["f"]⟩ root.bare = XmlSites.ofDocument ⟨0, ["f"]⟩ root ∧
      (extract ⟨[(["f"], .file nestedDocument)]⟩ [] .document ⟨0, ["f"]⟩).2.sites =
        XmlSites.ofDocument ⟨0, ["f"]⟩ root := by
  have facts : (Xml.readDocument nestedDocument).toOption.map (XmlSites.ofDocument ⟨0, ["f"]⟩) =
      some [⟨"a b", .predicate, none, ⟨0, ["f"]⟩, .document⟩, ⟨"b", .value, none, ⟨0, ["f"]⟩, .document⟩] := by
    decide +kernel
  obtain ⟨root, parsed, sites⟩ := Option.map_eq_some_iff.mp facts
  have parsed := Fallible.ok_of_toOption parsed
  obtain ⟨recursion, spaces, files⟩ := document_sites ⟨0, ["f"]⟩ root
  refine ⟨root, parsed, recursion ▸ sites, spaces root.bare (Xml.bare_bare root), ?_⟩
  rw [files ⟨[(["f"], .file nestedDocument)]⟩ [] nestedDocument rfl parsed]

end RouteScript
