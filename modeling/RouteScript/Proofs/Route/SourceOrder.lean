import RouteScript.Proofs.Java.TreeWalk
import RouteScript.Proofs.Route.DocumentSites

/-!
# Sites in the order of the source

A place in a source is a list of numbers: the offset of a call in a Java source, and in a document the
numbers of the children that lead from the root to an element. Places in lexicographic order are places in
the order of the source, where an element comes before those inside it. `extract_inSourceOrder` says that the
sites of a file are those of all its places, in this order.
-/

namespace RouteScript

/-! ### Java sources -/

namespace JavaSites

/-- A site at an offset of a Java source: a call of the script method in its first class. -/
def At (origin : Path) (u : Java.CompilationUnit) (offset : Nat) (site : Site) : Prop :=
  ∃ name parts rest c script, u.types = ⟨.classType, name, parts⟩ :: rest ∧ c ∈ Java.callsOf none parts ∧
    c.name = scriptMethod ∧ c.offset = offset ∧ script? c = some script ∧
    site = ⟨script, usageKind c, some (ownerOf u.package name), origin, .code⟩

theorem callsIn_eq (parts : List Java.Tree) : callsIn parts = Java.callsOf none parts := by
  rw [callsIn, Java.walk_calls, List.flatMap_singleton, Java.Tree.calls]

theorem scriptCalls_sorted (parts : List Java.Tree) :
    (scriptCalls parts).Pairwise fun a b => a.offset ≤ b.offset := by
  have sorted : (scriptCalls parts).Pairwise fun a b => decide (a.offset ≤ b.offset) := by
    apply List.pairwise_mergeSort
    · intro a b c first second
      have first := of_decide_eq_true first
      have second := of_decide_eq_true second
      exact decide_eq_true (by omega)
    · intro a b
      simp only [Bool.or_eq_true, decide_eq_true_eq]
      omega
  exact sorted.imp of_decide_eq_true

theorem ofUnit_placed (origin : Path) (u : Java.CompilationUnit) :
    ∃ placed : List (List Nat × Site), placed.map Prod.snd = ofUnit origin u ∧
      placed.Pairwise (fun x y => ¬PlaceBefore y.1 x.1) ∧
      ∀ place site, (place, site) ∈ placed ↔ ∃ offset, place = [offset] ∧ At origin u offset site := by
  unfold ofUnit
  split
  · rename_i name parts rest first
    refine ⟨(scriptCalls parts).filterMap fun c => (script? c).map fun script =>
      ([c.offset], ⟨script, usageKind c, some (ownerOf u.package name), origin, .code⟩), ?_, ?_, ?_⟩
    · rw [List.map_filterMap]
      simp only [Option.map_map, Function.comp_def]
    · apply pairwise_filterMap_map (scriptCalls_sorted parts)
      intro a b _ _ before after
      rcases List.cons_lex_cons_iff.mp after with less | ⟨_, none⟩
      · omega
      · exact List.not_lex_nil none
    · intro place site
      rw [List.mem_filterMap]
      constructor
      · rintro ⟨c, member, made⟩
        obtain ⟨script, constant, same⟩ := Option.map_eq_some_iff.mp made
        cases same
        obtain ⟨called, named⟩ := List.mem_filter.mp (List.mem_mergeSort.mp member)
        rw [callsIn_eq] at called
        exact ⟨c.offset, rfl, name, parts, rest, c, script, first, called, of_decide_eq_true named, rfl,
          constant, rfl⟩
      · rintro ⟨_, rfl, name', parts', rest', c, script, first', called, named, rfl, constant, rfl⟩
        cases first.symm.trans first'
        have member : c ∈ scriptCalls parts :=
          List.mem_mergeSort.mpr (List.mem_filter.mpr ⟨callsIn_eq parts ▸ called, decide_eq_true named⟩)
        exact ⟨c, member, by rw [constant]; rfl⟩
  · rename_i other
    refine ⟨[], rfl, List.Pairwise.nil, fun place site => ⟨(nomatch ·), ?_⟩⟩
    rintro ⟨offset, _, name, parts, rest, _, _, first, _⟩
    exact absurd first (other name parts rest)

end JavaSites

/-! ### Documents -/

namespace XmlSites

/-- A site at a place of a node, where the element around the node uses a script in this way. -/
inductive At (origin : Path) : UsageKind → Xml.Node → List Nat → Site → Prop where
  | here {kind : UsageKind} {name : Xml.QName} {attributes : List (Xml.QName × Text)}
      {children : List Xml.Node} {site : Site}
      (member : site ∈ siteOf origin kind name attributes (Xml.contentOf children)) :
      At origin kind (.element name attributes children) [] site
  | inside {kind : UsageKind} {name : Xml.QName} {attributes : List (Xml.QName × Text)}
      {children : List Xml.Node} {child : Xml.Node} {i : Nat} {place : List Nat} {site : Site}
      (present : children[i]? = some child) (below : At origin (usageIn name attributes) child place site) :
      At origin kind (.element name attributes children) (i :: place) site

mutual

/-- The sites in a node with their places. -/
def placedIn (origin : Path) (kind : UsageKind) : Xml.Node → List (List Nat × Site)
  | .text _ => []
  | .element name attributes children =>
    (siteOf origin kind name attributes (Xml.contentOf children)).map ([], ·) ++
      placedAmong origin (usageIn name attributes) 0 children

def placedAmong (origin : Path) (kind : UsageKind) (i : Nat) : List Xml.Node → List (List Nat × Site)
  | [] => []
  | n :: ns =>
    (placedIn origin kind n).map (fun x => (i :: x.1, x.2)) ++ placedAmong origin kind (i + 1) ns

end

mutual

theorem map_snd_placedIn (origin : Path) (kind : UsageKind) :
    ∀ n, (placedIn origin kind n).map Prod.snd = ofNode origin kind n
  | .text _ => rfl
  | .element name attributes children => by
    rw [placedIn, ofNode, List.map_append, map_snd_placedAmong, List.map_map]
    simp [Function.comp_def]

theorem map_snd_placedAmong (origin : Path) (kind : UsageKind) :
    ∀ i ns, (placedAmong origin kind i ns).map Prod.snd = ofNodes origin kind ns
  | _, [] => rfl
  | i, n :: ns => by
    rw [placedAmong, ofNodes, List.map_append, map_snd_placedAmong, List.map_map, ← map_snd_placedIn]
    rfl

end

theorem mem_placedAmong {origin : Path} {kind : UsageKind} {i : Nat} {ns : List Xml.Node}
    {place : List Nat} {site : Site} :
    (place, site) ∈ placedAmong origin kind i ns ↔
      ∃ j child below, ns[j]? = some child ∧ place = (i + j) :: below ∧
        (below, site) ∈ placedIn origin kind child := by
  induction ns generalizing i with
  | nil => simp [placedAmong]
  | cons n ns ih =>
    rw [placedAmong, List.mem_append, ih]
    constructor
    · rintro (member | ⟨j, child, below, present, rfl, member⟩)
      · obtain ⟨x, inside, same⟩ := List.mem_map.mp member
        cases same
        exact ⟨0, n, x.1, rfl, rfl, inside⟩
      · exact ⟨j + 1, child, below, present, by rw [Nat.add_assoc, Nat.add_comm 1 j], member⟩
    · rintro ⟨j, child, below, present, rfl, member⟩
      cases j with
      | zero =>
        cases present
        exact Or.inl (List.mem_map.mpr ⟨(below, site), member, rfl⟩)
      | succ j => exact Or.inr ⟨j, child, below, present, by rw [Nat.add_assoc, Nat.add_comm 1 j], member⟩

mutual

theorem placedIn_increasing (origin : Path) (kind : UsageKind) :
    ∀ n, (placedIn origin kind n).Pairwise fun x y => PlaceBefore x.1 y.1
  | .text _ => List.Pairwise.nil
  | .element name attributes children => by
    rw [placedIn]
    refine List.pairwise_append.mpr ⟨?_, placedAmong_increasing origin _ 0 children, ?_⟩
    · unfold siteOf
      dsimp only
      split <;> simp
    · rintro x first ⟨place, site⟩ later
      obtain ⟨_, _, rfl⟩ := List.mem_map.mp first
      obtain ⟨j, _, below, _, rfl, _⟩ := mem_placedAmong.mp later
      exact List.Lex.nil

theorem placedAmong_increasing (origin : Path) (kind : UsageKind) :
    ∀ i ns, (placedAmong origin kind i ns).Pairwise fun x y => PlaceBefore x.1 y.1
  | _, [] => List.Pairwise.nil
  | i, n :: ns => by
    rw [placedAmong]
    refine List.pairwise_append.mpr ⟨?_, placedAmong_increasing origin kind (i + 1) ns, ?_⟩
    · refine List.pairwise_map.mpr ((placedIn_increasing origin kind n).imp ?_)
      exact fun less => List.cons_lex_cons_iff.mpr (Or.inr ⟨rfl, less⟩)
    · rintro x first ⟨place, site⟩ later
      obtain ⟨_, _, rfl⟩ := List.mem_map.mp first
      obtain ⟨j, _, below, _, rfl, _⟩ := mem_placedAmong.mp later
      exact List.cons_lex_cons_iff.mpr (Or.inl (by omega))

end

theorem mem_placedIn {origin : Path} {kind : UsageKind} {n : Xml.Node} {place : List Nat} {site : Site} :
    (place, site) ∈ placedIn origin kind n ↔ At origin kind n place site := by
  induction place generalizing kind n with
  | nil =>
    cases n with
    | text t => exact ⟨(nomatch ·), (nomatch ·)⟩
    | element name attributes children =>
      rw [placedIn, List.mem_append]
      constructor
      · rintro (member | member)
        · obtain ⟨_, member, same⟩ := List.mem_map.mp member
          cases same
          exact .here member
        · obtain ⟨j, _, below, _, impossible, _⟩ := mem_placedAmong.mp member
          cases impossible
      · rintro (member | _)
        exact Or.inl (List.mem_map.mpr ⟨site, ‹_›, rfl⟩)
  | cons i place ih =>
    cases n with
    | text t => exact ⟨(nomatch ·), (nomatch ·)⟩
    | element name attributes children =>
      rw [placedIn, List.mem_append]
      constructor
      · rintro (member | member)
        · obtain ⟨_, _, impossible⟩ := List.mem_map.mp member
          cases impossible
        · obtain ⟨j, child, below, present, same, member⟩ := mem_placedAmong.mp member
          rw [Nat.zero_add] at same
          cases same
          exact .inside present (ih.mp member)
      · rintro (_ | ⟨present, below⟩)
        exact Or.inr (mem_placedAmong.mpr ⟨i, _, place, present, by rw [Nat.zero_add], ih.mpr below⟩)

theorem ofDocument_placed (origin : Path) (root : Xml.Node) :
    ∃ placed : List (List Nat × Site), placed.map Prod.snd = ofDocument origin root ∧
      placed.Pairwise (fun x y => ¬PlaceBefore y.1 x.1) ∧
      ∀ place site, (place, site) ∈ placed ↔ At origin .value root place site :=
  ⟨placedIn origin .value root, (map_snd_placedIn origin .value root).trans (ofDocument_eq origin root).symm,
    (placedIn_increasing origin .value root).imp PlaceBefore.not_after, fun _ _ => mem_placedIn⟩

end XmlSites

/-! ### Source files -/

/-- A site with a script that is not blank at a place of a source file with the given content. -/
def OccursAt (dialect : Dialect) (path : Path) (content : Bytes) (place : List Nat) (site : Site) : Prop :=
  Text.strip site.script ≠ [] ∧
  match dialect with
  | .code => ∃ u offset, Java.CompilationUnit.read (decodeUtf8Lossy content) = .ok u ∧ place = [offset] ∧
      JavaSites.At path u offset site
  | .document => ∃ root, Xml.readDocument content = .ok root ∧ XmlSites.At path .value root place site

/-- The sites of all places of a source file, in the order of the source. -/
def InSourceOrder (dialect : Dialect) (path : Path) (content : Bytes) (sites : List Site) : Prop :=
  ∃ placed : List (List Nat × Site), placed.map Prod.snd = sites ∧ placed.Pairwise (fun x y => ¬PlaceBefore y.1 x.1) ∧
    ∀ place site, (place, site) ∈ placed ↔ OccursAt dialect path content place site

theorem sitesOf_placed {dialect : Dialect} {path : Path} {content : Bytes} {sites : List Site}
    (read : sitesOf dialect path content = .ok sites) :
    InSourceOrder dialect path content (sites.filter fun s => Text.strip s.script ≠ []) := by
  have kept : ∀ placed : List (List Nat × Site), placed.map Prod.snd = sites →
      placed.Pairwise (fun x y => ¬PlaceBefore y.1 x.1) →
      (∀ place site, Text.strip site.script ≠ [] →
        ((place, site) ∈ placed ↔ OccursAt dialect path content place site)) →
      InSourceOrder dialect path content (sites.filter fun s => Text.strip s.script ≠ []) := by
    intro placed all ordered occurs
    refine ⟨placed.filter fun x => Text.strip x.2.script ≠ [], ?_, ordered.filter _, ?_⟩
    · rw [← all, List.filter_map]
      rfl
    · intro place site
      rw [List.mem_filter]
      exact ⟨fun ⟨member, filled⟩ => (occurs place site (of_decide_eq_true filled)).mp member,
        fun occurrence => ⟨(occurs place site occurrence.1).mpr occurrence, decide_eq_true occurrence.1⟩⟩
  cases dialect with
  | code =>
    unfold sitesOf at read
    dsimp only at read
    split at read
    · rename_i u parsed
      cases read
      obtain ⟨placed, all, ordered, places⟩ := JavaSites.ofUnit_placed path u
      refine kept placed all ordered fun place site filled => (places place site).trans ?_
      constructor
      · rintro ⟨offset, rfl, found⟩
        exact ⟨filled, u, offset, parsed, rfl, found⟩
      · rintro ⟨_, u', offset, parsed', rfl, found⟩
        cases parsed.symm.trans parsed'
        exact ⟨offset, rfl, found⟩
    · cases read
  | document =>
    unfold sitesOf at read
    dsimp only at read
    split at read
    · rename_i root parsed
      cases read
      obtain ⟨placed, all, ordered, places⟩ := XmlSites.ofDocument_placed path root
      refine kept placed all ordered fun place site filled => (places place site).trans ?_
      constructor
      · exact fun found => ⟨filled, root, parsed, found⟩
      · rintro ⟨_, root', parsed', found⟩
        cases parsed.symm.trans parsed'
        exact found
    · cases read

/-- The sites that extraction finds in a file are in the order of the source. -/
theorem extract_inSourceOrder (d : Disk) (cwd : List Text) (dialect : Dialect) (path : Path) :
    (extract d cwd dialect path).2.sites = [] ∨ ∃ content, d.read cwd path = .ok content ∧
      InSourceOrder dialect path content (extract d cwd dialect path).2.sites := by
  unfold extract
  cases found : sitesIn d cwd dialect path with
  | error reason => exact Or.inl rfl
  | ok sites =>
    obtain ⟨content, read, found⟩ := Fallible.bind_ok found
    obtain ⟨all, parsed, found⟩ := Fallible.bind_ok found
    cases found
    exact Or.inr ⟨content, Fallible.mapError_ok read, sitesOf_placed parsed⟩

theorem XmlSites.At.origin {origin : Path} {kind : UsageKind} {n : Xml.Node} {place : List Nat} {site : Site}
    (found : At origin kind n place site) : site.origin = origin := by
  induction found with
  | here member =>
    unfold siteOf at member
    dsimp only at member
    split at member
    · rw [List.mem_singleton.mp member]
    · cases member
  | inside _ _ ih => exact ih

theorem OccursAt.origin {dialect : Dialect} {path : Path} {content : Bytes} {place : List Nat} {site : Site}
    (occurs : OccursAt dialect path content place site) : site.origin = path := by
  cases dialect with
  | code =>
    obtain ⟨_, u, offset, _, _, name, parts, rest, c, script, _, _, _, _, _, rfl⟩ := occurs
    rfl
  | document =>
    obtain ⟨_, root, _, found⟩ := occurs
    exact found.origin

/-- The sites of a file say where they are from. -/
theorem origin_of_mem_extract {d : Disk} {cwd : List Text} {dialect : Dialect} {path : Path} {site : Site}
    (member : site ∈ (extract d cwd dialect path).2.sites) : site.origin = path := by
  rcases extract_inSourceOrder d cwd dialect path with none | ⟨content, _, placed, all, _, occurs⟩
  · rw [none] at member
    cases member
  · rw [← all] at member
    obtain ⟨⟨place, _⟩, present, rfl⟩ := List.mem_map.mp member
    exact ((occurs place _).mp present).origin

end RouteScript
