import Mathlib.Data.List.Nodup
import RouteScript.Proofs.Java.ConstantText
import RouteScript.Proofs.Route.SourceOrder

/-!
# The sites of a class

A walk through a class comes to a call at every place where one stands, and once (`callsIn_placed`). Sorting keeps the
places, so that each call of the script method on a constant string gives one site (`class_sites`). Calls with different
offsets are then in strictly increasing order.
-/

namespace RouteScript.JavaSites

/-! ### Calls and their places -/

def CallAt (parts : List Java.Tree) (place : List Nat) (c : Java.Call) : Prop :=
  ∃ v, (⟨none, .other parts⟩ : Java.Visit).at? place = some v ∧ v.call? = some c

/-- The names of different calls stand at different offsets. -/
def DistinctOffsets (parts : List Java.Tree) : Prop :=
  ∀ p q c c', CallAt parts p c → CallAt parts q c' → c.offset = c'.offset → p = q

theorem callsIn_placed (parts : List Java.Tree) :
    ∃ placed : List (List Nat × Java.Call), placed.map Prod.snd = callsIn parts ∧ (placed.map Prod.fst).Nodup ∧
      ∀ place c, (place, c) ∈ placed ↔ CallAt parts place c := by
  obtain ⟨visits, all, ordered, found⟩ := Java.walk_isPreorder ⟨none, .other parts⟩
  refine ⟨visits.filterMap fun x => x.2.call?.map (x.1, ·), ?_, ?_, ?_⟩
  · rw [callsIn, ← all, List.filterMap_map, List.map_filterMap]
    simp [Function.comp_def]
  · apply List.pairwise_map.mpr
    exact pairwise_filterMap_map ordered fun x y _ _ before => before.ne
  · intro place c
    rw [List.mem_filterMap]
    constructor
    · rintro ⟨⟨place', v⟩, member, made⟩
      obtain ⟨c', called, same⟩ := Option.map_eq_some_iff.mp made
      cases same
      exact ⟨v, (found _ v).mp member, called⟩
    · rintro ⟨v, stands, called⟩
      exact ⟨(place, v), (found place v).mpr stands, by rw [called]; rfl⟩

/-- Offsets are different when the walk comes to no offset twice. -/
theorem distinctOffsets_of_nodup {parts : List Java.Tree} (apart : ((callsIn parts).map (·.offset)).Nodup) :
    DistinctOffsets parts := by
  obtain ⟨placed, all, _, found⟩ := callsIn_placed parts
  rw [← all, List.map_map] at apart
  intro p q c c' first second same
  have equal := List.inj_on_of_nodup_map apart ((found p c).mpr first) ((found q c').mpr second) same
  exact congrArg Prod.fst equal

theorem scriptCalls_placed (parts : List Java.Tree) :
    ∃ placed : List (List Nat × Java.Call), placed.map Prod.snd = scriptCalls parts ∧ (placed.map Prod.fst).Nodup ∧
      ∀ place c, (place, c) ∈ placed ↔ CallAt parts place c ∧ c.name = scriptMethod := by
  obtain ⟨placed, all, apart, found⟩ := callsIn_placed parts
  -- The calls are sorted together with their places, which tell equal calls apart.
  let named := placed.filter fun x => x.2.name = scriptMethod
  have sorted := List.mergeSort_perm named fun a b => decide (a.2.offset ≤ b.2.offset)
  refine ⟨named.mergeSort fun a b => decide (a.2.offset ≤ b.2.offset), ?_, ?_, ?_⟩
  · rw [scriptCalls, ← all, List.filter_map]
    exact List.map_mergeSort fun _ _ _ _ => rfl
  · exact (sorted.map Prod.fst).nodup_iff.mpr (apart.sublist (List.filter_sublist.map Prod.fst))
  · intro place c
    rw [sorted.mem_iff, List.mem_filter, found, decide_eq_true_eq]

/-! ### Calls with a script -/

/-- A call of the script method at a place of a class, on a constant string that is not blank. -/
structure ScriptAt (parts : List Java.Tree) (place : List Nat) (c : Java.Call) (script : Text) : Prop where
  stands : CallAt parts place c
  named : c.name = scriptMethod
  constant : ∃ argument sources, c.arguments.head? = some argument ∧ argument.MadeOf sources ∧
    script = sources.flatMap Java.literalValue
  filled : Text.strip script ≠ []

theorem script?_eq_some_iff {c : Java.Call} {script : Text} :
    script? c = some script ↔ ∃ argument sources, c.arguments.head? = some argument ∧ argument.MadeOf sources ∧
      script = sources.flatMap Java.literalValue := by
  simp only [script?, Option.bind_eq_some_iff, Java.Tree.constantText_eq_some_iff, exists_and_left]

/-- The sites of a source file whose scripts are not blank. -/
def filledSites (origin : Path) (u : Java.CompilationUnit) : List Site :=
  (ofUnit origin u).filter fun s => Text.strip s.script ≠ []

/-- The site of a call with its script, in a class with this owner. -/
def callSite (origin : Path) (owner : Text) (c : Java.Call) (script : Text) : Site :=
  ⟨script, usageKind c, some owner, origin, .code⟩

/-- The calls are those with a script, each once, in the order of their offsets. -/
structure ListsScripts (parts : List Java.Tree) (calls : List (List Nat × Java.Call × Text)) : Prop where
  complete : ∀ place c script, (place, c, script) ∈ calls ↔ ScriptAt parts place c script
  once : (calls.map Prod.fst).Nodup
  ordered : calls.Pairwise fun x y => x.2.1.offset ≤ y.2.1.offset

theorem ListsScripts.increasing {parts : List Java.Tree} {calls : List (List Nat × Java.Call × Text)}
    (lists : ListsScripts parts calls) (distinct : DistinctOffsets parts) :
    calls.Pairwise fun x y => x.2.1.offset < y.2.1.offset := by
  have apart := List.pairwise_map.mp lists.once
  -- Calls at different places never share an offset, so that none is left where the order is not strict.
  refine (lists.ordered.and apart).imp_of_mem ?_
  rintro ⟨p, c, s⟩ ⟨q, c', s'⟩ first second ⟨le, ne⟩
  have first := ((lists.complete p c s).mp first).stands
  have second := ((lists.complete q c' s').mp second).stands
  refine Nat.lt_of_le_of_ne le ?_
  exact fun same => ne (distinct p q c c' first second same)

theorem filledSites_listed {u : Java.CompilationUnit} {name : Text} {parts : List Java.Tree}
    {rest : List Java.TypeDeclaration} (origin : Path) (first : u.types = ⟨.classType, name, parts⟩ :: rest) :
    ∃ calls, ListsScripts parts calls ∧
      filledSites origin u = calls.map fun x => callSite origin (ownerOf u.package name) x.2.1 x.2.2 := by
  obtain ⟨placed, all, apart, found⟩ := scriptCalls_placed parts
  let scripted := placed.filterMap fun x => (script? x.2).map fun script => (x.1, x.2, script)
  refine ⟨scripted.filter fun x => Text.strip x.2.2 ≠ [], ⟨?_, ?_, ?_⟩, ?_⟩
  · intro place c script
    rw [List.mem_filter, List.mem_filterMap, decide_eq_true_eq]
    constructor
    · rintro ⟨⟨⟨place', c'⟩, member, made⟩, filled⟩
      obtain ⟨script', constant, same⟩ := Option.map_eq_some_iff.mp made
      cases same
      obtain ⟨stands, named⟩ := (found _ _).mp member
      exact ⟨stands, named, script?_eq_some_iff.mp constant, filled⟩
    · rintro ⟨stands, named, constant, filled⟩
      refine ⟨⟨(place, c), (found place c).mpr ⟨stands, named⟩, ?_⟩, filled⟩
      rw [script?_eq_some_iff.mpr constant]
      rfl
  · apply List.pairwise_map.mpr
    apply List.Pairwise.filter
    exact pairwise_filterMap_map (List.pairwise_map.mp apart) fun x y _ _ different => different
  · have sorted := scriptCalls_sorted parts
    rw [← all] at sorted
    apply List.Pairwise.filter
    exact pairwise_filterMap_map (List.pairwise_map.mp sorted) fun x y _ _ le => le
  · have sites : ofUnit origin u =
        scripted.map fun x => callSite origin (ownerOf u.package name) x.2.1 x.2.2 := by
      unfold ofUnit
      simp only [first]
      rw [← all, List.filterMap_map, List.map_filterMap]
      simp only [Function.comp_def, Option.map_map, callSite]
    rw [filledSites, sites, List.filter_map]
    rfl

theorem ofUnit_of_no_class {u : Java.CompilationUnit} (origin : Path)
    (other : ∀ name parts rest, u.types ≠ ⟨.classType, name, parts⟩ :: rest) : ofUnit origin u = [] := by
  unfold ofUnit
  split
  · rename_i name parts rest first
    exact absurd first (other name parts rest)
  · rfl

/-- The sites of a source file are the calls of the script method in its first class, in the order of their offsets. -/
theorem class_sites (path : Path) (u : Java.CompilationUnit) :
    (∀ (d : Disk) (cwd : List Text) (content : Bytes), d.read cwd path = .ok content →
      Java.CompilationUnit.read (decodeUtf8Lossy content) = .ok u →
      (extract d cwd .code path).2 = ⟨path, filledSites path u, none⟩) ∧
    (∀ name parts rest, u.types = ⟨.classType, name, parts⟩ :: rest →
      Java.IsPreorder ⟨none, .other parts⟩ (Java.walk [⟨none, .other parts⟩]) ∧
      ∃ calls, ListsScripts parts calls ∧
        (DistinctOffsets parts → calls.Pairwise fun x y => x.2.1.offset < y.2.1.offset) ∧
        filledSites path u = calls.map fun x => callSite path (ownerOf u.package name) x.2.1 x.2.2) ∧
    ((∀ name parts rest, u.types ≠ ⟨.classType, name, parts⟩ :: rest) → filledSites path u = []) := by
  refine ⟨?_, ?_, ?_⟩
  · intro d cwd content readable parsed
    apply extract_of_sitesOf readable
    unfold sitesOf
    simp only [parsed]
  · intro name parts rest first
    obtain ⟨calls, lists, sites⟩ := filledSites_listed path first
    exact ⟨Java.walk_isPreorder _, calls, lists, lists.increasing, sites⟩
  · intro other
    rw [filledSites, ofUnit_of_no_class path other]
    rfl

/-- A chain of calls with a constant, a nested, a blank and a computed script. -/
def chainSource : Bytes :=
  "package p;class A\x7bR f=when().csimple(\"a\"+(\"b\")).and(csimple(\"c\")).csimple(\" \").csimple(g);\x7d".toUTF8.toList

def chainSite (kind : UsageKind) (script : Text) : Site := ⟨script, kind, some "p.A", ⟨0, ["f"]⟩, .code⟩

def chainCalls (calls : List Java.Call) : List (Nat × Option Site) :=
  calls.map fun c => (c.offset, (script? c).map (chainSite (usageKind c)))

/-- The calls of the script method in the order of their offsets. -/
def chainOrder : List (Nat × Option Site) :=
  [(29, chainSite .predicate "ab"), (52, chainSite .predicate "c"), (66, chainSite .value " "), (79, none)]

/-- What decides the sites of a class. -/
structure ClassView where
  kind : Java.TypeKind
  name : Text
  offsets : List Nat
  calls : List (Nat × Option Site)
  deriving DecidableEq

def classView (t : Java.TypeDeclaration) : ClassView :=
  ⟨t.kind, t.name, (callsIn t.parts).map (·.offset), chainCalls ((callsIn t.parts).filter (·.name = scriptMethod))⟩

theorem class_sites_chain :
    ∃ u parts, Java.CompilationUnit.read (decodeUtf8Lossy chainSource) = .ok u ∧
      u.types = [⟨.classType, "A", parts⟩] ∧ DistinctOffsets parts ∧
      (extract ⟨[(["f"], .file chainSource)]⟩ [] .code ⟨0, ["f"]⟩).2.sites =
        [chainSite .predicate "ab", chainSite .predicate "c"] ∧
      (∃ calls, ListsScripts parts calls ∧ calls.Pairwise (fun x y => x.2.1.offset < y.2.1.offset) ∧
        filledSites ⟨0, ["f"]⟩ u = calls.map fun x => callSite ⟨0, ["f"]⟩ "p.A" x.2.1 x.2.2) ∧
      filledSites ⟨0, ["f"]⟩ ⟨u.package, ⟨.interfaceType, "I", []⟩ :: u.types⟩ = [] := by
  have facts : ((Java.CompilationUnit.read (decodeUtf8Lossy chainSource)).toOption.map fun u =>
      (u.package, u.types.map classView)) =
      some (some ("p" : Text), [⟨.classType, "A", [79, 66, 48, 29, 22, 52],
        [(79, none), (66, chainSite .value " "), (29, chainSite .predicate "ab"), (52, chainSite .predicate "c")]⟩]) := by
    decide +kernel
  obtain ⟨u, parsed, seen⟩ := Option.map_eq_some_iff.mp facts
  obtain ⟨package, types⟩ := Prod.mk.inj seen
  obtain ⟨⟨kind, name, parts⟩, alone, same⟩ := List.map_eq_singleton_iff.mp types
  simp only [classView, ClassView.mk.injEq] at same
  obtain ⟨rfl, rfl, offsets, calls⟩ := same
  have parsed := Fallible.ok_of_toOption parsed
  have distinct : DistinctOffsets parts := distinctOffsets_of_nodup (by rw [offsets]; decide)
  have owner : ownerOf u.package "A" = "p.A" := by rw [package]; rfl
  have sorted : chainCalls (scriptCalls parts) = chainOrder := by
    have perm := (List.mergeSort_perm ((callsIn parts).filter (·.name = scriptMethod)) fun a b =>
      decide (a.offset ≤ b.offset)).map fun c => (c.offset, (script? c).map (chainSite (usageKind c)))
    have perm : (chainCalls (scriptCalls parts)).Perm chainOrder := (perm.trans (.of_eq calls)).trans (by decide)
    have ordered : (chainCalls (scriptCalls parts)).Pairwise fun a b => a.1 ≤ b.1 :=
      List.pairwise_map.mpr (scriptCalls_sorted parts)
    have apart : ∀ a ∈ chainOrder, ∀ b ∈ chainOrder, a.1 ≤ b.1 → b.1 ≤ a.1 → a = b := by decide
    refine perm.eq_of_pairwise ?_ ordered (by decide)
    exact fun a b first second => apart a (perm.mem_iff.mp first) b second
  obtain ⟨files, classes, others⟩ := class_sites ⟨0, ["f"]⟩ u
  obtain ⟨_, listed, lists, increasing, sites⟩ := classes "A" parts [] alone
  rw [owner] at sites
  refine ⟨u, parts, parsed, alone, distinct, ?_, ⟨listed, lists, increasing distinct, sites⟩, ?_⟩
  · rw [files ⟨[(["f"], .file chainSource)]⟩ [] chainSource rfl parsed]
    have found : ofUnit ⟨0, ["f"]⟩ u = (chainCalls (scriptCalls parts)).filterMap Prod.snd := by
      rw [chainCalls, List.filterMap_map]
      unfold ofUnit
      simp only [alone, owner]
      rfl
    dsimp only
    rw [filledSites, found, sorted]
    decide
  · exact (class_sites ⟨0, ["f"]⟩ ⟨u.package, ⟨.interfaceType, "I", []⟩ :: u.types⟩).2.2 (by simp)

end RouteScript.JavaSites
