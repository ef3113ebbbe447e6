import Mathlib.Data.List.Infix
import RouteScript.Project.Scan
import RouteScript.Proofs.Files.DiskTree
import RouteScript.Proofs.Files.WalkOrder

/-!
# Scanning again

A change that writes no source file below the roots of a scan leaves what the scan finds as it was: the source files
below each root are the same (`sourcesBelow_of_changes`), a root that the change has made holds none, and so the scan
selects the same files in the same order (`run_of_rootSources`).
-/

namespace RouteScript.Scan

/-! ### The sources below a root -/

/-- The source file with the given names below a root, if these are names of one. -/
def sourceAt (root names : List Text) : Option SourceFile :=
  if names.dropLast.any excludedDirectories.contains then none
  else (Dialect.ofFileName? (names.getLast?.getD [])).map fun dialect =>
    ⟨.absolute (root ++ names), Text.joinWith "/" names, dialect⟩

theorem sourcesBelow_eq (d : Disk) (root : List Text) :
    sourcesBelow d root = (d.filesBelow root).filterMap (sourceAt root) := rfl

theorem sourceAt_path {root names : List Text} {file : SourceFile} (source : sourceAt root names = some file) :
    file.path = .absolute (root ++ names) := by
  unfold sourceAt at source
  split at source
  · cases source
  · obtain ⟨_, _, rfl⟩ := Option.map_eq_some_iff.mp source
    rfl

theorem sourceAt_eq_none {root names : List Text} (other : Dialect.ofFileName? (names.getLast?.getD []) = none) :
    sourceAt root names = none := by
  rw [sourceAt, other]
  split <;> rfl

/-- The names of an entry below a root, if it is a source file there. -/
def sourceNames? (root : List Text) (x : List Text × Entry) : Option (List Text) :=
  match x.2 with
  | .file _ => (root.isPrefixOf? x.1).filter fun names => (sourceAt root names).isSome
  | .directory => none

theorem sourceNames?_eq_some {root names : List Text} {x : List Text × Entry} (known : sourceNames? root x = some names) :
    (∃ content, x = (root ++ names, .file content)) ∧ (sourceAt root names).isSome := by
  obtain ⟨key, e⟩ := x
  cases e with
  | directory => cases known
  | file content =>
    obtain ⟨below, source⟩ := Option.filter_eq_some_iff.mp known
    obtain rfl := List.isPrefixOf?_eq_some_iff_append_eq.mp below
    exact ⟨⟨content, rfl⟩, source⟩

theorem filesBelow_filter_perm (d : Disk) (root : List Text) :
    ((d.filesBelow root).filter fun names => (sourceAt root names).isSome).Perm
      (d.entries.filterMap (sourceNames? root)) := by
  rw [Disk.filesBelow]
  refine ((List.mergeSort_perm _ Disk.walksBefore).filter _).trans ?_
  rw [List.filter_filterMap]
  refine List.Perm.of_eq (List.filterMap_congr ?_)
  rintro ⟨names, e⟩ _
  cases e <;> rfl

/-- The sources below a root are determined by the entries that are sources there. -/
theorem sourcesBelow_congr {d d' : Disk} {root : List Text}
    (same : d'.entries.filterMap (sourceNames? root) = d.entries.filterMap (sourceNames? root)) :
    sourcesBelow d' root = sourcesBelow d root := by
  have walks : ∀ d : Disk, sourcesBelow d root =
      ((d.filesBelow root).filter fun names => (sourceAt root names).isSome).filterMap (sourceAt root) := by
    intro d
    rw [sourcesBelow_eq, List.filterMap_filter]
    refine List.filterMap_congr fun names _ => ?_
    cases sourceAt root names <;> rfl
  have perm := (filesBelow_filter_perm d' root).trans (same ▸ (filesBelow_filter_perm d root).symm)
  rw [walks d', walks d, Disk.eq_of_walksBefore perm ((d'.filesBelow_sorted root).filter _)
    ((d.filesBelow_sorted root).filter _)]

theorem sourceNames_set {d : Disk} {there root : List Text} {e : Entry} (fresh : sourceNames? root (there, e) = none)
    (old : ∀ x ∈ d.entries, x.1 = there → sourceNames? root x = none) :
    (d.set there e).entries.filterMap (sourceNames? root) = d.entries.filterMap (sourceNames? root) := by
  rw [Disk.set, List.filterMap_cons_none fresh, List.filterMap_filter]
  refine List.filterMap_congr fun x member => ?_
  by_cases same : x.1 = there
  · simp [same, old x member same]
  · simp [same]

/-- A change with no source file below the root among its targets. -/
theorem sourcesBelow_of_changes {targets : List (List Text)} {d d' : Disk} (change : Disk.Changes targets d d')
    {root : List Text} (noSource : ∀ names, root ++ names ∈ targets → sourceAt root names = none) :
    sourcesBelow d' root = sourcesBelow d root := by
  refine sourcesBelow_congr ?_
  induction change with
  | refl => rfl
  | @directory d' there _ nothing ih =>
    rw [sourceNames_set rfl, ih]
    intro x member same
    exact absurd nothing (same ▸ Disk.get?_of_mem_entries member)
  | @file d' there content _ target _ ih =>
    have spared : ∀ x : List Text × Entry, x.1 = there → sourceNames? root x = none := by
      intro x same
      cases known : sourceNames? root x with
      | none => rfl
      | some names =>
        obtain ⟨⟨_, rfl⟩, source⟩ := sourceNames?_eq_some known
        have written : root ++ names ∈ targets := (show root ++ names = there from same) ▸ target
        rw [noSource names written] at source
        cases source
    rw [sourceNames_set (spared _ rfl) fun x _ => spared x, ih]

theorem mem_sourcesBelow {d : Disk} {root : List Text} {file : SourceFile} (member : file ∈ sourcesBelow d root) :
    ∃ names content, (root ++ names, .file content) ∈ d.entries ∧ sourceAt root names = some file := by
  rw [sourcesBelow_eq, List.mem_filterMap] at member
  obtain ⟨names, walked, source⟩ := member
  rw [Disk.filesBelow, List.mem_mergeSort, List.mem_filterMap] at walked
  obtain ⟨⟨key, e⟩, present, below⟩ := walked
  cases e with
  | directory => cases below
  | file content =>
    obtain rfl := List.isPrefixOf?_eq_some_iff_append_eq.mp below
    exact ⟨names, content, present, source⟩

/-- On a tree only a directory has sources below it. -/
theorem sourcesBelow_eq_nil {d : Disk} (tree : d.IsTree) {root : List Text}
    (noDirectory : d.get? root ≠ some .directory) : sourcesBelow d root = [] := by
  refine List.eq_nil_iff_forall_not_mem.mpr fun file member => ?_
  obtain ⟨names, content, present, source⟩ := mem_sourcesBelow member
  by_cases proper : names = []
  · rw [proper, sourceAt_eq_none (by decide)] at source
    cases source
  · exact noDirectory (tree.above proper (Disk.get?_of_mem_entries present))

/-! ### The walk -/

/-- The sources below a root, of which a missing one has none. -/
def rootSources (d : Disk) (cwd : List Text) (root : Path) : Except FileFault (List SourceFile) := do
  return if ← d.isDirectory cwd root then sourcesBelow d (root.resolve cwd).names else []

theorem mem_rootSources {d : Disk} {cwd : List Text} (plain : (".." : Text) ∉ cwd) {root : Path}
    {files : List SourceFile} (sources : rootSources d cwd root = .ok files) {file : SourceFile} (member : file ∈ files) :
    file ∈ sourcesBelow d (root.target cwd) := by
  obtain ⟨directory, _, sources⟩ := Fallible.bind_ok sources
  rw [← Except.ok.inj sources, Path.resolve_names plain] at member
  split at member
  · exact member
  · cases member

/-- A change that writes no source below a root leaves its sources as they were. A root that was missing and is a
directory now was made by the change, so that it holds none. -/
theorem rootSources_of_changes {targets : List (List Text)} {d d' : Disk} (change : Disk.Changes targets d d')
    (tree : d.IsTree) {cwd : List Text} (plain : (".." : Text) ∉ cwd) {root : Path} {files : List SourceFile}
    (smooth : d.Smooth d' (root.steps cwd))
    (noSource : ∀ names, root.target cwd ++ names ∈ targets → sourceAt (root.target cwd) names = none)
    (sources : rootSources d cwd root = .ok files) : rootSources d' cwd root = .ok files := by
  obtain ⟨directory, looked, sources⟩ := Fallible.bind_ok sources
  obtain ⟨found, inspected, isDirectory⟩ := Fallible.bind_ok looked
  obtain ⟨found', inspected', kept, old⟩ := change.keeps.inspect tree smooth inspected
  have same : sourcesBelow d' (root.target cwd) = sourcesBelow d (root.target cwd) :=
    sourcesBelow_of_changes change noSource
  rw [← Except.ok.inj sources, ← Except.ok.inj isDirectory, rootSources, Disk.isDirectory, inspected',
    Path.resolve_names plain]
  refine congrArg Except.ok ?_
  by_cases before : found = some .directory
  · rw [kept before, before, same]
  · by_cases now : found' = some .directory
    · have noDirectory : d.get? (root.target cwd) ≠ some .directory := fun there => before (old _ now there)
      simp [now, before, same, sourcesBelow_eq_nil tree noDirectory]
    · simp [now, before]

/-- Progress with the same files, whatever was recorded. -/
def Progress.Alike (p p' : Progress) : Prop := p.seen = p'.seen ∧ p.found = p'.found

theorem Progress.Alike.meet {p p' : Progress} (alike : p.Alike p') (s : Scan) (f : Filter) (file : SourceFile) :
    (p.meet s f file).Alike (p'.meet s f file) := by
  obtain ⟨seen, found⟩ := alike
  unfold Progress.meet
  rw [seen]
  split
  · exact ⟨seen, found⟩
  · dsimp only
    split
    · exact ⟨rfl, by rw [found]⟩
    · exact ⟨rfl, found⟩

theorem Progress.Alike.meetAll {p p' : Progress} (alike : p.Alike p') (s : Scan) (f : Filter) (files : List SourceFile) :
    (files.foldl (Progress.meet s f) p).Alike (files.foldl (Progress.meet s f) p') := by
  induction files generalizing p p' with
  | nil => exact alike
  | cons file files ih => exact ih (alike.meet s f file)

theorem Progress.Alike.trans {p p' p'' : Progress} (first : p.Alike p') (second : p'.Alike p'') : p.Alike p'' :=
  ⟨first.1.trans second.1, first.2.trans second.2⟩

theorem Progress.Alike.symm {p p' : Progress} (alike : p.Alike p') : p'.Alike p := ⟨alike.1.symm, alike.2.symm⟩

theorem walk_root {s : Scan} {d : Disk} {a : Account} (f : Filter) {root : Text} (roots : List Text) (p : Progress)
    {path : Path} {files : List SourceFile} (expanded : a.expandHome (.ofText root) = .ok path)
    (sources : rootSources d a.cwd path = .ok files) :
    ∃ between, (files.foldl (Progress.meet s f) p).Alike between ∧
      s.walk d a f (root :: roots) p = s.walk d a f roots between := by
  obtain ⟨directory, inspected, sources⟩ := Fallible.bind_ok sources
  rw [walk, expanded]
  cases directory with
  | false =>
    cases sources
    refine ⟨p.note ("Skipping missing source root " ++ path.toText), ⟨rfl, rfl⟩, ?_⟩
    simp only [inspected]
  | true =>
    cases sources
    refine ⟨_, ⟨rfl, rfl⟩, ?_⟩
    simp only [inspected]
    rfl

theorem walk_ok {s : Scan} {d : Disk} {a : Account} {f : Filter} {root : Text} {roots : List Text} {p q : Progress}
    (walked : s.walk d a f (root :: roots) p = (q, none)) :
    ∃ path files, a.expandHome (.ofText root) = .ok path ∧ rootSources d a.cwd path = .ok files := by
  unfold walk at walked
  split at walked
  · cases walked
  · rename_i path expanded
    split at walked
    · cases walked
    · rename_i missing
      exact ⟨path, [], expanded, by rw [rootSources, missing]; rfl⟩
    · rename_i present
      exact ⟨path, _, expanded, by rw [rootSources, present]; rfl⟩

/-- Walks over roots with the same sources find the same files. -/
theorem walk_alike {s : Scan} {d d' : Disk} {a : Account} {f : Filter} {roots : List Text} {p p' q : Progress}
    (same : ∀ root ∈ roots, ∀ path files, a.expandHome (.ofText root) = .ok path →
      rootSources d a.cwd path = .ok files → rootSources d' a.cwd path = .ok files)
    (alike : p.Alike p') (walked : s.walk d a f roots p = (q, none)) :
    ∃ q', s.walk d' a f roots p' = (q', none) ∧ q.Alike q' := by
  induction roots generalizing p p' with
  | nil =>
    cases walked
    exact ⟨p', rfl, alike⟩
  | cons root roots ih =>
    obtain ⟨path, files, expanded, sources⟩ := walk_ok walked
    have sources' := same root List.mem_cons_self path files expanded sources
    obtain ⟨between, met, step⟩ := walk_root f roots p expanded sources
    obtain ⟨between', met', step'⟩ := walk_root f roots p' expanded sources'
    rw [step] at walked
    rw [step']
    have alikeBetween := (met.symm.trans (alike.meetAll s f files)).trans met'
    exact ih (fun root member => same root (List.mem_cons_of_mem _ member)) alikeBetween walked

theorem mem_found_meetAll {s : Scan} {f : Filter} {files : List SourceFile} {p : Progress} {file : SourceFile}
    (member : file ∈ (files.foldl (Progress.meet s f) p).found) : file ∈ p.found ∨ file ∈ files := by
  induction files generalizing p with
  | nil => exact Or.inl member
  | cons next files ih =>
    rcases ih member with before | later
    · unfold Progress.meet at before
      split at before
      · exact Or.inl before
      · dsimp only at before
        split at before
        · rcases List.mem_append.mp before with old | new
          · exact Or.inl old
          · exact Or.inr (List.mem_singleton.mp new ▸ List.mem_cons_self)
        · exact Or.inl before
    · exact Or.inr (List.mem_cons_of_mem _ later)

/-- Every file that a walk finds is a source below one of its roots. -/
theorem mem_found {s : Scan} {d : Disk} {a : Account} {f : Filter} {roots : List Text} {p q : Progress}
    (walked : s.walk d a f roots p = (q, none)) {file : SourceFile} (member : file ∈ q.found) :
    file ∈ p.found ∨ ∃ root ∈ roots, ∃ path files, a.expandHome (.ofText root) = .ok path ∧
      rootSources d a.cwd path = .ok files ∧ file ∈ files := by
  induction roots generalizing p with
  | nil =>
    cases walked
    exact Or.inl member
  | cons root roots ih =>
    obtain ⟨path, files, expanded, sources⟩ := walk_ok walked
    obtain ⟨between, met, step⟩ := walk_root f roots p expanded sources
    rw [step] at walked
    rcases ih walked with before | ⟨later, present, rest⟩
    · rw [← met.2] at before
      rcases mem_found_meetAll before with old | new
      · exact Or.inl old
      · exact Or.inr ⟨root, List.mem_cons_self, path, files, expanded, sources, new⟩
    · exact Or.inr ⟨later, List.mem_cons_of_mem _ present, rest⟩

theorem mem_run {s : Scan} {d : Disk} {a : Account} {files : List SourceFile} (scanned : (s.run d a).2 = .ok files)
    {file : SourceFile} (member : file ∈ files) :
    ∃ root ∈ s.allRoots, ∃ path sources, a.expandHome (.ofText root) = .ok path ∧
      rootSources d a.cwd path = .ok sources ∧ file ∈ sources := by
  unfold run at scanned
  split at scanned
  · cases scanned
  · split at scanned
    · cases scanned
    · rename_i q walked
      cases scanned
      exact (mem_found walked (List.mem_mergeSort.mp member)).resolve_left (by simp)

/-- A scan selects the same files where the roots have the same sources. -/
theorem run_of_rootSources {s : Scan} {d d' : Disk} {a : Account} {files : List SourceFile}
    (same : ∀ root ∈ s.allRoots, ∀ path files, a.expandHome (.ofText root) = .ok path →
      rootSources d a.cwd path = .ok files → rootSources d' a.cwd path = .ok files)
    (scanned : (s.run d a).2 = .ok files) : (s.run d' a).2 = .ok files := by
  unfold run at scanned ⊢
  split at scanned
  · cases scanned
  · split at scanned
    · cases scanned
    · rename_i q walked
      obtain ⟨q', walked', alike⟩ := walk_alike same ⟨rfl, rfl⟩ walked
      cases scanned
      simp only [walked', alike.2]

end RouteScript.Scan
