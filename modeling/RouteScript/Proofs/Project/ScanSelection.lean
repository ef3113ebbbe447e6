import RouteScript.Proofs.Files.MissingFiles
import RouteScript.Proofs.Project.ScanStability
import RouteScript.Proofs.Text.Parts

/-!
# What a scan selects

A file that lies below several roots of a scan is seen from the first of them: its path from there is what the patterns
are tried on. `run_selects` says which files a scan selects and in which order, whatever order the entries of the disk
are listed in.
-/

namespace RouteScript

/-! ### Forests -/

/-- A forest of directories: a directory holds every entry, no two entries have the same names, and slashes stand
between names only. -/
structure Disk.IsForest (d : Disk) : Prop where
  tree : d.IsTree
  distinct : (d.entries.map Prod.fst).Nodup
  named : ∀ x ∈ d.entries, ∀ name ∈ x.1, .char '/' ∉ name

instance (d : Disk) : Decidable d.IsForest :=
  decidable_of_iff (d.IsTree ∧ (d.entries.map Prod.fst).Nodup ∧ ∀ x ∈ d.entries, ∀ name ∈ x.1, .char '/' ∉ name)
    ⟨fun ⟨tree, distinct, named⟩ => ⟨tree, distinct, named⟩, fun forest => ⟨forest.tree, forest.distinct, forest.named⟩⟩

theorem Path.absolute_toText_inj {s t : List Text} (some : s ≠ []) (some' : t ≠ [])
    (proper : ∀ name ∈ s, .char '/' ∉ name) (proper' : ∀ name ∈ t, .char '/' ∉ name)
    (same : (absolute s).toText = (absolute t).toText) : s = t := by
  have written : ∀ names : List Text, (absolute names).toText = .char '/' :: Text.joinWith [.char '/'] names :=
    fun _ => rfl
  rw [written, written] at same
  rw [← Text.parts_joinWith some proper, (List.cons.inj same).2, Text.parts_joinWith some' proper']

namespace Scan

/-! ### What a root shows -/

theorem sourceAt_eq_some_iff {root names : List Text} {file : SourceFile} :
    sourceAt root names = some file ↔
      (∀ name ∈ names.dropLast, name ∉ excludedDirectories) ∧
      Dialect.ofFileName? (names.getLast?.getD []) = some file.dialect ∧
      file.path = .absolute (root ++ names) ∧ file.relative = Text.joinWith "/" names := by
  have walked : names.dropLast.any excludedDirectories.contains = false ↔
      ∀ name ∈ names.dropLast, name ∉ excludedDirectories := by
    simp only [List.any_eq_false, List.contains_iff_mem]
  obtain ⟨path, relative, dialect⟩ := file
  rw [← walked, sourceAt]
  cases names.dropLast.any excludedDirectories.contains with
  | true => simp
  | false =>
    rw [if_neg (by simp), Option.map_eq_some_iff]
    constructor
    · rintro ⟨_, named, same⟩
      cases same
      exact ⟨rfl, named, rfl, rfl⟩
    · rintro ⟨_, named, rfl, rfl⟩
      exact ⟨_, named, rfl⟩

theorem mem_sourcesBelow_iff {d : Disk} (distinct : (d.entries.map Prod.fst).Nodup) {root : List Text}
    {file : SourceFile} :
    file ∈ sourcesBelow d root ↔
      ∃ names content, d.get? (root ++ names) = some (.file content) ∧ sourceAt root names = some file := by
  have named : ∀ {names}, sourceAt root names = some file → root ++ names ≠ [] := by
    rintro names source none
    rw [(List.append_eq_nil_iff.mp none).2, sourceAt_eq_none (by decide)] at source
    cases source
  constructor
  · intro member
    obtain ⟨names, content, present, source⟩ := mem_sourcesBelow member
    exact ⟨names, content, Disk.get?_eq_of_mem_entries distinct (named source) present, source⟩
  · rintro ⟨names, content, present, source⟩
    rw [sourcesBelow_eq, List.mem_filterMap]
    refine ⟨names, ?_, source⟩
    rw [Disk.filesBelow, List.mem_mergeSort, List.mem_filterMap]
    exact ⟨_, Disk.mem_entries_of_get? (named source) present, List.isPrefixOf?_eq_some_iff_append_eq.mpr rfl⟩

/-- The scan sees the file from the root: the root is a directory, the file lies below it with no excluded directory
between them, and its name is that of a dialect that is looked for. -/
def Sees (s : Scan) (d : Disk) (a : Account) (root : Text) (file : SourceFile) : Prop :=
  ∃ (path : Path) (directory names : List Text) (content : Bytes),
    a.expandHome (.ofText root) = .ok path ∧ d.locate a.cwd path = .ok (directory, some .directory) ∧
    d.get? (directory ++ names) = some (.file content) ∧ (∀ name ∈ names.dropLast, name ∉ excludedDirectories) ∧
    Dialect.ofFileName? (names.getLast?.getD []) = some file.dialect ∧ s.enables file.dialect ∧
    file.path = .absolute (directory ++ names) ∧ file.relative = Text.joinWith "/" names

/-- A root can be walked or is found missing: its home directory is known and no name in it is too long. -/
def Walkable (d : Disk) (a : Account) (root : Text) : Prop :=
  ∃ path present, a.expandHome (.ofText root) = .ok path ∧ d.isDirectory a.cwd path = .ok present

section Seeing

variable {s : Scan} {d : Disk} {a : Account} {root : Text} {file other : SourceFile}

theorem Sees.unique (first : s.Sees d a root file) (second : s.Sees d a root other) (same : file.path = other.path) :
    file = other := by
  obtain ⟨path, directory, names, _, expanded, located, _, _, dialect, _, filePath, relative⟩ := first
  obtain ⟨path', directory', names', _, expanded', located', _, _, dialect', _, filePath', relative'⟩ := second
  cases expanded.symm.trans expanded'
  cases located.symm.trans located'
  have below : directory ++ names = directory ++ names' :=
    congrArg Path.names (filePath.symm.trans (same.trans filePath'))
  cases List.append_cancel_left below
  obtain ⟨_, _, _⟩ := file
  obtain ⟨_, _, _⟩ := other
  cases Option.some.inj (dialect.symm.trans dialect')
  simp only at same relative relative'
  rw [same, relative, relative']

variable (distinct : (d.entries.map Prod.fst).Nodup) (plain : (".." : Text) ∉ a.cwd)

include distinct plain

theorem mem_rootSources_iff {path : Path} {files : List SourceFile}
    (expanded : a.expandHome (.ofText root) = .ok path) (sources : rootSources d a.cwd path = .ok files) :
    file ∈ files ∧ s.enables file.dialect ↔ s.Sees d a root file := by
  obtain ⟨present, looked, sources⟩ := Fallible.bind_ok sources
  obtain ⟨found, inspected, isDirectory⟩ := Fallible.bind_ok looked
  have present_iff : present = true ↔ found = some .directory := by
    rw [← Except.ok.inj isDirectory, beq_iff_eq]
  rw [← Except.ok.inj sources, Path.resolve_names plain]
  constructor
  · rintro ⟨member, enabled⟩
    split at member
    · rename_i walked
      rw [present_iff.mp walked] at inspected
      obtain ⟨names, content, there, source⟩ := (mem_sourcesBelow_iff distinct).mp member
      obtain ⟨free, dialect, filePath, relative⟩ := sourceAt_eq_some_iff.mp source
      exact ⟨path, path.target a.cwd, names, content, expanded, Disk.inspect_eq_some_iff.mp inspected, there, free,
        dialect, enabled, filePath, relative⟩
    · cases member
  · rintro ⟨path', directory, names, content, expanded', located, there, free, dialect, enabled, filePath, relative⟩
    cases expanded.symm.trans expanded'
    obtain rfl := (Disk.locate_ok located).1
    cases inspected.symm.trans (Disk.inspect_eq_some_iff.mpr located)
    rw [if_pos (present_iff.mpr rfl)]
    exact ⟨(mem_sourcesBelow_iff distinct).mpr ⟨names, content, there,
      sourceAt_eq_some_iff.mpr ⟨free, dialect, filePath, relative⟩⟩, enabled⟩

end Seeing

/-! ### Meeting the files of a root -/

def dotted (relative : Text) : Text := relative.map fun c => if c = .char '/' then .char '.' else c

/-- The names that patterns are tried on: the path from the root, with points for slashes, that without what follows
its last point, and the name of the file. -/
inductive Candidate (relative : Text) : Text → Prop
  | path : Candidate relative relative
  | dotted : Candidate relative (dotted relative)
  | stem (stem last : Text) (cut : Scan.dotted relative = stem ++ .char '.' :: last) (final : .char '.' ∉ last) :
      Candidate relative stem
  | name (front name : Text) (cut : relative = front ++ .char '/' :: name) (final : .char '/' ∉ name) :
      Candidate relative name

theorem mem_matchNames_iff {relative name : Text} : name ∈ matchNames relative ↔ Candidate relative name := by
  have points : Text.replaceEach (.char '/') (.char '.') relative = dotted relative := rfl
  simp only [matchNames, points, List.mem_cons, List.not_mem_nil, or_false]
  constructor
  · rintro (rfl | rfl | rfl | rfl)
    · exact .path
    · exact .dotted
    · cases cut : Text.cutLast? (.char '.') (dotted relative) with
      | none => exact .dotted
      | some x =>
        obtain ⟨cut, final⟩ := Text.cutLast?_eq_some_iff.mp cut
        exact .stem x.1 x.2 cut final
    · cases cut : Text.cutLast? (.char '/') relative with
      | none => exact .path
      | some x =>
        obtain ⟨cut, final⟩ := Text.cutLast?_eq_some_iff.mp cut
        exact .name x.1 x.2 cut final
  · intro candidate
    cases candidate with
    | path => exact Or.inl rfl
    | dotted => exact Or.inr (Or.inl rfl)
    | stem stem last cut final => simp [Text.cutLast?_eq_some_iff.mpr ⟨cut, final⟩]
    | name front name cut final => simp [Text.cutLast?_eq_some_iff.mpr ⟨cut, final⟩]

/-- No exclude fits a name of the file and, where there are includes, one of them fits one. -/
def Filter.Admits (f : Filter) (relative : Text) : Prop :=
  (∀ pattern ∈ f.excludes, ∀ name, Candidate relative name → ¬pattern.matchesName name) ∧
    (f.includes = [] ∨ ∃ pattern ∈ f.includes, ∃ name, Candidate relative name ∧ pattern.matchesName name)

theorem Filter.selects_iff {f : Filter} {relative : Text} : f.selects relative ↔ f.Admits relative := by
  simp only [selects, Admits, FilePattern.matchesAny, Bool.and_eq_true, Bool.or_eq_true, Bool.not_eq_true',
    List.any_eq_false, List.any_eq_true, List.isEmpty_iff, not_exists, not_and, mem_matchNames_iff]

theorem mem_seen_meet {s : Scan} {f : Filter} {p : Progress} {file : SourceFile} {path : Path} :
    path ∈ (p.meet s f file).seen ↔ path ∈ p.seen ∨ s.enables file.dialect ∧ file.path = path := by
  unfold Progress.meet
  split
  · rename_i skipped
    simp only [Bool.or_eq_true, Bool.not_eq_true', List.contains_iff_mem] at skipped
    refine ⟨Or.inl, ?_⟩
    rintro (seen | ⟨enabled, rfl⟩)
    · exact seen
    · exact skipped.resolve_left (by simp [enabled])
  · rename_i met
    simp only [Bool.or_eq_true, Bool.not_eq_true', List.contains_iff_mem, not_or, Bool.not_eq_false] at met
    have seen : path ∈ file.path :: p.seen ↔ path ∈ p.seen ∨ s.enables file.dialect ∧ file.path = path := by
      rw [List.mem_cons, or_comm, and_iff_right met.1, eq_comm]
    dsimp only
    split
    · exact seen
    · exact seen

theorem mem_found_meet {s : Scan} {f : Filter} {p : Progress} {file x : SourceFile} :
    x ∈ (p.meet s f file).found ↔
      x ∈ p.found ∨ x = file ∧ s.enables file.dialect ∧ file.path ∉ p.seen ∧ f.selects file.relative := by
  unfold Progress.meet
  split
  · rename_i skipped
    simp only [Bool.or_eq_true, Bool.not_eq_true', List.contains_iff_mem] at skipped
    refine ⟨Or.inl, ?_⟩
    rintro (found | ⟨_, enabled, unseen, _⟩)
    · exact found
    · rcases skipped with disabled | seen
      · rw [enabled] at disabled
        cases disabled
      · exact absurd seen unseen
  · rename_i met
    simp only [Bool.or_eq_true, Bool.not_eq_true', List.contains_iff_mem, not_or, Bool.not_eq_false] at met
    dsimp only
    split
    · rename_i selected
      rw [List.mem_append, List.mem_singleton]
      simp only [met, selected, not_false_eq_true, and_true]
    · rename_i filtered
      exact ⟨Or.inl, fun found => found.elim id fun ⟨_, _, _, selected⟩ => absurd selected filtered⟩

theorem mem_seen_meetAll {s : Scan} {f : Filter} {files : List SourceFile} {p : Progress} {path : Path} :
    path ∈ (files.foldl (Progress.meet s f) p).seen ↔
      path ∈ p.seen ∨ ∃ file ∈ files, s.enables file.dialect ∧ file.path = path := by
  induction files generalizing p with
  | nil => simp
  | cons file files ih =>
    rw [List.foldl_cons, ih, mem_seen_meet]
    simp only [List.mem_cons, exists_eq_or_imp, or_assoc]

/-- Of files with different paths, those are found that have not been met before and that the patterns select. -/
theorem mem_found_meetAll_iff {s : Scan} {f : Filter} {files : List SourceFile} {p : Progress} {x : SourceFile}
    (apart : ∀ file ∈ files, ∀ other ∈ files, s.enables file.dialect → s.enables other.dialect →
      file.path = other.path → file = other) :
    x ∈ (files.foldl (Progress.meet s f) p).found ↔
      x ∈ p.found ∨ x ∈ files ∧ s.enables x.dialect ∧ x.path ∉ p.seen ∧ f.selects x.relative := by
  induction files generalizing p with
  | nil => simp
  | cons file files ih =>
    rw [List.foldl_cons, ih fun y member z member' => apart y (List.mem_cons_of_mem _ member) z
      (List.mem_cons_of_mem _ member'), mem_found_meet, mem_seen_meet, List.mem_cons]
    constructor
    · rintro ((found | ⟨rfl, new⟩) | ⟨later, enabled, unseen, selected⟩)
      · exact Or.inl found
      · exact Or.inr ⟨Or.inl rfl, new⟩
      · exact Or.inr ⟨Or.inr later, enabled, fun seen => unseen (Or.inl seen), selected⟩
    · rintro (found | ⟨rfl | later, enabled, unseen, selected⟩)
      · exact Or.inl (Or.inl found)
      · exact Or.inl (Or.inr ⟨rfl, enabled, unseen, selected⟩)
      · -- Where the first file has the path of `x`, it is `x`.
        by_cases met : s.enables file.dialect ∧ file.path = x.path
        · obtain rfl := apart file List.mem_cons_self x (List.mem_cons_of_mem _ later) met.1 enabled met.2
          exact Or.inl (Or.inr ⟨rfl, enabled, unseen, selected⟩)
        · exact Or.inr ⟨later, enabled, fun seen => seen.elim unseen met, selected⟩

/-- The files found have been met, and no two of them have the same path. -/
def Progress.IsSound (p : Progress) : Prop :=
  (∀ file ∈ p.found, file.path ∈ p.seen) ∧ (p.found.map (·.path)).Nodup

theorem Progress.IsSound.meet {p : Progress} (sound : p.IsSound) (s : Scan) (f : Filter) (file : SourceFile) :
    (p.meet s f file).IsSound := by
  refine ⟨?_, ?_⟩
  · intro x found
    rw [mem_seen_meet]
    rcases mem_found_meet.mp found with old | ⟨rfl, enabled, _⟩
    · exact Or.inl (sound.1 x old)
    · exact Or.inr ⟨enabled, rfl⟩
  · unfold Progress.meet
    split
    · exact sound.2
    · rename_i met
      simp only [Bool.or_eq_true, List.contains_iff_mem, not_or] at met
      dsimp only
      split
      · rw [List.map_append, List.nodup_append]
        refine ⟨sound.2, by simp, ?_⟩
        intro path old path' new
        obtain ⟨x, found, rfl⟩ := List.mem_map.mp old
        obtain rfl := List.mem_singleton.mp new
        intro same
        have seen := sound.1 x found
        rw [same] at seen
        exact met.2 seen
      · exact sound.2

theorem Progress.IsSound.meetAll {p : Progress} (sound : p.IsSound) (s : Scan) (f : Filter) (files : List SourceFile) :
    (files.foldl (Progress.meet s f) p).IsSound := by
  induction files generalizing p with
  | nil => exact sound
  | cons file files ih => exact ih (sound.meet s f file)

/-! ### Walking the roots -/

/-- No file of the path is seen from one of the roots. -/
def Misses (s : Scan) (d : Disk) (a : Account) (roots : List Text) (path : Path) : Prop :=
  ∀ root ∈ roots, ∀ file, s.Sees d a root file → file.path ≠ path

/-- The file as it is seen from the first of the roots that it is seen from. -/
def FirstSeen (s : Scan) (d : Disk) (a : Account) (roots : List Text) (file : SourceFile) : Prop :=
  ∃ before root after, roots = before ++ root :: after ∧ s.Sees d a root file ∧ s.Misses d a before file.path

theorem firstSeen_single {s : Scan} {d : Disk} {a : Account} {root : Text} {file : SourceFile} :
    s.FirstSeen d a [root] file ↔ s.Sees d a root file := by
  constructor
  · rintro ⟨before, _, after, divided, seen, _⟩
    obtain ⟨rfl, same⟩ := List.append_eq_singleton_iff.mp divided.symm |>.resolve_right (by simp)
    cases same
    exact seen
  · exact fun seen => ⟨[], root, [], rfl, seen, by simp [Misses]⟩

theorem firstSeen_append {s : Scan} {d : Disk} {a : Account} {roots later : List Text} {file : SourceFile} :
    s.FirstSeen d a (roots ++ later) file ↔
      s.FirstSeen d a roots file ∨ s.Misses d a roots file.path ∧ s.FirstSeen d a later file := by
  constructor
  · rintro ⟨before, root, after, divided, seen, missed⟩
    rcases List.append_eq_append_iff.mp divided with ⟨between, rfl, rfl⟩ | ⟨rest, rfl, ended⟩
    · refine Or.inr ⟨fun earlier member => missed earlier (List.mem_append_left _ member), between, root, after, rfl,
        seen, fun earlier member => missed earlier (List.mem_append_right _ member)⟩
    · cases rest with
      | nil =>
        rw [List.append_nil]
        exact Or.inr ⟨missed, [], root, after, ended.symm, seen, by simp [Misses]⟩
      | cons first rest =>
        obtain ⟨rfl, rfl⟩ := List.cons.inj ended
        exact Or.inl ⟨before, root, rest, rfl, seen, missed⟩
  · rintro (⟨before, root, after, rfl, seen, missed⟩ | ⟨missed, before, root, after, rfl, seen, missed'⟩)
    · exact ⟨before, root, after ++ later, by simp, seen, missed⟩
    · refine ⟨roots ++ before, root, after, by simp, seen, fun earlier member => ?_⟩
      exact (List.mem_append.mp member).elim (missed earlier) (missed' earlier)

/-- What a scan has met and found after walking the roots. -/
structure Progress.Covers (s : Scan) (d : Disk) (a : Account) (f : Filter) (roots : List Text) (p : Progress) : Prop where
  seen : ∀ path, path ∈ p.seen ↔ ∃ root ∈ roots, ∃ file, s.Sees d a root file ∧ file.path = path
  found : ∀ file, file ∈ p.found ↔ s.FirstSeen d a roots file ∧ f.selects file.relative
  sound : p.IsSound

theorem Progress.Covers.alike {s : Scan} {d : Disk} {a : Account} {f : Filter} {roots : List Text} {p p' : Progress}
    (covers : p.Covers s d a f roots) (same : p.Alike p') : p'.Covers s d a f roots := by
  obtain ⟨seen, found⟩ := same
  refine ⟨fun path => seen ▸ covers.seen path, fun file => found ▸ covers.found file, ?_⟩
  rw [Progress.IsSound, ← seen, ← found]
  exact covers.sound

theorem covers_nil (s : Scan) (d : Disk) (a : Account) (f : Filter) :
    Progress.Covers s d a f [] ⟨[], [], []⟩ := by
  refine ⟨by simp, fun file => ?_, by simp, by simp⟩
  constructor
  · intro member
    cases member
  · rintro ⟨⟨before, root, after, divided, _⟩, _⟩
    simp at divided

section Walking

variable {s : Scan} {d : Disk} {a : Account} {f : Filter} (distinct : (d.entries.map Prod.fst).Nodup)
  (plain : (".." : Text) ∉ a.cwd)

include distinct plain

theorem Progress.Covers.meetRoot {roots : List Text} {root : Text} {p : Progress} (covers : p.Covers s d a f roots)
    {path : Path} {files : List SourceFile} (expanded : a.expandHome (.ofText root) = .ok path)
    (sources : rootSources d a.cwd path = .ok files) :
    (files.foldl (Progress.meet s f) p).Covers s d a f (roots ++ [root]) := by
  have shown : ∀ file, file ∈ files ∧ s.enables file.dialect ↔ s.Sees d a root file :=
    fun _ => mem_rootSources_iff distinct plain expanded sources
  have apart : ∀ file ∈ files, ∀ other ∈ files, s.enables file.dialect → s.enables other.dialect →
      file.path = other.path → file = other := fun file member other member' enabled enabled' =>
    ((shown file).mp ⟨member, enabled⟩).unique ((shown other).mp ⟨member', enabled'⟩)
  refine ⟨fun path => ?_, fun file => ?_, covers.sound.meetAll s f files⟩
  · rw [mem_seen_meetAll, covers.seen]
    simp only [List.mem_append, List.mem_singleton, or_and_right, exists_or, exists_eq_left, ← shown, and_assoc]
  · have unseen : file.path ∉ p.seen ↔ s.Misses d a roots file.path := by
      rw [covers.seen]
      simp only [Misses, not_exists, not_and, ne_eq]
    rw [mem_found_meetAll_iff apart, covers.found, firstSeen_append, firstSeen_single, unseen, ← shown]
    constructor
    · rintro (⟨first, selected⟩ | ⟨member, enabled, new, selected⟩)
      · exact ⟨Or.inl first, selected⟩
      · exact ⟨Or.inr ⟨new, member, enabled⟩, selected⟩
    · rintro ⟨first | ⟨new, member, enabled⟩, selected⟩
      · exact Or.inl ⟨first, selected⟩
      · exact Or.inr ⟨member, enabled, new, selected⟩

theorem walk_covers {roots earlier : List Text} {p q : Progress} (covers : p.Covers s d a f earlier)
    (walked : s.walk d a f roots p = (q, none)) : q.Covers s d a f (earlier ++ roots) := by
  induction roots generalizing p earlier with
  | nil =>
    cases walked
    rwa [List.append_nil]
  | cons root roots ih =>
    obtain ⟨path, files, expanded, sources⟩ := walk_ok walked
    obtain ⟨between, met, step⟩ := walk_root f roots p expanded sources
    rw [step] at walked
    have next := ih ((covers.meetRoot distinct plain expanded sources).alike met) walked
    rwa [List.append_assoc] at next

end Walking

theorem walk_ok_iff {s : Scan} {d : Disk} {a : Account} {f : Filter} {roots : List Text} {p : Progress} :
    (∃ q, s.walk d a f roots p = (q, none)) ↔ ∀ root ∈ roots, Walkable d a root := by
  induction roots generalizing p with
  | nil => exact ⟨fun _ => by simp, fun _ => ⟨p, rfl⟩⟩
  | cons root roots ih =>
    rw [List.forall_mem_cons]
    constructor
    · rintro ⟨q, walked⟩
      obtain ⟨path, files, expanded, sources⟩ := walk_ok walked
      obtain ⟨present, looked, _⟩ := Fallible.bind_ok sources
      obtain ⟨between, _, step⟩ := walk_root f roots p expanded sources
      exact ⟨⟨path, present, expanded, looked⟩, ih.mp ⟨q, step ▸ walked⟩⟩
    · rintro ⟨⟨path, present, expanded, looked⟩, later⟩
      have sources : rootSources d a.cwd path =
          .ok (if present then sourcesBelow d (path.resolve a.cwd).names else []) := by
        rw [rootSources, looked]
        rfl
      obtain ⟨between, _, step⟩ := walk_root f roots p expanded sources
      rw [step]
      exact ih.mpr later

/-! ### Scans -/

theorem run_ok_iff {s : Scan} {d : Disk} {a : Account} {files : List SourceFile} :
    (s.run d a).2 = .ok files ↔ ∃ f q, s.filter = .ok f ∧ s.walk d a f s.allRoots ⟨[], [], []⟩ = (q, none) ∧
      files = inOrder q.found := by
  unfold run
  constructor
  · intro scanned
    split at scanned
    · cases scanned
    · rename_i f compiled
      split at scanned
      · cases scanned
      · rename_i q walked
        exact ⟨f, q, compiled, walked, (Except.ok.inj scanned).symm⟩
  · rintro ⟨f, q, compiled, walked, rfl⟩
    rw [compiled]
    dsimp only
    rw [walked]

theorem run_succeeds_iff {s : Scan} {d : Disk} {a : Account} :
    (∃ files, (s.run d a).2 = .ok files) ↔ (∃ f, s.filter = .ok f) ∧ ∀ root ∈ s.allRoots, Walkable d a root := by
  simp only [run_ok_iff]
  constructor
  · rintro ⟨_, f, q, compiled, walked, _⟩
    exact ⟨⟨f, compiled⟩, walk_ok_iff.mp ⟨q, walked⟩⟩
  · rintro ⟨⟨f, compiled⟩, walkable⟩
    obtain ⟨q, walked⟩ := walk_ok_iff.mpr walkable
    exact ⟨_, f, q, compiled, walked, rfl⟩

section Scanning

variable {d : Disk} (forest : d.IsForest) {a : Account} (working : d.get? a.cwd = some .directory)

include forest working

theorem mem_run_iff {s : Scan} {f : Filter} {files : List SourceFile} (compiled : s.filter = .ok f)
    (scanned : (s.run d a).2 = .ok files) {file : SourceFile} :
    file ∈ files ↔ s.FirstSeen d a s.allRoots file ∧ f.selects file.relative := by
  obtain ⟨f', q, compiled', walked, rfl⟩ := run_ok_iff.mp scanned
  cases compiled.symm.trans compiled'
  have covers := walk_covers forest.distinct (forest.tree.plain (by simp [working])) (covers_nil s d a f) walked
  rw [inOrder, List.mem_mergeSort, covers.found, List.nil_append]

omit working in
theorem Sees.path_named {s : Scan} {root : Text} {file : SourceFile} (seen : s.Sees d a root file) :
    ∃ names, names ≠ [] ∧ (∀ name ∈ names, .char '/' ∉ name) ∧ file.path = .absolute names := by
  obtain ⟨path, directory, names, content, _, _, present, _, dialect, _, filePath, _⟩ := seen
  have some : directory ++ names ≠ [] := by
    intro none
    rw [none] at present
    cases present
  exact ⟨directory ++ names, some, forest.named _ (Disk.mem_entries_of_get? some present), filePath⟩

theorem run_increasing {s : Scan} {files : List SourceFile} (scanned : (s.run d a).2 = .ok files) :
    files.Pairwise fun x y => Text.Before x.path.toText y.path.toText := by
  obtain ⟨f, q, compiled, walked, rfl⟩ := run_ok_iff.mp scanned
  have covers := walk_covers forest.distinct (forest.tree.plain (by simp [working])) (covers_nil s d a f) walked
  have sorted : (inOrder q.found).Pairwise fun x y => Text.le x.path.toText y.path.toText := by
    refine List.pairwise_mergeSort ?_ ?_ q.found
    · exact fun _ _ _ => Text.le_trans
    · exact fun _ _ => Text.le_total _ _
  have once : (inOrder q.found).Pairwise fun x y => x.path ≠ y.path :=
    List.pairwise_map.mp (((List.mergeSort_perm _ _).map _).nodup_iff.mpr covers.sound.2)
  have named : ∀ x ∈ inOrder q.found, ∃ names, names ≠ [] ∧ (∀ name ∈ names, .char '/' ∉ name) ∧
      x.path = .absolute names := by
    intro x member
    obtain ⟨⟨_, _, _, _, seen, _⟩, _⟩ := (covers.found x).mp (List.mem_mergeSort.mp member)
    exact seen.path_named forest
  -- Sorting compares the texts of paths, and these tell the paths of a forest apart.
  refine (sorted.and once).imp_of_mem ?_
  rintro x y member member' ⟨le, different⟩
  refine (Text.le_iff.mp le).resolve_left fun same => different ?_
  obtain ⟨names, some, proper, path⟩ := named x member
  obtain ⟨names', some', proper', path'⟩ := named y member'
  rw [path, path'] at same ⊢
  rw [Path.absolute_toText_inj some some' proper proper' same]

end Scanning

/-! ### The order of entries -/

theorem get?_perm {d d' : Disk} (distinct : (d.entries.map Prod.fst).Nodup) (same : d'.entries.Perm d.entries)
    (names : List Text) : d'.get? names = d.get? names := by
  have distinct' : (d'.entries.map Prod.fst).Nodup := (same.map _).nodup_iff.mpr distinct
  by_cases proper : names = []
  · rw [proper]
    rfl
  · refine Option.ext fun e => ⟨fun present => ?_, fun present => ?_⟩
    · exact Disk.get?_eq_of_mem_entries distinct proper (same.mem_iff.mp (Disk.mem_entries_of_get? proper present))
    · exact Disk.get?_eq_of_mem_entries distinct' proper (same.mem_iff.mpr (Disk.mem_entries_of_get? proper present))

theorem sourcesBelow_perm {d d' : Disk} (same : d'.entries.Perm d.entries) (root : List Text) :
    sourcesBelow d' root = sourcesBelow d root := by
  have files : d'.filesBelow root = d.filesBelow root := by
    refine Disk.eq_of_walksBefore ?_ (d'.filesBelow_sorted root) (d.filesBelow_sorted root)
    exact (List.mergeSort_perm _ _).trans ((same.filterMap _).trans (List.mergeSort_perm _ _).symm)
  rw [sourcesBelow_eq, sourcesBelow_eq, files]

theorem run_perm {d d' : Disk} (distinct : (d.entries.map Prod.fst).Nodup) (same : d'.entries.Perm d.entries)
    (s : Scan) (a : Account) : s.run d' a = s.run d a := by
  have lacks : Disk.Lacks [] d d' := fun names => Or.inl (get?_perm distinct same names)
  have walks : ∀ f roots p, s.walk d' a f roots p = s.walk d a f roots p := by
    intro f roots
    induction roots with
    | nil => exact fun _ => rfl
    | cons root roots ih =>
      intro p
      simp only [walk, lacks.isDirectory, sourcesBelow_perm same, ih]
  simp only [run, walks]

/-- A scan selects the files that the patterns admit by their path from the first root that sees them, in order. -/
theorem run_selects {d : Disk} (forest : d.IsForest) {a : Account} (working : d.get? a.cwd = some .directory)
    (s : Scan) :
    ((∃ files, (s.run d a).2 = .ok files) ↔ (∃ f, s.filter = .ok f) ∧ ∀ root ∈ s.allRoots, Walkable d a root) ∧
    (∀ files, (s.run d a).2 = .ok files → ∃ f, s.filter = .ok f ∧
      (∀ dialect file, file ∈ ofDialect dialect files ↔
        file.dialect = dialect ∧ s.FirstSeen d a s.allRoots file ∧ f.Admits file.relative) ∧
      (files.Pairwise fun x y => Text.Before x.path.toText y.path.toText) ∧
      ∀ dialect, (ofDialect dialect files).Pairwise fun x y => Text.Before x.path.toText y.path.toText) ∧
    ∀ d' : Disk, d'.entries.Perm d.entries → s.run d' a = s.run d a := by
  refine ⟨run_succeeds_iff, fun files scanned => ?_, fun d' same => run_perm forest.distinct same s a⟩
  obtain ⟨f, _, compiled, _⟩ := run_ok_iff.mp scanned
  have increasing := run_increasing forest working scanned
  refine ⟨f, compiled, fun dialect file => ?_, increasing, fun dialect => increasing.filter _⟩
  rw [ofDialect, List.mem_filter, mem_run_iff forest working compiled scanned, Filter.selects_iff, decide_eq_true_iff,
    and_comm]

def plainAccount : Account := ⟨[], .absolute [], []⟩

/-- Sources beside each other, in directories of their own and in an excluded one. -/
def groveDisk : Disk :=
  ⟨[(["a"], .directory), (["a", "x.xml"], .file []), (["a", "b"], .directory), (["a", "b", "Y.JAVA"], .file []),
    (["a", "b", "c"], .directory), (["a", "b", "c", "Z.java"], .file []), (["a", ".git"], .directory),
    (["a", ".git", "z.xml"], .file [])]⟩

/-- A root inside another one, with a pattern for its files by their paths from the outer one and a dotted name. -/
def groveScan : Scan := ⟨["/a/b", "/a", "/c"], [], false, true, true, [], ["b/*", "c.Z"]⟩

theorem run_selects_grove :
    let excluded : SourceFile := ⟨.absolute ["a", "b", "c", "Z.java"], "c/Z.java", .code⟩
    groveDisk.IsForest ∧ ∃ files, (groveScan.run groveDisk plainAccount).2 = .ok files ∧
      (⟨.absolute ["a", "b", "Y.JAVA"], "Y.JAVA", .code⟩ : SourceFile) ∈ ofDialect .code files ∧
      groveScan.FirstSeen groveDisk plainAccount groveScan.allRoots excluded ∧ excluded ∉ ofDialect .code files ∧
      (files.Pairwise fun x y => Text.Before x.path.toText y.path.toText) ∧
      groveScan.run ⟨groveDisk.entries.reverse⟩ plainAccount = groveScan.run groveDisk plainAccount := by
  have forest : groveDisk.IsForest := by decide +kernel
  obtain ⟨succeeds, selects, perm⟩ := run_selects forest (a := plainAccount) rfl groveScan
  have walkable : ∀ root ∈ groveScan.allRoots, Walkable groveDisk plainAccount root := by
    have looked : ∀ root ∈ groveScan.allRoots,
        ((plainAccount.expandHome (.ofText root)).toOption.bind fun path =>
          (groveDisk.isDirectory [] path).toOption).isSome := by decide +kernel
    intro root member
    obtain ⟨present, found⟩ := Option.isSome_iff_exists.mp (looked root member)
    obtain ⟨path, expanded, found⟩ := Option.bind_eq_some_iff.mp found
    exact ⟨path, present, Fallible.ok_of_toOption expanded, Fallible.ok_of_toOption found⟩
  have decided : groveScan.filter.toOption.any fun f => f.selects "Y.JAVA" && !f.selects "c/Z.java" := by decide +kernel
  obtain ⟨f, compiled, decided⟩ := (Option.any_eq_true _ _).mp decided
  obtain ⟨admitted, refused⟩ := Bool.and_eq_true_iff.mp decided
  obtain ⟨files, scanned⟩ := succeeds.mpr ⟨⟨f, Fallible.ok_of_toOption compiled⟩, walkable⟩
  obtain ⟨f', compiled', members, increasing, _⟩ := selects files scanned
  cases (Fallible.ok_of_toOption compiled).symm.trans compiled'
  refine ⟨forest, files, scanned, (members _ _).mpr ⟨rfl, ?_, Filter.selects_iff.mp admitted⟩, ?_, fun member => ?_,
    increasing, perm _ (List.reverse_perm _)⟩
  · refine ⟨[], "/a/b", ["/a", "/c"], rfl, ?_, by simp [Misses]⟩
    exact ⟨.absolute ["a", "b"], ["a", "b"], ["Y.JAVA"], [], rfl, rfl, rfl, by simp, by decide, rfl, rfl, rfl⟩
  · refine ⟨[], "/a/b", ["/a", "/c"], rfl, ?_, by simp [Misses]⟩
    exact ⟨.absolute ["a", "b"], ["a", "b"], ["c", "Z.java"], [], rfl, rfl, rfl, by decide, by decide, rfl, rfl, rfl⟩
  · rw [Filter.selects_iff.mpr ((members _ _).mp member).2.2] at refused
    cases refused

end Scan

end RouteScript
