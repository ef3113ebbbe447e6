import RouteScript.Files.Disk
import RouteScript.Proofs.Fallible

/-!
# Changes of a disk

`Changes targets d d'` says what a change from `d` to `d'` does: it makes directories where nothing was and writes
files at the targets. Making directories has no targets (`makeDirectories_changes`), and writing a file has one,
which the path leads to afterwards (`write_changes`). So a change leaves every directory alone, and every file that
is not among the targets (`Changes.keeps`).
-/

namespace RouteScript

namespace Disk

/-! ### Entries -/

theorem get?_set_self (d : Disk) {names : List Text} (e : Entry) (proper : names ≠ []) :
    (d.set names e).get? names = some e := by
  simp [get?, set, proper]

theorem lookup_filter (entries : List (List Text × Entry)) (keeps : List Text → Bool) {names : List Text}
    (kept : keeps names) : (entries.filter fun x => keeps x.1).lookup names = entries.lookup names := by
  induction entries with
  | nil => rfl
  | cons x entries ih =>
    obtain ⟨key, value⟩ := x
    by_cases keep : keeps key
    · rw [List.filter_cons_of_pos (by simpa using keep), List.lookup_cons, List.lookup_cons, ih]
    · have different : names ≠ key := by
        rintro rfl
        exact keep kept
      rw [List.filter_cons_of_neg (by simpa using keep), ih, List.lookup_cons, beq_false_of_ne different]

theorem get?_set_of_ne (d : Disk) {names other : List Text} (e : Entry) (different : other ≠ names) :
    (d.set names e).get? other = d.get? other := by
  have filtered := lookup_filter d.entries (fun key => key ≠ names) (decide_eq_true different)
  simp only [get?, set, List.lookup_cons, beq_false_of_ne different, filtered]

theorem get?_erase (d : Disk) {names other : List Text} (outside : ¬names <+: other) :
    (d.erase names).get? other = d.get? other := by
  have kept : (!names.isPrefixOf other) = true := by
    rw [Bool.not_eq_true', ← Bool.not_eq_true, List.isPrefixOf_iff_prefix]
    exact outside
  rw [get?, get?, erase, lookup_filter d.entries (fun key => !names.isPrefixOf key) kept]

/-- What a change leaves alone: every directory, and every file that is not among the targets. -/
structure Keeps (targets : List (List Text)) (d d' : Disk) : Prop where
  directories : ∀ names, d.get? names = some .directory → d'.get? names = some .directory
  files : ∀ names, names ∉ targets → ∀ content,
    d'.get? names = some (.file content) ↔ d.get? names = some (.file content)

theorem Keeps.refl (targets : List (List Text)) (d : Disk) : Keeps targets d d :=
  ⟨fun _ h => h, fun _ _ _ => Iff.rfl⟩

theorem Keeps.trans {targets targets' : List (List Text)} {d d' d'' : Disk} (first : Keeps targets d d')
    (second : Keeps targets' d' d'') : Keeps (targets ++ targets') d d'' := by
  refine ⟨fun names h => second.directories names (first.directories names h), ?_⟩
  intro names absent content
  rw [List.mem_append, not_or] at absent
  exact (second.files names absent.2 content).trans (first.files names absent.1 content)

theorem keeps_set {d : Disk} {there : List Text} {e : Entry} (noDirectory : d.get? there ≠ some .directory) :
    Keeps [there] d (d.set there e) := by
  constructor
  · intro names directory
    rwa [get?_set_of_ne]
    rintro rfl
    exact noDirectory directory
  · intro names absent content
    rw [get?_set_of_ne _ _ fun same => absent (List.mem_singleton.mpr same)]

theorem keeps_set_directory {d : Disk} {there : List Text} (nothing : d.get? there = none) :
    Keeps [] d (d.set there .directory) := by
  have change : Keeps [there] d (d.set there .directory) := keeps_set (by simp [nothing])
  refine ⟨change.directories, ?_⟩
  intro names _ content
  by_cases same : names = there
  · subst same
    have proper : names ≠ [] := by
      rintro rfl
      cases nothing
    simp [get?_set_self d .directory proper, nothing]
  · exact change.files names (by simpa using same) content

theorem Keeps.mono {targets targets' : List (List Text)} {d d' : Disk} (change : Keeps targets d d')
    (more : targets ⊆ targets') : Keeps targets' d d' :=
  ⟨change.directories, fun names absent => change.files names fun member => absent (more member)⟩

/-- What a change does: it makes directories where nothing was, and it writes files at the targets. -/
inductive Changes (targets : List (List Text)) (d : Disk) : Disk → Prop
  | refl : Changes targets d d
  | directory {d' : Disk} {there : List Text} (before : Changes targets d d') (nothing : d'.get? there = none) :
      Changes targets d (d'.set there .directory)
  | file {d' : Disk} {there : List Text} (content : Bytes) (before : Changes targets d d') (target : there ∈ targets)
      (noDirectory : d'.get? there ≠ some .directory) : Changes targets d (d'.set there (.file content))

theorem Changes.mono {targets targets' : List (List Text)} {d d' : Disk} (change : Changes targets d d')
    (more : targets ⊆ targets') : Changes targets' d d' := by
  induction change with
  | refl => exact .refl
  | directory _ nothing ih => exact .directory ih nothing
  | file content _ target noDirectory ih => exact .file content ih (more target) noDirectory

theorem Changes.trans {targets targets' : List (List Text)} {d d' d'' : Disk} (first : Changes targets d d')
    (second : Changes targets' d' d'') : Changes (targets ++ targets') d d'' := by
  induction second with
  | refl => exact first.mono (List.subset_append_left _ _)
  | directory _ nothing ih => exact .directory ih nothing
  | file content _ target noDirectory ih => exact .file content ih (List.mem_append_right _ target) noDirectory

theorem Changes.keeps {targets : List (List Text)} {d d' : Disk} (change : Changes targets d d') :
    Keeps targets d d' := by
  induction change with
  | refl => exact Keeps.refl targets d
  | directory _ nothing ih => exact (ih.trans (keeps_set_directory nothing)).mono (by simp)
  | file content _ target noDirectory ih => exact (ih.trans (keeps_set noDirectory)).mono (by simp [target])

/-! ### Paths -/

/-- Where names lead from `here` if they lead anywhere. -/
def landing (here : List Text) : List Text → List Text
  | [] => here
  | name :: rest => if name = ".." then landing here.dropLast rest else landing (here ++ [name]) rest

theorem landing_append (here : List Text) (s t : List Text) :
    landing here (s ++ t) = landing (landing here s) t := by
  induction s generalizing here with
  | nil => rfl
  | cons name s ih =>
    simp only [List.cons_append, landing]
    split
    · exact ih _
    · exact ih _

theorem landing_of_not_mem (here : List Text) {names : List Text} (plain : (".." : Text) ∉ names) :
    landing here names = here ++ names := by
  induction names generalizing here with
  | nil => simp [landing]
  | cons name names ih =>
    rw [List.mem_cons, not_or] at plain
    rw [landing, if_neg (Ne.symm plain.1), ih _ plain.2, List.append_assoc, List.singleton_append]

end Disk

def Path.target (cwd : List Text) (p : Path) : List Text :=
  Disk.landing (if p.isAbsolute then [] else cwd) p.names

namespace Disk

theorem follow_back (d : Disk) (here rest : List Text) :
    d.follow here (".." :: rest) = d.follow here.dropLast rest := by
  rw [follow, if_pos rfl]

theorem follow_down {d : Disk} {here : List Text} {name : Text} (proper : name ≠ "..")
    (short : ¬maxNameBytes < nameBytes name) (directory : d.get? (here ++ [name]) = some .directory)
    (rest : List Text) : d.follow here (name :: rest) = d.follow (here ++ [name]) rest := by
  rw [follow, if_neg proper, if_neg short]
  simp only [directory]

theorem follow_last {d : Disk} {here : List Text} {name : Text} {found : Option Entry} (proper : name ≠ "..")
    (short : ¬maxNameBytes < nameBytes name) (last : d.get? (here ++ [name]) = found) :
    d.follow here [name] = .ok (here ++ [name], found) := by
  rw [follow, if_neg proper, if_neg short]
  simp only [last]
  split <;> rfl

/-- Following names leads to where they land, and what is found there is on the disk, directories apart. -/
theorem follow_ok {d : Disk} {here names there : List Text} {found : Option Entry}
    (followed : d.follow here names = .ok (there, found)) :
    there = landing here names ∧ (found = some .directory ∨ d.get? there = found) := by
  fun_induction follow d here names with
  | case1 here =>
    cases followed
    exact ⟨rfl, Or.inl rfl⟩
  | case2 here rest ih =>
    rw [landing, if_pos rfl]
    exact ih followed
  | case3 => cases followed
  | case4 here name rest proper _ there' directory ih =>
    rw [landing, if_neg proper]
    exact ih followed
  | case5 here name proper _ there' noDirectory =>
    obtain ⟨rfl, rfl⟩ := Prod.mk.inj (Except.ok.inj followed)
    exact ⟨by rw [landing, if_neg proper]; rfl, Or.inr rfl⟩
  | case6 => cases followed

/-- On a disk with the same directories and more, names lead to the same file. -/
theorem follow_of_directories {d d' : Disk} {here names there : List Text} {found : Option Entry}
    {content : Bytes} (directories : ∀ names, d.get? names = some .directory → d'.get? names = some .directory)
    (followed : d.follow here names = .ok (there, found)) (noDirectory : found ≠ some .directory)
    (now : d'.get? there = some (.file content)) :
    d'.follow here names = .ok (there, some (.file content)) := by
  fun_induction follow d here names with
  | case1 here =>
    cases followed
    exact absurd rfl noDirectory
  | case2 here rest ih =>
    rw [follow_back]
    exact ih followed
  | case3 => cases followed
  | case4 here name rest proper short there' directory ih =>
    rw [follow_down proper short (directories _ directory)]
    exact ih followed
  | case5 here name proper short there' _ =>
    obtain ⟨rfl, rfl⟩ := Prod.mk.inj (Except.ok.inj followed)
    exact follow_last proper short now
  | case6 => cases followed

theorem locate_ok {d : Disk} {cwd : List Text} {p : Path} {there : List Text} {found : Option Entry}
    (located : d.locate cwd p = .ok (there, found)) :
    there = p.target cwd ∧ (found = some .directory ∨ d.get? there = found) := by
  obtain ⟨_, _, followed⟩ := Fallible.bind_ok located
  exact follow_ok (Fallible.mapError_ok followed)

theorem locate_of_directories {d d' : Disk} {cwd : List Text} {p : Path} {there : List Text}
    {found : Option Entry} {content : Bytes}
    (directories : ∀ names, d.get? names = some .directory → d'.get? names = some .directory)
    (located : d.locate cwd p = .ok (there, found)) (noDirectory : found ≠ some .directory)
    (now : d'.get? there = some (.file content)) :
    d'.locate cwd p = .ok (there, some (.file content)) := by
  obtain ⟨_, named, followed⟩ := Fallible.bind_ok located
  have again := follow_of_directories directories (Fallible.mapError_ok followed) noDirectory now
  rw [locate, named, again]
  rfl

/-- A file stays where a path leads to it unless it is a target. -/
theorem Keeps.locate {targets : List (List Text)} {d d' : Disk} (change : Keeps targets d d')
    {cwd : List Text} {p : Path} {there : List Text} {content : Bytes}
    (located : d.locate cwd p = .ok (there, some (.file content))) (absent : there ∉ targets) :
    d'.locate cwd p = .ok (there, some (.file content)) := by
  have here : d.get? there = some (.file content) := (locate_ok located).2.resolve_left (by simp)
  exact locate_of_directories change.directories located (by simp) ((change.files there absent content).mpr here)

theorem read_of_locate {d : Disk} {cwd : List Text} {p : Path} {there : List Text} {content : Bytes}
    (located : d.locate cwd p = .ok (there, some (.file content))) : d.read cwd p = .ok content := by
  rw [read, located]
  rfl

/-! ### Operations -/

theorem makeDirectory_changes {d d' : Disk} {cwd : List Text} {p : Path}
    (made : d.makeDirectory cwd p = .ok d') : Changes [] d d' := by
  obtain ⟨⟨there, found⟩, located, made⟩ := Fallible.bind_ok made
  cases found with
  | some e => cases made
  | none =>
    cases made
    exact .directory .refl ((locate_ok located).2.resolve_left (by simp))

theorem settle_fst (d : Disk) (cwd : List Text) (p : Path) (fault : FileFault) :
    (d.settle cwd p fault).1 = d := by
  unfold settle
  split <;> rfl

/-- Whether it succeeds or fails, making directories changes no file. -/
theorem makeDirectories_changes (d : Disk) (cwd : List Text) (p : Path) :
    Changes [] d (d.makeDirectories cwd p).1 := by
  fun_induction makeDirectories d cwd p with
  | case1 p d' made => exact makeDirectory_changes made
  | case2 => exact .refl
  | case3 p _ _ _ d' fault above ih => rwa [above] at ih
  | case4 p _ _ _ d' above d'' made ih =>
    rw [above] at ih
    exact ih.trans (makeDirectory_changes made)
  | case5 p _ _ _ d' above _ _ ih => rwa [above] at ih
  | case6 p _ _ _ d' above fault _ _ ih =>
    rw [above] at ih
    rwa [settle_fst]
  | case7 p fault =>
    rw [settle_fst]
    exact .refl

theorem write_changes {d d' : Disk} {cwd : List Text} {p : Path} {content : Bytes}
    (written : d.write cwd p content = .ok d') :
    ∃ there, d'.locate cwd p = .ok (there, some (.file content)) ∧ Changes [there] d d' := by
  obtain ⟨⟨there, found⟩, located, written⟩ := Fallible.bind_ok written
  obtain ⟨noDirectory, rfl⟩ : found ≠ some .directory ∧ d' = d.set there (.file content) := by
    cases found with
    | none =>
      cases written
      exact ⟨by simp, rfl⟩
    | some e =>
      cases e with
      | file old =>
        cases written
        exact ⟨by simp, rfl⟩
      | directory => cases written
  have before : d.get? there = found := (locate_ok located).2.resolve_left noDirectory
  have change : Changes [there] d (d.set there (.file content)) :=
    .file content .refl List.mem_cons_self (before ▸ noDirectory)
  have proper : there ≠ [] := by
    rintro rfl
    exact noDirectory before.symm
  exact ⟨there, locate_of_directories change.keeps.directories located noDirectory (get?_set_self d _ proper), change⟩

end Disk

end RouteScript
