import RouteScript.Output.Writer
import RouteScript.Proofs.Files.PathFaults

/-!
# Where a file can be written

A file can be written at a path together with the directories above it unless something is in the way: a name that the
system does not take, a file where a directory has to be, or a directory at the place of the file. `Disk.Admits` says
that nothing is, and `writeThrough_ok_iff` that this is exactly when writing succeeds.
-/

namespace RouteScript

namespace Disk

/-- The places that names pass from `here`. A double point goes back and passes none. -/
def passed (here : List Text) : List Text → List (List Text)
  | [] => []
  | name :: rest =>
    if name = ".." then passed here.dropLast rest else (here ++ [name]) :: passed (here ++ [name]) rest

theorem passed_append (here s t : List Text) : passed here (s ++ t) = passed here s ++ passed (landing here s) t := by
  induction s generalizing here with
  | nil => rfl
  | cons name s ih =>
    rw [List.cons_append, passed, passed, landing]
    split
    · exact ih _
    · rw [ih, List.cons_append]

theorem passed_concat {here front : List Text} {name : Text} (proper : name ≠ "..") :
    passed here (front ++ [name]) = passed here front ++ [landing here (front ++ [name])] := by
  rw [passed_append, landing_append, passed, if_neg proper, landing, if_neg proper]
  rfl

/-! ### Following names -/

theorem doublePoint_short : nameBytes ".." ≤ maxNameBytes := by decide

/-- Names lead to a directory if they are short and pass directories only. -/
theorem follow_eq_directory_iff {d : Disk} {here names : List Text} :
    d.follow here names = .ok (landing here names, some .directory) ↔
      (∀ name ∈ names, nameBytes name ≤ maxNameBytes) ∧ ∀ there ∈ passed here names, d.get? there = some .directory := by
  fun_induction follow d here names with
  | case1 here => simp [landing, passed]
  | case2 here rest ih =>
    rw [landing, if_pos rfl, passed, if_pos rfl, ih, List.forall_mem_cons]
    simp [doublePoint_short]
  | case3 here name rest proper long => simp [Nat.not_le.mpr long]
  | case4 here name rest proper short next directory ih =>
    rw [landing, if_neg proper, passed, if_neg proper, ih, List.forall_mem_cons, List.forall_mem_cons]
    simp [directory, Nat.not_lt.mp short, next]
  | case5 here name proper short next noDirectory =>
    rw [landing, if_neg proper, passed, if_neg proper]
    have stopped : d.get? next ≠ some .directory := noDirectory
    simp [landing, passed, next, Nat.not_lt.mp short]
  | case6 here name rest proper short next more noDirectory =>
    have stopped : d.get? next ≠ some .directory := noDirectory
    rw [passed, if_neg proper, List.forall_mem_cons]
    simp [next, stopped]

/-- Where names lead to no directory, they end in a name, and what holds it is a directory. -/
theorem follow_ok_concat {d : Disk} {here names there : List Text} {found : Option Entry}
    (followed : d.follow here names = .ok (there, found)) (noDirectory : found ≠ some .directory) :
    ∃ (front : List Text) (name : Text), names = front ++ [name] ∧ name ≠ ".." ∧ nameBytes name ≤ maxNameBytes ∧
      d.follow here front = .ok (landing here front, some .directory) := by
  fun_induction follow d here names with
  | case1 =>
    cases followed
    exact absurd rfl noDirectory
  | case2 here rest ih =>
    obtain ⟨front, name, rfl, proper, short, above⟩ := ih followed
    exact ⟨".." :: front, name, rfl, proper, short, by rwa [follow_back, landing, if_pos rfl]⟩
  | case3 => cases followed
  | case4 here name rest proper short next directory ih =>
    obtain ⟨front, last, rfl, proper', short', above⟩ := ih followed
    exact ⟨name :: front, last, rfl, proper', short', by rwa [follow_down proper short directory, landing, if_neg proper]⟩
  | case5 here name proper short => exact ⟨[], name, rfl, proper, Nat.not_lt.mp short, rfl⟩
  | case6 => cases followed

/-- Names lead nowhere for one of three reasons. -/
theorem follow_error {d : Disk} {here names : List Text} {code : Errno} (failed : d.follow here names = .error code) :
    code = .noEntry ∨ (∃ name ∈ names, maxNameBytes < nameBytes name) ∨
      ∃ there ∈ passed here names, ∃ content, d.get? there = some (.file content) := by
  fun_induction follow d here names with
  | case1 => cases failed
  | case2 here rest ih =>
    rw [passed, if_pos rfl]
    refine (ih failed).imp_right (Or.imp_left ?_)
    rintro ⟨name, member, long⟩
    exact ⟨name, List.mem_cons_of_mem _ member, long⟩
  | case3 here name rest proper long => exact Or.inr (Or.inl ⟨name, List.mem_cons_self, long⟩)
  | case4 here name rest proper short next directory ih =>
    rw [passed, if_neg proper]
    refine (ih failed).imp_right (Or.imp ?_ ?_)
    · rintro ⟨name, member, long⟩
      exact ⟨name, List.mem_cons_of_mem _ member, long⟩
    · rintro ⟨there, member, file⟩
      exact ⟨there, List.mem_cons_of_mem _ member, file⟩
  | case5 => cases failed
  | case6 here name rest proper short next more noDirectory =>
    rw [passed, if_neg proper]
    cases found : d.get? next with
    | none =>
      rw [found] at failed
      exact Or.inl (Except.error.inj failed).symm
    | some e =>
      cases e with
      | directory => exact absurd found noDirectory
      | file content => exact Or.inr (Or.inr ⟨next, List.mem_cons_self, content, found⟩)

end Disk

def Path.passed (cwd : List Text) (p : Path) : List (List Text) :=
  Disk.passed (if p.isAbsolute then [] else cwd) p.names

namespace Disk

/-- The names of the path are names of the system, and no file stands where the path needs a directory. -/
structure Passable (d : Disk) (cwd : List Text) (p : Path) : Prop where
  named : p.checkName = .ok ()
  short : ¬p.HasLongName
  clear : ∀ there ∈ p.passed cwd, ∀ content, d.get? there ≠ some (.file content)

theorem isDirectory_eq_true_iff {d : Disk} {cwd : List Text} {p : Path} :
    d.isDirectory cwd p = .ok true ↔
      p.checkName = .ok () ∧ ¬p.HasLongName ∧ ∀ there ∈ p.passed cwd, d.get? there = some .directory := by
  have asked : d.isDirectory cwd p = .ok true ↔ d.locate cwd p = .ok (p.target cwd, some .directory) := by
    rw [← inspect_eq_some_iff]
    constructor
    · intro directory
      obtain ⟨found, inspected, same⟩ := Fallible.bind_ok directory
      obtain rfl : found = some .directory := by simpa using Except.ok.inj same
      exact inspected
    · intro inspected
      rw [isDirectory, inspected]
      rfl
  have short : ¬p.HasLongName ↔ ∀ name ∈ p.names, nameBytes name ≤ maxNameBytes := by
    simp [Path.HasLongName]
  rw [asked, short, Path.passed, ← follow_eq_directory_iff]
  constructor
  · intro located
    obtain ⟨_, named, followed⟩ := Fallible.bind_ok located
    exact ⟨named, Fallible.mapError_ok followed⟩
  · rintro ⟨named, followed⟩
    exact locate_of_follow named followed

/-! ### Making directories -/

theorem Passable.keeps {d d' : Disk} {cwd : List Text} {p : Path} (passable : d.Passable cwd p)
    (change : Keeps [] d d') : d'.Passable cwd p :=
  ⟨passable.named, passable.short, fun there member content file =>
    passable.clear there member content ((change.files there (by simp) content).mp file)⟩

theorem passed_parent (cwd : List Text) (p : Path) : p.parent.passed cwd ⊆ p.passed cwd := by
  have start : p.parent.isAbsolute = p.isAbsolute := rfl
  rcases p.names.eq_nil_or_concat with empty | ⟨front, name, names⟩
  · have none : p.parent.passed cwd = [] := by simp [Path.passed, Path.parent, empty, passed]
    rw [none]
    exact List.nil_subset _
  · rw [List.concat_eq_append] at names
    rw [Path.passed, Path.passed, start, Path.parent_names names, names, passed_append]
    exact List.subset_append_left _ _

theorem Passable.parent {d : Disk} {cwd : List Text} {p : Path} (passable : d.Passable cwd p) :
    d.Passable cwd p.parent := by
  refine ⟨Path.checkName_parent passable.named, ?_, fun there member => passable.clear there (passed_parent cwd p member)⟩
  rintro ⟨name, member, long⟩
  exact passable.short ⟨name, List.mem_of_mem_dropLast member, long⟩

theorem locate_noDirectory {d : Disk} {cwd there : List Text} {p : Path} {found : Option Entry}
    (located : d.locate cwd p = .ok (there, found)) (noDirectory : found ≠ some .directory) :
    (p.checkName = .ok () ∧ ¬p.HasLongName ∧ ∃ name : Text, p.names.getLast? = some name ∧ name ≠ "..") ∧
      d.isDirectory cwd p.parent = .ok true ∧ there = p.target cwd ∧ d.get? there = found ∧
      p.passed cwd = p.parent.passed cwd ++ [there] := by
  obtain ⟨_, named, followed⟩ := Fallible.bind_ok located
  obtain ⟨front, name, names, proper, short, above⟩ := follow_ok_concat (Fallible.mapError_ok followed) noDirectory
  obtain ⟨rfl, found'⟩ := locate_ok located
  have parent := Path.parent_names names
  have all := (follow_eq_directory_iff.mp above).1
  refine ⟨⟨named, ?_, name, by simp [names], proper⟩, ?_, rfl, found'.resolve_left noDirectory, ?_⟩
  · rintro ⟨other, member, long⟩
    rw [names, List.mem_append, List.mem_singleton] at member
    rcases member with member | rfl
    · exact absurd long (Nat.not_lt.mpr (all other member))
    · exact absurd long (Nat.not_lt.mpr short)
  · rw [isDirectory_eq_true_iff]
    refine ⟨Path.checkName_parent named, ?_, ?_⟩
    · rintro ⟨other, member, long⟩
      exact absurd long (Nat.not_lt.mpr (all other (parent ▸ member)))
    · rw [Path.passed, parent]
      exact (follow_eq_directory_iff.mp above).2
  · rw [Path.passed, Path.passed, Path.target, parent, names, passed_concat proper]
    rfl

theorem locate_of_parent {d : Disk} {cwd : List Text} {p : Path} {name : Text} (named : p.checkName = .ok ())
    (short : ¬p.HasLongName) (last : p.names.getLast? = some name) (proper : name ≠ "..")
    (directory : d.isDirectory cwd p.parent = .ok true) :
    d.locate cwd p = .ok (p.target cwd, d.get? (p.target cwd)) := by
  obtain ⟨front, names⟩ := List.getLast?_eq_some_iff.mp last
  have parent := Path.parent_names names
  have above : d.follow (if p.isAbsolute then [] else cwd) front =
      .ok (landing (if p.isAbsolute then [] else cwd) front, some .directory) := by
    rw [follow_eq_directory_iff]
    refine ⟨fun other member => Nat.not_lt.mp fun long => short ⟨other, by simp [names, member], long⟩, ?_⟩
    have passed := (isDirectory_eq_true_iff.mp directory).2.2
    rw [Path.passed, parent] at passed
    exact passed
  refine locate_of_follow named ?_
  rw [Path.target, names, follow_append above, landing_append, landing, if_neg proper]
  exact follow_last proper (fun long => short ⟨name, by simp [names], long⟩) rfl

/-- A path that ends in no name leads to a directory if the path above it does. -/
theorem isDirectory_of_parent {d : Disk} {cwd : List Text} {p : Path} (named : p.checkName = .ok ())
    (short : ¬p.HasLongName) (last : ∀ name ∈ p.names.getLast?, name = "..")
    (directory : d.isDirectory cwd p.parent = .ok true) : d.isDirectory cwd p = .ok true := by
  have same : p.passed cwd = p.parent.passed cwd := by
    rcases p.names.eq_nil_or_concat with empty | ⟨front, name, names⟩
    · simp [Path.passed, Path.parent, empty, passed]
    · obtain rfl : name = ".." := last name (by simp [names])
      rw [List.concat_eq_append] at names
      rw [Path.passed, Path.passed, Path.parent_names names, names, passed_append, passed, if_pos rfl, passed,
        List.append_nil]
      rfl
  rw [isDirectory_eq_true_iff, same]
  exact ⟨named, short, (isDirectory_eq_true_iff.mp directory).2.2⟩

/-- On a path that nothing stands in the way of, a directory is made or is there, or the one above it is missing. -/
theorem makeDirectory_of_passable {d : Disk} {cwd : List Text} {p : Path} (passable : d.Passable cwd p) :
    (∃ d', d.makeDirectory cwd p = .ok d') ∨ d.isDirectory cwd p = .ok true ∨
      d.makeDirectory cwd p = .error (.refused .noEntry p) := by
  cases located : d.locate cwd p with
  | ok x =>
    obtain ⟨there, found⟩ := x
    by_cases directory : found = some .directory
    · subst directory
      obtain rfl := (locate_ok located).1
      refine Or.inr (Or.inl ?_)
      rw [isDirectory, inspect_eq_some_iff.mpr located]
      rfl
    · obtain ⟨_, _, _, found', passed⟩ := locate_noDirectory located directory
      cases found with
      | none =>
        refine Or.inl ⟨d.set there .directory, ?_⟩
        rw [makeDirectory, located]
        rfl
      | some e =>
        cases e with
        | directory => exact absurd rfl directory
        | file content => exact absurd found' (passable.clear there (by simp [passed]) content)
  | error fault =>
    rw [locate, passable.named] at located
    obtain ⟨code, failed, rfl⟩ := Fallible.mapError_error located
    rcases follow_error failed with rfl | ⟨name, member, long⟩ | ⟨there, member, content, file⟩
    · refine Or.inr (Or.inr ?_)
      rw [makeDirectory, locate, passable.named, failed]
      rfl
    · exact absurd ⟨name, member, long⟩ passable.short
    · exact absurd file (passable.clear there member content)

theorem makeDirectory_isDirectory {d d' : Disk} {cwd : List Text} {p : Path} (made : d.makeDirectory cwd p = .ok d') :
    d'.isDirectory cwd p = .ok true ∧
      ∀ names, d'.get? names = some .directory → d.get? names = some .directory ∨ names ∈ p.passed cwd := by
  have change := (makeDirectory_changes made).keeps
  obtain ⟨⟨there, found⟩, located, made⟩ := Fallible.bind_ok made
  cases found with
  | some e => cases made
  | none =>
    cases made
    obtain ⟨⟨named, short, _⟩, above, _, nothing, passed⟩ := locate_noDirectory located (by simp)
    have proper : there ≠ [] := by
      rintro rfl
      cases nothing
    constructor
    · rw [isDirectory_eq_true_iff, passed]
      refine ⟨named, short, ?_⟩
      intro other member
      rcases List.mem_append.mp member with member | last
      · exact change.directories other ((isDirectory_eq_true_iff.mp above).2.2 other member)
      · rw [List.mem_singleton.mp last]
        exact get?_set_self d .directory proper
    · intro names directory
      by_cases same : names = there
      · exact Or.inr (by simp [passed, same])
      · rw [get?_set_of_ne _ _ same] at directory
        exact Or.inl directory

/-- After directories were made the path leads to one, and those that are new are on the path. -/
theorem makeDirectories_isDirectory {d d' : Disk} {cwd : List Text} {p : Path}
    (made : d.makeDirectories cwd p = (d', .ok ())) :
    d'.isDirectory cwd p = .ok true ∧
      ∀ names, d'.get? names = some .directory → d.get? names = some .directory ∨ names ∈ p.passed cwd := by
  fun_induction Disk.makeDirectories d cwd p generalizing d' with
  | case1 p after first =>
    cases made
    exact makeDirectory_isDirectory first
  | case2 => cases made
  | case3 => cases made
  | case4 p q first named between above after second ih =>
    cases made
    obtain ⟨directory, new⟩ := makeDirectory_isDirectory second
    refine ⟨directory, fun names present => ?_⟩
    rcases new names present with present | member
    · exact ((ih above).2 names present).imp_right fun member => passed_parent cwd p member
    · exact Or.inr member
  | case5 => cases made
  | case6 p q first named between above fault _ second ih =>
    obtain ⟨directory, rfl⟩ := settle_ok made
    exact ⟨directory, fun names present => ((ih above).2 names present).imp_right fun member => passed_parent cwd p member⟩
  | case7 p fault first second =>
    obtain ⟨directory, rfl⟩ := settle_ok made
    exact ⟨directory, fun names present => Or.inl present⟩

theorem makeDirectory_of_parent {d : Disk} {cwd : List Text} {p : Path} (passable : d.Passable cwd p)
    (above : d.isDirectory cwd p.parent = .ok true) :
    (∃ d', d.makeDirectory cwd p = .ok d') ∨ d.isDirectory cwd p = .ok true := by
  rcases makeDirectory_of_passable passable with made | directory | missing
  · exact Or.inl made
  · exact Or.inr directory
  · by_cases last : ∀ name ∈ p.names.getLast?, name = ".."
    · exact Or.inr (isDirectory_of_parent passable.named passable.short last above)
    · obtain ⟨name, last⟩ := not_forall.mp last
      obtain ⟨last, proper⟩ := Classical.not_imp.mp last
      rw [makeDirectory, locate_of_parent passable.named passable.short last proper above] at missing
      cases found : d.get? (p.target cwd) <;> rw [found] at missing <;> cases missing

/-- Directories can be made along a path that nothing stands in the way of. -/
theorem makeDirectories_of_passable {d : Disk} {cwd : List Text} {p : Path} (passable : d.Passable cwd p) :
    ∃ d', d.makeDirectories cwd p = (d', .ok ()) := by
  fun_induction Disk.makeDirectories d cwd p with
  | case1 p after => exact ⟨after, rfl⟩
  | case2 p q first empty =>
    have directory : d.isDirectory cwd p = .ok true := by
      rw [isDirectory_eq_true_iff, Path.passed, empty]
      exact ⟨passable.named, passable.short, by simp [passed]⟩
    rw [makeDirectory_of_isDirectory directory] at first
    cases first
  | case3 p q first named between fault above ih =>
    obtain ⟨_, made⟩ := ih passable.parent
    cases above.symm.trans made
  | case4 p q first named between above after => exact ⟨after, rfl⟩
  | case5 p q first named between above q' second ih =>
    have kept : Keeps [] d between := by simpa only [above] using (d.makeDirectories_changes cwd p.parent).keeps
    rcases makeDirectory_of_parent (passable.keeps kept) (makeDirectories_isDirectory above).1 with ⟨_, made⟩ | directory
    · cases second.symm.trans made
    · cases second.symm.trans (makeDirectory_of_isDirectory directory)
  | case6 p q first named between above fault _ second ih =>
    have kept : Keeps [] d between := by simpa only [above] using (d.makeDirectories_changes cwd p.parent).keeps
    rcases makeDirectory_of_parent (passable.keeps kept) (makeDirectories_isDirectory above).1 with ⟨_, made⟩ | directory
    · cases second.symm.trans made
    · exact ⟨between, settle_of_isDirectory _ directory⟩
  | case7 p fault other first =>
    rcases makeDirectory_of_passable passable with ⟨_, made⟩ | directory | missing
    · cases first.symm.trans made
    · exact ⟨d, settle_of_isDirectory _ directory⟩
    · exact absurd (Except.error.inj (first.symm.trans missing)) (other p)

theorem makeDirectories_passable {d d' : Disk} {cwd : List Text} {p : Path}
    (made : d.makeDirectories cwd p = (d', .ok ())) : d.Passable cwd p := by
  have kept : Keeps [] d d' := by simpa only [made] using (d.makeDirectories_changes cwd p).keeps
  obtain ⟨named, short, passed⟩ := isDirectory_eq_true_iff.mp (makeDirectories_isDirectory made).1
  refine ⟨named, short, fun there member content file => ?_⟩
  have still := (kept.files there (by simp) content).mpr file
  rw [passed there member] at still
  cases still

/-! ### Writing files -/

/-- A file can be written at the path: its names are names of the system, no file stands above it, and it ends in a name
that no directory has, be it there or made on the way. -/
structure Admits (d : Disk) (cwd : List Text) (p : Path) : Prop where
  named : p.checkName = .ok ()
  short : ¬p.HasLongName
  clear : ∀ there ∈ p.parent.passed cwd, ∀ content, d.get? there ≠ some (.file content)
  ends : ∃ name : Text, p.names.getLast? = some name ∧ name ≠ ".."
  vacant : d.get? (p.target cwd) ≠ some .directory ∧ p.target cwd ∉ p.parent.passed cwd

theorem Admits.above {d : Disk} {cwd : List Text} {p : Path} (admits : d.Admits cwd p) : d.Passable cwd p.parent := by
  refine ⟨Path.checkName_parent admits.named, ?_, admits.clear⟩
  rintro ⟨name, member, long⟩
  exact admits.short ⟨name, List.mem_of_mem_dropLast member, long⟩

theorem admits_of_locate {d : Disk} {cwd there : List Text} {p : Path} {content : Bytes}
    (located : d.locate cwd p = .ok (there, some (.file content))) : d.Admits cwd p := by
  obtain ⟨⟨named, short, ends⟩, above, rfl, file, _⟩ := locate_noDirectory located (by simp)
  have passed := (isDirectory_eq_true_iff.mp above).2.2
  refine ⟨named, short, ?_, ends, by simp [file], ?_⟩
  · intro there member content file
    rw [passed there member] at file
    cases file
  · intro member
    rw [passed _ member] at file
    cases file

end Disk

/-- Writing succeeds exactly where the disk admits a file. -/
theorem Writer.writeThrough_ok_iff {d : Disk} {cwd : List Text} {p : Path} {bytes : Bytes} :
    (∃ d', writeThrough d cwd p bytes = (d', .ok ())) ↔ d.Admits cwd p := by
  constructor
  · rintro ⟨d', written⟩
    unfold writeThrough at written
    split at written
    · cases written
    · rename_i made directories
      obtain ⟨_, new⟩ := Disk.makeDirectories_isDirectory directories
      have passable := Disk.makeDirectories_passable directories
      have kept : Disk.Keeps [] d made := by simpa only [directories] using (d.makeDirectories_changes cwd p.parent).keeps
      split at written
      · rename_i after wrote
        obtain ⟨there, found, located, noDirectory, _⟩ := Disk.write_ok wrote
        obtain ⟨⟨named, short, ends⟩, above, rfl, found', _⟩ := Disk.locate_noDirectory located noDirectory
        have passed := (Disk.isDirectory_eq_true_iff.mp above).2.2
        refine ⟨named, short, passable.clear, ends, ?_, ?_⟩
        · intro directory
          exact noDirectory (found'.symm.trans (kept.directories _ directory))
        · intro member
          exact noDirectory (found'.symm.trans (passed _ member))
      · cases written
  · intro admits
    obtain ⟨made, directories⟩ := Disk.makeDirectories_of_passable admits.above
    obtain ⟨above, new⟩ := Disk.makeDirectories_isDirectory directories
    obtain ⟨name, last, proper⟩ := admits.ends
    have located := Disk.locate_of_parent admits.named admits.short last proper above
    have noDirectory : made.get? (p.target cwd) ≠ some .directory := fun directory =>
      (new _ directory).elim admits.vacant.1 admits.vacant.2
    refine ⟨made.set (p.target cwd) (.file bytes), ?_⟩
    rw [writeThrough, directories]
    dsimp only
    rw [Disk.write_of_locate located noDirectory]

end RouteScript
