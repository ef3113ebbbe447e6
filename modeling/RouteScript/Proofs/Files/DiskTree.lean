import Mathlib.Data.List.Induction
import RouteScript.Proofs.Files.DiskChange

/-!
# Paths on a disk that grows

On a disk that is a tree a path to an entry passes through directories alone. After a change that keeps the
directories a path can lead further than before, through directories that the change has made. Where it does not
turn back from one of these by a double point, it leads to no entry that it did not lead to before
(`locate_of_later`).
-/

namespace RouteScript

namespace Disk

/-! ### Trees -/

/-- What holds an entry is a directory, and no entry has a double point among its names. -/
def IsTree (d : Disk) : Prop :=
  ∀ x ∈ d.entries, (".." : Text) ∉ x.1 ∧ d.get? x.1.dropLast = some .directory

instance (d : Disk) : Decidable d.IsTree := inferInstanceAs (Decidable (∀ x ∈ d.entries, _ ∧ _))

theorem mem_entries_of_get? {d : Disk} {names : List Text} {e : Entry} (proper : names ≠ [])
    (present : d.get? names = some e) : (names, e) ∈ d.entries := by
  rw [get?, if_neg proper] at present
  generalize d.entries = entries at present
  induction entries with
  | nil => cases present
  | cons x entries ih =>
    obtain ⟨key, value⟩ := x
    rw [List.lookup_cons] at present
    split at present
    · rename_i same
      obtain rfl := eq_of_beq same
      cases present
      exact List.mem_cons_self
    · exact List.mem_cons_of_mem _ (ih present)

theorem get?_of_mem_entries {d : Disk} {names : List Text} {e : Entry} (member : (names, e) ∈ d.entries) :
    d.get? names ≠ none := by
  rw [get?]
  split
  · simp
  · generalize d.entries = entries at member
    rw [Ne, List.lookup_eq_none_iff]
    intro absent
    exact absurd (absent _ member) (by simp)

theorem IsTree.plain {d : Disk} (tree : d.IsTree) {names : List Text} (present : d.get? names ≠ none) :
    (".." : Text) ∉ names := by
  by_cases proper : names = []
  · simp [proper]
  · obtain ⟨e, found⟩ := Option.ne_none_iff_exists'.mp present
    exact (tree _ (mem_entries_of_get? proper found)).1

theorem IsTree.above {d : Disk} (tree : d.IsTree) {names more : List Text} (proper : more ≠ [])
    (present : d.get? (names ++ more) ≠ none) : d.get? names = some .directory := by
  induction more using List.reverseRecOn with
  | nil => exact absurd rfl proper
  | append_singleton more name ih =>
    obtain ⟨e, found⟩ := Option.ne_none_iff_exists'.mp present
    have parent := (tree _ (mem_entries_of_get? (by simp) found)).2
    rw [← List.append_assoc, List.dropLast_concat] at parent
    by_cases last : more = []
    · rwa [last, List.append_nil] at parent
    · exact ih last (by simp [parent])

/-! ### The way of a path -/

/-- The steps of the way that names lead from `here`: each name, and where it is followed from. -/
def steps (here : List Text) : List Text → List (List Text × Text)
  | [] => []
  | name :: rest => (here, name) :: steps (if name = ".." then here.dropLast else here ++ [name]) rest

theorem steps_append (here s t : List Text) : steps here (s ++ t) = steps here s ++ steps (landing here s) t := by
  induction s generalizing here with
  | nil => rfl
  | cons name s ih =>
    rw [List.cons_append, steps, steps, ih, landing]
    split <;> rfl

theorem map_snd_steps (here names : List Text) : (steps here names).map Prod.snd = names := by
  induction names generalizing here with
  | nil => rfl
  | cons name names ih => rw [steps, List.map_cons, ih]

theorem steps_back (here rest : List Text) : steps here.dropLast rest ⊆ steps here (".." :: rest) := by
  rw [steps, if_pos rfl]
  exact List.subset_cons_self _ _

theorem steps_down (here rest : List Text) {name : Text} (proper : name ≠ "..") :
    steps (here ++ [name]) rest ⊆ steps here (name :: rest) := by
  rw [steps, if_neg proper]
  exact List.subset_cons_self _ _

/-- A way that has come below `base` ends below it or turns back from it. -/
theorem base_prefix_or_steps (base below names : List Text) :
    base <+: landing (base ++ below) names ∨ (base, (".." : Text)) ∈ steps (base ++ below) names := by
  induction names generalizing below with
  | nil => exact Or.inl (List.prefix_append base below)
  | cons name names ih =>
    by_cases back : name = ".."
    · subst back
      rcases below.eq_nil_or_concat with rfl | ⟨lower, last, rfl⟩
      · rw [List.append_nil]
        exact Or.inr List.mem_cons_self
      · have up : (base ++ lower.concat last).dropLast = base ++ lower := by
          rw [List.concat_eq_append, ← List.append_assoc, List.dropLast_concat]
        rw [landing, if_pos rfl, up]
        exact (ih lower).imp id fun turned => steps_back _ names (up ▸ turned)
    · rw [landing, if_neg back, List.append_assoc]
      refine (ih (below ++ [name])).imp id fun turned => steps_down _ names back ?_
      rwa [List.append_assoc]

def Creates (d d' : Disk) (names : List Text) : Prop :=
  d.get? names ≠ some .directory ∧ d'.get? names = some .directory

instance (d d' : Disk) (names : List Text) : Decidable (Creates d d' names) := inferInstanceAs (Decidable (_ ∧ _))

/-- The way does not turn back from a directory that the change makes. -/
def Steady (d d' : Disk) (way : List (List Text × Text)) : Prop := ∀ step ∈ way, Creates d d' step.1 → step.2 ≠ ".."

/-- The way goes on from a directory that the change makes neither by a double point nor by a name too long. -/
def Smooth (d d' : Disk) (way : List (List Text × Text)) : Prop :=
  ∀ step ∈ way, Creates d d' step.1 → step.2 ≠ ".." ∧ nameBytes step.2 ≤ maxNameBytes

instance (d d' : Disk) (way : List (List Text × Text)) : Decidable (Steady d d' way) :=
  inferInstanceAs (Decidable (∀ step ∈ way, _ → _))

instance (d d' : Disk) (way : List (List Text × Text)) : Decidable (Smooth d d' way) :=
  inferInstanceAs (Decidable (∀ step ∈ way, _ → _ ∧ _))

theorem Smooth.steady {d d' : Disk} {way : List (List Text × Text)} (smooth : Smooth d d' way) : Steady d d' way :=
  fun step member created => (smooth step member created).1

theorem Steady.later {d d' : Disk} {way rest : List (List Text × Text)} (steady : Steady d d' way) (part : rest ⊆ way) :
    Steady d d' rest := fun step member => steady step (part member)

theorem Smooth.later {d d' : Disk} {way rest : List (List Text × Text)} (smooth : Smooth d d' way) (part : rest ⊆ way) :
    Smooth d d' rest := fun step member => smooth step (part member)

/-- Names that lead to an entry after a change led there before, if the entry was there and the way turns back
from no directory that is new. -/
theorem follow_of_later {d d' : Disk} (tree : d.IsTree) {here names there : List Text} {e : Entry}
    (steady : Steady d d' (steps here names))
    (followed : d'.follow here names = .ok (there, some e)) (before : d.get? there = some e) :
    d.follow here names = .ok (there, some e) := by
  fun_induction follow d' here names with
  | case1 here =>
    cases followed
    rfl
  | case2 here rest ih =>
    rw [follow_back]
    exact ih (steady.later (steps_back here rest)) followed
  | case3 => cases followed
  | case4 here name rest proper short next directory ih =>
    have ended := follow_ok followed
    -- The directory `next` holds the entry, is the entry, or the way turns back from it.
    have old : d.get? next = some .directory := by
      have way := base_prefix_or_steps next [] rest
      rw [List.append_nil, ← ended.1] at way
      rcases way with ⟨more, rfl⟩ | turned
      · by_cases last : more = []
        · rw [last, List.append_nil] at ended before
          rcases ended.2 with directory' | found
          · rwa [directory'] at before
          · rwa [← found, directory] at before
        · exact tree.above last (by simp [before])
      · by_contra missing
        exact steady _ (steps_down here rest proper turned) ⟨missing, directory⟩ rfl
    rw [follow_down proper short old]
    exact ih (steady.later (steps_down here rest proper)) followed
  | case5 here name proper short next noDirectory =>
    obtain ⟨rfl, _⟩ := Prod.mk.inj (Except.ok.inj followed)
    exact follow_last proper short before
  | case6 => cases followed

theorem follow_directory {d d' : Disk} {here names there : List Text}
    (directories : ∀ names, d.get? names = some .directory → d'.get? names = some .directory)
    (followed : d.follow here names = .ok (there, some .directory)) :
    d'.follow here names = .ok (there, some .directory) := by
  fun_induction follow d here names with
  | case1 here =>
    cases followed
    rfl
  | case2 here rest ih =>
    rw [follow_back]
    exact ih followed
  | case3 => cases followed
  | case4 here name rest proper short next directory ih =>
    rw [follow_down proper short (directories _ directory)]
    exact ih followed
  | case5 here name proper short next noDirectory =>
    exact absurd (Prod.mk.inj (Except.ok.inj followed)).2 noDirectory
  | case6 => cases followed

/-- Where the last name is no double point, what is found is an entry of that name. -/
theorem follow_concat {d : Disk} {here front there : List Text} {name : Text} {e : Entry} (proper : name ≠ "..")
    (followed : d.follow here (front ++ [name]) = .ok (there, some e)) : d.get? there = some e := by
  induction front generalizing here with
  | nil =>
    by_cases long : maxNameBytes < nameBytes name
    · rw [List.nil_append, follow, if_neg proper, if_pos long] at followed
      cases followed
    · rw [List.nil_append, follow_last proper long rfl] at followed
      obtain ⟨rfl, found⟩ := Prod.mk.inj (Except.ok.inj followed)
      exact found
  | cons next front ih =>
    rw [List.cons_append] at followed
    unfold follow at followed
    split at followed
    · exact ih followed
    · split at followed
      · cases followed
      · dsimp only at followed
        split at followed
        · exact ih followed
        · rw [if_neg (by simp)] at followed
          cases followed

theorem follow_nameTooLong {d d' : Disk} {here names : List Text}
    (directories : ∀ names, d.get? names = some .directory → d'.get? names = some .directory)
    (failed : d.follow here names = .error .nameTooLong) : d'.follow here names = .error .nameTooLong := by
  fun_induction follow d here names with
  | case1 => cases failed
  | case2 here rest ih =>
    rw [follow_back]
    exact ih failed
  | case3 here name rest proper long => rw [follow, if_neg proper, if_pos long]
  | case4 here name rest proper short next directory ih =>
    rw [follow_down proper short (directories _ directory)]
    exact ih failed
  | case5 => cases failed
  | case6 => split at failed <;> cases failed

/-- A way without a double point or a name too long behind a new directory does not meet a name too long there. -/
theorem follow_created {d d' : Disk} (tree : d.IsTree) {here names : List Text} (created : Creates d d' here)
    (smooth : Smooth d d' (steps here names)) :
    d'.follow here names ≠ .error .nameTooLong := by
  intro failed
  fun_induction follow d' here names with
  | case1 => cases failed
  | case2 here rest ih => exact absurd rfl (smooth _ List.mem_cons_self created).1
  | case3 here name rest proper long =>
    exact absurd long (Nat.not_lt.mpr (smooth _ List.mem_cons_self created).2)
  | case4 here name rest proper short next directory ih =>
    have new : Creates d d' next := by
      refine ⟨?_, directory⟩
      intro old
      exact created.1 (tree.above (List.cons_ne_nil name []) (by rw [old]; simp))
    exact ih new (smooth.later (steps_down here rest proper)) failed
  | case5 => cases failed
  | case6 => split at failed <;> cases failed

/-- A name too long was on the way before a change, if the way has none behind a new directory. -/
theorem follow_nameTooLong_of_later {d d' : Disk} (tree : d.IsTree) {here names : List Text}
    (smooth : Smooth d d' (steps here names))
    (failed : d'.follow here names = .error .nameTooLong) : d.follow here names = .error .nameTooLong := by
  fun_induction follow d' here names with
  | case1 => cases failed
  | case2 here rest ih =>
    rw [follow_back]
    exact ih (smooth.later (steps_back here rest)) failed
  | case3 here name rest proper long => rw [follow, if_neg proper, if_pos long]
  | case4 here name rest proper short next directory ih =>
    have smooth' : Smooth d d' (steps next rest) := smooth.later (steps_down here rest proper)
    by_cases old : d.get? next = some .directory
    · rw [follow_down proper short old]
      exact ih smooth' failed
    · exact absurd failed (follow_created tree ⟨old, directory⟩ smooth')
  | case5 => cases failed
  | case6 => split at failed <;> cases failed

/-- Names without double points lead to an entry that has not changed as they did before. -/
theorem follow_present {d d' : Disk} (tree : d.IsTree)
    (directories : ∀ names, d.get? names = some .directory → d'.get? names = some .directory)
    {here names : List Text} (plain : (".." : Text) ∉ names) (present : d.get? (here ++ names) ≠ none)
    (same : d'.get? (here ++ names) = d.get? (here ++ names)) : d'.follow here names = d.follow here names := by
  induction names generalizing here with
  | nil => rfl
  | cons name names ih =>
    rw [List.mem_cons, not_or] at plain
    by_cases long : maxNameBytes < nameBytes name
    · rw [follow, follow, if_neg (Ne.symm plain.1), if_neg (Ne.symm plain.1), if_pos long, if_pos long]
    by_cases last : names = []
    · subst last
      rw [follow_last (Ne.symm plain.1) long same, follow_last (Ne.symm plain.1) long rfl]
    · rw [List.append_cons] at present same
      have above : d.get? (here ++ [name]) = some .directory := tree.above last present
      rw [follow_down (Ne.symm plain.1) long above, follow_down (Ne.symm plain.1) long (directories _ above)]
      exact ih plain.2 present same

theorem Keeps.get?_eq {targets : List (List Text)} {d d' : Disk} (change : Keeps targets d d') {names : List Text}
    (present : d.get? names ≠ none) (absent : names ∉ targets) : d'.get? names = d.get? names := by
  cases found : d.get? names with
  | none => exact absurd found present
  | some e =>
    cases e with
    | directory => exact change.directories names found
    | file content => exact (change.files names absent content).mpr found

/-- A file is read as before the change unless it is a target. -/
theorem Keeps.read_eq {targets : List (List Text)} {d d' : Disk} (change : Keeps targets d d') (tree : d.IsTree)
    (cwd : List Text) {names : List Text} (present : d.get? names ≠ none) (absent : names ∉ targets) :
    d'.read cwd (.absolute names) = d.read cwd (.absolute names) := by
  have followed : d'.follow [] names = d.follow [] names :=
    follow_present tree change.directories (tree.plain present) present (change.get?_eq present absent)
  have located : d'.locate cwd (.absolute names) = d.locate cwd (.absolute names) := by
    have absolute : (Path.absolute names).isAbsolute = true := rfl
    rw [Disk.locate, Disk.locate, if_pos absolute, show (Path.absolute names).names = names from rfl, followed]
  rw [Disk.read, Disk.read, located]

/-- Taking back a name for each double point is following the names from the root. -/
theorem collapse_eq_landing (names : List Text) : Path.collapse names = landing [] names := by
  have general : ∀ done : List Text, (names.foldl (fun (done : List Text) (name : Text) =>
      if name = ".." then done.tail else name :: done) done).reverse = landing done.reverse names := by
    induction names with
    | nil => exact fun _ => rfl
    | cons name names ih =>
      intro done
      rw [List.foldl_cons, ih, landing]
      split
      · rw [List.dropLast_reverse]
      · rw [List.reverse_cons]
  exact general []

end Disk

theorem Path.resolve_names {cwd : List Text} (plain : (".." : Text) ∉ cwd) (p : Path) :
    (p.resolve cwd).names = p.target cwd := by
  have start : Disk.landing [] cwd = cwd := Disk.landing_of_not_mem [] plain
  rw [Path.resolve, Path.absolute, Disk.collapse_eq_landing, Path.target]
  split
  · rfl
  · rw [Disk.landing_append, start]

def Path.steps (cwd : List Text) (p : Path) : List (List Text × Text) :=
  Disk.steps (if p.isAbsolute then [] else cwd) p.names

namespace Disk

theorem Steady.join {d d' : Disk} {cwd : List Text} {directory : Path} (steady : Steady d d' (directory.steps cwd))
    {names : List Text} (plain : (".." : Text) ∉ names) :
    Steady d d' ((directory.join ⟨0, names⟩).steps cwd) := by
  intro step member created back
  have joined : directory.join ⟨0, names⟩ = { directory with names := directory.names ++ names } := rfl
  rw [joined, Path.steps, steps_append, List.mem_append] at member
  rcases member with above | below
  · exact steady step above created back
  · have name : step.2 ∈ (steps _ names).map Prod.snd := List.mem_map.mpr ⟨step, below, rfl⟩
    rw [map_snd_steps, back] at name
    exact plain name

theorem locate_of_follow {d : Disk} {cwd : List Text} {p : Path} {x : List Text × Option Entry}
    (named : p.checkName = .ok ()) (followed : d.follow (if p.isAbsolute then [] else cwd) p.names = .ok x) :
    d.locate cwd p = .ok x := by
  rw [locate, named, followed]
  rfl

theorem locate_of_later {d d' : Disk} (tree : d.IsTree) {cwd : List Text} {p : Path} {there : List Text} {e : Entry}
    (steady : Steady d d' (p.steps cwd))
    (located : d'.locate cwd p = .ok (there, some e)) (before : d.get? there = some e) :
    d.locate cwd p = .ok (there, some e) := by
  obtain ⟨_, named, followed⟩ := Fallible.bind_ok located
  exact locate_of_follow named (follow_of_later tree steady (Fallible.mapError_ok followed) before)

/-- A name is too long for the system only where the disk is asked. -/
theorem locate_nameTooLong_iff {d : Disk} {cwd : List Text} {p q : Path} :
    d.locate cwd p = .error (.refused .nameTooLong q) ↔
      q = p ∧ p.checkName = .ok () ∧ d.follow (if p.isAbsolute then [] else cwd) p.names = .error .nameTooLong := by
  constructor
  · intro failed
    rcases Fallible.bind_error failed with unnamed | ⟨_, named, failed⟩
    · unfold Path.checkName at unnamed
      dsimp only at unnamed
      split at unnamed
      · cases unnamed
      · split at unnamed <;> cases unnamed
    · obtain ⟨code, followed, same⟩ := Fallible.mapError_error failed
      cases same
      exact ⟨rfl, named, followed⟩
  · rintro ⟨rfl, named, followed⟩
    rw [locate, named, followed]
    rfl

theorem inspect_eq_some_iff {d : Disk} {cwd : List Text} {p : Path} {e : Entry} :
    d.inspect cwd p = .ok (some e) ↔ d.locate cwd p = .ok (p.target cwd, some e) := by
  unfold inspect
  split
  · rename_i there found located
    obtain rfl := (locate_ok located).1
    simp [located]
  · simp_all
  · simp_all

theorem inspect_error_iff {d : Disk} {cwd : List Text} {p : Path} {fault : FileFault} :
    d.inspect cwd p = .error fault ↔
      ∃ q, fault = .refused .nameTooLong q ∧ d.locate cwd p = .error (.refused .nameTooLong q) := by
  unfold inspect
  split
  · simp_all
  · simp_all [eq_comm]
  · rename_i other
    simp_all

/-- What a path leads to after a change. It still leads to a directory if it did before, and it leads to no entry of
the old disk that it did not lead to. -/
theorem Keeps.inspect {targets : List (List Text)} {d d' : Disk} (change : Keeps targets d d') (tree : d.IsTree)
    {cwd : List Text} {p : Path} {found : Option Entry} (smooth : Smooth d d' (p.steps cwd))
    (inspected : d.inspect cwd p = .ok found) :
    ∃ found', d'.inspect cwd p = .ok found' ∧ (found = some .directory → found' = some .directory) ∧
      ∀ e, found' = some e → d.get? (p.target cwd) = some e → found = some e := by
  cases inspected' : d'.inspect cwd p with
  | error fault =>
    obtain ⟨q, _, failed⟩ := inspect_error_iff.mp inspected'
    obtain ⟨rfl, named, long⟩ := locate_nameTooLong_iff.mp failed
    have long' := follow_nameTooLong_of_later tree smooth long
    rw [inspect_error_iff.mpr ⟨q, rfl, locate_nameTooLong_iff.mpr ⟨rfl, named, long'⟩⟩] at inspected
    cases inspected
  | ok found' =>
    refine ⟨found', rfl, ?_, ?_⟩
    · rintro rfl
      obtain ⟨_, named, followed⟩ := Fallible.bind_ok (inspect_eq_some_iff.mp inspected)
      have still := follow_directory change.directories (Fallible.mapError_ok followed)
      exact Except.ok.inj (inspected'.symm.trans (inspect_eq_some_iff.mpr (locate_of_follow named still)))
    · rintro e rfl before
      have located := locate_of_later tree smooth.steady (inspect_eq_some_iff.mp inspected') before
      exact Except.ok.inj (inspected.symm.trans (inspect_eq_some_iff.mpr located))

end Disk

end RouteScript
