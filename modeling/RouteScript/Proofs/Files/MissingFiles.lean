import Mathlib.Data.List.TakeWhile
import RouteScript.Proofs.Files.DiskTree
import RouteScript.Proofs.Text.Parts

/-!
# A disk without some of its files

`Lacks targets d d'` says that `d'` is `d` without some of the files among the targets. Paths lead to the same
directories on both disks (`Lacks.isDirectory`), and what can be made or written on `d` can be made or written on
`d'`, after which the one still lacks nothing but files of the other (`Lacks.makeDirectories`, `Lacks.write`).
-/

namespace RouteScript

namespace Disk

def without (d : Disk) (targets : List (List Text)) : Disk := ⟨d.entries.filter fun x => x.1 ∉ targets⟩

/-- The disk `d'` lacks some of the files of `d` that are among the targets, and is the same otherwise. -/
def Lacks (targets : List (List Text)) (d d' : Disk) : Prop :=
  ∀ names, d'.get? names = d.get? names ∨
    names ∈ targets ∧ d'.get? names = none ∧ ∃ content, d.get? names = some (.file content)

theorem get?_eq_of_mem_entries {d : Disk} (distinct : (d.entries.map Prod.fst).Nodup) {names : List Text} {e : Entry}
    (proper : names ≠ []) (member : (names, e) ∈ d.entries) : d.get? names = some e := by
  rw [get?, if_neg proper]
  generalize d.entries = entries at distinct member
  induction entries with
  | nil => cases member
  | cons x entries ih =>
    obtain ⟨key, value⟩ := x
    obtain ⟨absent, distinct⟩ := List.nodup_cons.mp distinct
    rcases List.mem_cons.mp member with same | later
    · cases same
      exact List.lookup_cons_self
    · have different : names ≠ key := by
        rintro rfl
        exact absent (List.mem_map.mpr ⟨_, later, rfl⟩)
      rw [List.lookup_cons, beq_false_of_ne different]
      exact ih distinct later

theorem get?_without_of_mem (d : Disk) {targets : List (List Text)} {names : List Text} (proper : names ≠ [])
    (member : names ∈ targets) : (d.without targets).get? names = none := by
  rw [get?, if_neg proper, without, List.lookup_eq_none_iff]
  intro x kept
  have absent : x.1 ∉ targets := of_decide_eq_true (List.mem_filter.mp kept).2
  exact bne_iff_ne.mpr fun same => absent (same ▸ member)

theorem without_lacks {d : Disk} {targets : List (List Text)}
    (files : ∀ names ∈ targets, ∃ content, d.get? names = some (.file content)) :
    Lacks targets d (d.without targets) := by
  intro names
  by_cases member : names ∈ targets
  · obtain ⟨content, present⟩ := files names member
    have proper : names ≠ [] := by
      rintro rfl
      cases present
    exact Or.inr ⟨member, d.get?_without_of_mem proper member, content, present⟩
  · have kept := lookup_filter d.entries (fun key => key ∉ targets) (decide_eq_true member)
    rw [get?, get?, without, kept]
    exact Or.inl rfl

theorem follow_stopped {d : Disk} {here rest : List Text} {name : Text} (proper : name ≠ "..")
    (short : ¬maxNameBytes < nameBytes name) (more : rest ≠ []) (stopped : d.get? (here ++ [name]) ≠ some .directory) :
    d.follow here (name :: rest) =
      .error (if (d.get? (here ++ [name])).isSome then .notDirectory else .noEntry) := by
  rw [follow, if_neg proper, if_neg short]
  dsimp only
  split
  · contradiction
  · rw [if_neg more]

section Lacking

variable {targets : List (List Text)} {d d' : Disk} (lacks : Lacks targets d d')

include lacks

theorem Lacks.directory_iff {names : List Text} :
    d'.get? names = some .directory ↔ d.get? names = some .directory := by
  rcases lacks names with same | ⟨_, missing, content, present⟩
  · rw [same]
  · simp [missing, present]

theorem Lacks.keeps : Keeps targets d d' := by
  refine ⟨fun names => lacks.directory_iff.mpr, ?_⟩
  intro names absent content
  rcases lacks names with same | ⟨member, _⟩
  · rw [same]
  · exact absurd member absent

theorem Lacks.set (there : List Text) (e : Entry) : Lacks targets (d.set there e) (d'.set there e) := by
  intro names
  by_cases same : names = there
  · subst same
    by_cases proper : names = []
    · subst proper
      exact Or.inl rfl
    · rw [get?_set_self _ _ proper, get?_set_self _ _ proper]
      exact Or.inl rfl
  · rw [get?_set_of_ne _ _ same, get?_set_of_ne _ _ same]
    exact lacks names

/-! ### Where paths lead -/

theorem Lacks.follow {here names there : List Text} {found : Option Entry}
    (followed : d.follow here names = .ok (there, found)) :
    ∃ found', d'.follow here names = .ok (there, found') ∧
      (found' = found ∨ there ∈ targets ∧ found' = none ∧ ∃ content, found = some (.file content)) := by
  fun_induction Disk.follow d here names with
  | case1 here =>
    cases followed
    exact ⟨_, rfl, Or.inl rfl⟩
  | case2 here rest ih =>
    rw [follow_back]
    exact ih followed
  | case3 => cases followed
  | case4 here name rest proper short next directory ih =>
    rw [follow_down proper short (lacks.directory_iff.mpr directory)]
    exact ih followed
  | case5 here name proper short next _ =>
    obtain ⟨rfl, rfl⟩ := Prod.mk.inj (Except.ok.inj followed)
    exact ⟨_, follow_last proper short rfl, lacks _⟩
  | case6 => cases followed

/-- Where names lead nowhere they still lead nowhere, but a file in the way may be missing now. -/
theorem Lacks.follow_error {here names : List Text} {code : Errno} (failed : d.follow here names = .error code) :
    d'.follow here names = .error code ∨ code = .notDirectory ∧ d'.follow here names = .error .noEntry := by
  fun_induction Disk.follow d here names with
  | case1 => cases failed
  | case2 here rest ih =>
    rw [follow_back]
    exact ih failed
  | case3 here name rest proper long =>
    rw [Disk.follow, if_neg proper, if_pos long]
    exact Or.inl failed
  | case4 here name rest proper short next directory ih =>
    rw [follow_down proper short (lacks.directory_iff.mpr directory)]
    exact ih failed
  | case5 => cases failed
  | case6 here name rest proper short next more noDirectory =>
    have stopped : d'.get? next ≠ some .directory := fun directory => noDirectory (lacks.directory_iff.mp directory)
    rw [follow_stopped proper short more stopped]
    rcases lacks next with same | ⟨_, missing, content, present⟩
    · rw [same, ← failed]
      exact Or.inl rfl
    · rw [present] at failed
      rw [missing]
      exact Or.inr ⟨(Except.error.inj failed).symm, rfl⟩

theorem Lacks.locate {cwd there : List Text} {p : Path} {found : Option Entry}
    (located : d.locate cwd p = .ok (there, found)) :
    ∃ found', d'.locate cwd p = .ok (there, found') ∧
      (found' = found ∨ there ∈ targets ∧ found' = none ∧ ∃ content, found = some (.file content)) := by
  obtain ⟨_, named, followed⟩ := Fallible.bind_ok located
  obtain ⟨found', followed', relation⟩ := lacks.follow (Fallible.mapError_ok followed)
  exact ⟨found', locate_of_follow named followed', relation⟩

theorem Lacks.locate_error {cwd : List Text} {p : Path} {fault : FileFault}
    (failed : d.locate cwd p = .error fault) :
    d'.locate cwd p = .error fault ∨
      fault = .refused .notDirectory p ∧ d'.locate cwd p = .error (.refused .noEntry p) := by
  rcases Fallible.bind_error failed with unnamed | ⟨_, named, failed⟩
  · rw [Disk.locate, unnamed]
    exact Or.inl rfl
  · obtain ⟨code, stopped, rfl⟩ := Fallible.mapError_error failed
    rw [Disk.locate, named]
    rcases lacks.follow_error stopped with same | ⟨rfl, missing⟩
    · refine Or.inl ?_
      rw [same]
      rfl
    · refine Or.inr ⟨rfl, ?_⟩
      rw [missing]
      rfl

theorem Lacks.inspect (cwd : List Text) (p : Path) :
    d'.inspect cwd p = d.inspect cwd p ∨
      p.target cwd ∈ targets ∧ d'.inspect cwd p = .ok none ∧
        ∃ content, d.inspect cwd p = .ok (some (.file content)) := by
  cases located : d.locate cwd p with
  | ok x =>
    obtain ⟨there, found⟩ := x
    obtain ⟨found', located', relation⟩ := lacks.locate located
    have before : d.inspect cwd p = .ok found := by simp only [Disk.inspect, located]
    have after : d'.inspect cwd p = .ok found' := by simp only [Disk.inspect, located']
    rw [before, after]
    rcases relation with rfl | ⟨member, rfl, content, rfl⟩
    · exact Or.inl rfl
    · rw [← (locate_ok located).1]
      exact Or.inr ⟨member, rfl, content, rfl⟩
  | error fault =>
    refine Or.inl ?_
    rcases lacks.locate_error located with same | ⟨rfl, missing⟩
    · simp only [Disk.inspect, located, same]
    · simp only [Disk.inspect, located, missing]

theorem Lacks.inspect_of_not_mem {cwd : List Text} {p : Path} (absent : p.target cwd ∉ targets) :
    d'.inspect cwd p = d.inspect cwd p := by
  rcases lacks.inspect cwd p with same | ⟨member, _⟩
  · exact same
  · exact absurd member absent

theorem Lacks.isDirectory (cwd : List Text) (p : Path) : d'.isDirectory cwd p = d.isDirectory cwd p := by
  rw [Disk.isDirectory, Disk.isDirectory]
  rcases lacks.inspect cwd p with same | ⟨_, missing, content, present⟩
  · rw [same]
  · rw [missing, present]
    rfl

/-! ### What can be made -/

theorem Lacks.makeDirectory {e : Disk} {cwd : List Text} {p : Path} (made : d.makeDirectory cwd p = .ok e) :
    ∃ e', d'.makeDirectory cwd p = .ok e' ∧ Lacks targets e e' := by
  obtain ⟨⟨there, found⟩, located, made⟩ := Fallible.bind_ok made
  cases found with
  | some _ => cases made
  | none =>
    cases made
    obtain ⟨found', located', relation⟩ := lacks.locate located
    obtain rfl : found' = none := by
      rcases relation with same | ⟨_, missing, _⟩
      · exact same
      · exact missing
    refine ⟨d'.set there .directory, ?_, lacks.set there .directory⟩
    rw [Disk.makeDirectory, located']
    rfl

theorem Lacks.makeDirectory_noEntry {cwd : List Text} {p q : Path}
    (failed : d.makeDirectory cwd p = .error (.refused .noEntry q)) :
    d'.makeDirectory cwd p = .error (.refused .noEntry q) := by
  rcases Fallible.bind_error failed with unlocated | ⟨⟨there, found⟩, _, failed⟩
  · rcases lacks.locate_error unlocated with same | ⟨other, _⟩
    · rw [Disk.makeDirectory, same]
      rfl
    · cases other
  · cases found with
    | none => cases failed
    | some _ => cases failed

end Lacking

theorem makeDirectory_of_isDirectory {d : Disk} {cwd : List Text} {p : Path}
    (directory : d.isDirectory cwd p = .ok true) : d.makeDirectory cwd p = .error (.refused .exists p) := by
  obtain ⟨found, inspected, same⟩ := Fallible.bind_ok directory
  obtain rfl : found = some .directory := by simpa using Except.ok.inj same
  rw [makeDirectory, inspect_eq_some_iff.mp inspected]
  rfl

theorem settle_ok {d d' : Disk} {cwd : List Text} {p : Path} {fault : FileFault}
    (settled : d.settle cwd p fault = (d', .ok ())) : d.isDirectory cwd p = .ok true ∧ d' = d := by
  unfold settle at settled
  split at settled
  · rename_i directory
    cases settled
    exact ⟨directory, rfl⟩
  · cases settled

theorem settle_of_isDirectory {d : Disk} {cwd : List Text} {p : Path} (fault : FileFault)
    (directory : d.isDirectory cwd p = .ok true) : d.settle cwd p fault = (d, .ok ()) := by
  rw [settle, directory]

theorem makeDirectories_of_isDirectory {d : Disk} {cwd : List Text} {p : Path}
    (directory : d.isDirectory cwd p = .ok true) : d.makeDirectories cwd p = (d, .ok ()) := by
  rw [makeDirectories, makeDirectory_of_isDirectory directory]
  exact settle_of_isDirectory _ directory

/-- Directories that can be made on a disk can be made where some of its files are missing. -/
theorem Lacks.makeDirectories {targets : List (List Text)} {d d' e : Disk} (lacks : Lacks targets d d')
    {cwd : List Text} {p : Path} (made : d.makeDirectories cwd p = (e, .ok ())) :
    ∃ e', d'.makeDirectories cwd p = (e', .ok ()) ∧ Lacks targets e e' := by
  fun_induction Disk.makeDirectories d cwd p generalizing e with
  | case1 p after first =>
    cases made
    obtain ⟨after', first', related⟩ := lacks.makeDirectory first
    refine ⟨after', ?_, related⟩
    rw [Disk.makeDirectories, first']
  | case2 => cases made
  | case3 => cases made
  | case4 p q first named between above after second ih =>
    cases made
    obtain ⟨between', above', relatedBetween⟩ := ih above
    obtain ⟨after', second', related⟩ := relatedBetween.makeDirectory second
    refine ⟨after', ?_, related⟩
    rw [Disk.makeDirectories, lacks.makeDirectory_noEntry first]
    dsimp only
    rw [if_neg named, above']
    dsimp only
    rw [second']
  | case5 => cases made
  | case6 p q first named between above fault _ second ih =>
    -- The directory was there all the same, and a directory is never missing.
    obtain ⟨directory, rfl⟩ := settle_ok made
    obtain ⟨between', above', related⟩ := ih above
    have directory' : between'.isDirectory cwd p = .ok true := (related.isDirectory cwd p).trans directory
    refine ⟨between', ?_, related⟩
    rw [Disk.makeDirectories, lacks.makeDirectory_noEntry first]
    dsimp only
    rw [if_neg named, above']
    dsimp only
    rw [makeDirectory_of_isDirectory directory']
    exact settle_of_isDirectory _ directory'
  | case7 p fault first second =>
    obtain ⟨directory, rfl⟩ := settle_ok made
    exact ⟨d', makeDirectories_of_isDirectory ((lacks.isDirectory cwd p).trans directory), lacks⟩

/-! ### The directory that holds a file -/

theorem follow_parent {d : Disk} {here front there : List Text} {name : Text} {content : Bytes}
    (followed : d.follow here (front ++ [name]) = .ok (there, some (.file content))) :
    ∃ above, d.follow here front = .ok (above, some .directory) := by
  induction front generalizing here with
  | nil => exact ⟨here, rfl⟩
  | cons next front ih =>
    by_cases back : next = ".."
    · subst back
      rw [List.cons_append, follow_back] at followed
      rw [follow_back]
      exact ih followed
    · by_cases long : maxNameBytes < nameBytes next
      · rw [List.cons_append, follow, if_neg back, if_pos long] at followed
        cases followed
      · by_cases directory : d.get? (here ++ [next]) = some .directory
        · rw [List.cons_append, follow_down back long directory] at followed
          rw [follow_down back long directory]
          exact ih followed
        · rw [List.cons_append, follow_stopped back long (by simp) directory] at followed
          cases followed

end Disk

namespace Path

/-- A path can be given to the system if none of its code points forbids it. -/
theorem checkName_eq_ok {p : Path} :
    p.checkName = .ok () ↔ (∀ c ∈ p.toText, isNameless c = false) ∧ CodePoint.char '\x00' ∉ p.toText := by
  unfold checkName
  generalize p.toText = t
  dsimp only
  have cut : t.drop (t.takeWhile (!isNameless ·)).length = t.dropWhile (!isNameless ·) := by
    have whole : t.takeWhile (!isNameless ·) ++ t.dropWhile (!isNameless ·) = t := List.takeWhile_append_dropWhile
    calc t.drop (t.takeWhile (!isNameless ·)).length
        = (t.takeWhile (!isNameless ·) ++ t.dropWhile (!isNameless ·)).drop (t.takeWhile (!isNameless ·)).length := by
          rw [whole]
      _ = t.dropWhile (!isNameless ·) := List.drop_left
  rw [cut]
  cases rest : t.dropWhile (!isNameless ·) with
  | nil =>
    have named : ∀ c ∈ t, isNameless c = false := by simpa [List.dropWhile_eq_nil_iff] using rest
    by_cases null : CodePoint.char '\x00' ∈ t
    · simp [null]
    · simpa [null] using named
  | cons c rest =>
    have nameless : isNameless c = true := by
      have head := List.head_dropWhile_not (fun c => !isNameless c) (l := t) (by simp [rest])
      simpa [rest] using head
    have member : c ∈ t := (List.dropWhile_suffix _).subset (rest ▸ List.mem_cons_self)
    cases c with
    | char c => cases nameless
    | surrogate offset =>
      constructor
      · intro impossible
        cases impossible
      · intro all
        rw [all.1 _ member] at nameless
        cases nameless

theorem mem_toText_parent {p : Path} {c : CodePoint} (member : c ∈ p.parent.toText) :
    c ∈ p.toText ∨ c = .char '.' := by
  obtain ⟨slashes, names⟩ := p
  rcases names.eq_nil_or_concat with rfl | ⟨front, name, rfl⟩
  · exact Or.inl member
  · have whole : (⟨slashes, front.concat name⟩ : Path).toText =
        List.replicate slashes (.char '/') ++ Text.joinWith "/" (front ++ [name]) := by simp [toText]
    have parent : (⟨slashes, front.concat name⟩ : Path).parent = ⟨slashes, front⟩ := by simp [Path.parent]
    rw [parent, toText] at member
    rw [whole]
    split at member
    · exact Or.inr (by simpa [Text.ofString] using member)
    · by_cases first : front = []
      · subst first
        refine Or.inl (List.mem_append_left _ ?_)
        simpa [Text.joinWith] using member
      · rw [Text.joinWith_append _ first (by simp), ← List.append_assoc, ← List.append_assoc]
        exact Or.inl (List.mem_append_left _ (List.mem_append_left _ member))

theorem checkName_parent {p : Path} (named : p.checkName = .ok ()) : p.parent.checkName = .ok () := by
  rw [checkName_eq_ok] at named ⊢
  constructor
  · intro c member
    rcases mem_toText_parent member with inside | rfl
    · exact named.1 c inside
    · rfl
  · intro null
    rcases mem_toText_parent null with inside | point
    · exact named.2 inside
    · exact absurd point (by decide)

theorem parent_names {p : Path} {front : List Text} {name : Text} (names : p.names = front ++ [name]) :
    p.parent.names = front := by
  rw [parent, names, List.dropLast_concat]

end Path

namespace Disk

theorem isDirectory_parent {d : Disk} {cwd there : List Text} {p : Path} {content : Bytes}
    (located : d.locate cwd p = .ok (there, some (.file content))) : d.isDirectory cwd p.parent = .ok true := by
  obtain ⟨_, named, followed⟩ := Fallible.bind_ok located
  have followed := Fallible.mapError_ok followed
  rcases p.names.eq_nil_or_concat with empty | ⟨front, name, names⟩
  · rw [empty] at followed
    cases followed
  · rw [List.concat_eq_append] at names
    rw [names] at followed
    obtain ⟨above, led⟩ := follow_parent followed
    have parent := Path.parent_names names
    have located' : d.locate cwd p.parent = .ok (above, some .directory) :=
      locate_of_follow (Path.checkName_parent named) (by rw [parent]; exact led)
    have inspected : d.inspect cwd p.parent = .ok (some .directory) := by simp only [inspect, located']
    rw [isDirectory, inspected]
    rfl

/-! ### What can be written -/

theorem write_of_locate {d : Disk} {cwd there : List Text} {p : Path} {found : Option Entry}
    (located : d.locate cwd p = .ok (there, found)) (noDirectory : found ≠ some .directory) (content : Bytes) :
    d.write cwd p content = .ok (d.set there (.file content)) := by
  rw [write, located]
  cases found with
  | none => rfl
  | some e =>
    cases e with
    | file _ => rfl
    | directory => exact absurd rfl noDirectory

theorem write_ok {d e : Disk} {cwd : List Text} {p : Path} {content : Bytes} (written : d.write cwd p content = .ok e) :
    ∃ there found, d.locate cwd p = .ok (there, found) ∧ found ≠ some .directory ∧ e = d.set there (.file content) := by
  obtain ⟨⟨there, found⟩, located, done⟩ := Fallible.bind_ok written
  have noDirectory : found ≠ some .directory := by
    rintro rfl
    cases done
  rw [write_of_locate located noDirectory] at written
  exact ⟨there, found, located, noDirectory, (Except.ok.inj written).symm⟩

section Writing

variable {targets : List (List Text)} {d d' : Disk} (lacks : Lacks targets d d')

include lacks

theorem Lacks.write {e : Disk} {cwd : List Text} {p : Path} {content : Bytes}
    (written : d.write cwd p content = .ok e) :
    ∃ e', d'.write cwd p content = .ok e' ∧ Lacks targets e e' := by
  obtain ⟨there, found, located, noDirectory, rfl⟩ := write_ok written
  obtain ⟨found', located', relation⟩ := lacks.locate located
  have noDirectory' : found' ≠ some .directory := by
    rcases relation with rfl | ⟨_, rfl, _⟩
    · exact noDirectory
    · simp
  exact ⟨_, write_of_locate located' noDirectory' content, lacks.set there (.file content)⟩

/-- A file that is missing can be written as it is on the other disk. -/
theorem Lacks.write_present {cwd : List Text} {p : Path} {content : Bytes}
    (located : d.locate cwd p = .ok (p.target cwd, some (.file content))) :
    ∃ e', d'.write cwd p content = .ok e' ∧ Lacks targets d e' := by
  have present : d.get? (p.target cwd) = some (.file content) := (locate_ok located).2.resolve_left (by simp)
  have proper : p.target cwd ≠ [] := by
    intro root
    rw [root] at present
    cases present
  obtain ⟨found', located', relation⟩ := lacks.locate located
  have noDirectory : found' ≠ some .directory := by
    rcases relation with rfl | ⟨_, rfl, _⟩ <;> simp
  refine ⟨_, write_of_locate located' noDirectory content, ?_⟩
  intro names
  by_cases same : names = p.target cwd
  · rw [same, get?_set_self _ _ proper, present]
    exact Or.inl rfl
  · rw [get?_set_of_ne _ _ same]
    exact lacks names

end Writing

end Disk

end RouteScript
