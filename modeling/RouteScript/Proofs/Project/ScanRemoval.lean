import RouteScript.Proofs.Files.MissingFiles
import RouteScript.Proofs.Project.ScanStability

/-!
# Scanning without some files

A scan of a disk without some files finds what a scan of the whole disk finds, these files apart, and it fails where
that one fails (`run_without`).
-/

namespace RouteScript

/-- Sorting keeps the order of what it cannot tell apart, so elements can be left out before it or after it. -/
theorem mergeSort_filter {α : Type} {le : α → α → Bool} (trans : ∀ x y z, le x y → le y z → le x z)
    (total : ∀ x y, le x y || le y x) (keeps : α → Bool) (xs : List α) :
    (xs.filter keeps).mergeSort le = (xs.mergeSort le).filter keeps := by
  induction xs with
  | nil => simp
  | cons x xs ih =>
    obtain ⟨before, after, sorted, rest, above⟩ := List.mergeSort_cons trans total x xs
    by_cases keep : keeps x
    · obtain ⟨before', after', sorted', rest', above'⟩ := List.mergeSort_cons trans total x (xs.filter keeps)
      rw [ih, rest, List.filter_append] at rest'
      have below : ∀ {ys s t : List α}, ys.mergeSort le = s ++ x :: t → ∀ y ∈ t, le x y := by
        intro ys s t split y member
        have pairwise := List.pairwise_mergeSort trans total ys
        rw [split] at pairwise
        exact List.rel_of_pairwise_cons (List.pairwise_append.mp pairwise).2.1 member
      -- The comparison with `x` tells what stands before it from what stands after it, so both lists are cut alike.
      have first : ∀ {s t : List α}, (∀ y ∈ s, !le x y) → (∀ y ∈ t, le x y) → (s ++ t).filter (!le x ·) = s := by
        intro s t none all
        rw [List.filter_append, List.filter_eq_self.mpr none, List.filter_eq_nil_iff.mpr (by simpa using all),
          List.append_nil]
      have front : before.filter keeps = before' := by
        rw [← first (fun y member => above y (List.mem_of_mem_filter member))
          (fun y member => below sorted y (List.mem_of_mem_filter member)), rest', first above' (below sorted')]
      have back : after.filter keeps = after' := List.append_cancel_left (front ▸ rest')
      rw [List.filter_cons_of_pos keep, sorted, sorted', List.filter_append, List.filter_cons_of_pos keep, front, back]
    · rw [List.filter_cons_of_neg keep, ih, rest, sorted, List.filter_append, List.filter_append,
        List.filter_cons_of_neg keep]

theorem Disk.filesBelow_without (d : Disk) (targets : List (List Text)) (root : List Text) :
    (d.without targets).filesBelow root = (d.filesBelow root).filter fun names => root ++ names ∉ targets := by
  rw [filesBelow, filesBelow, ← mergeSort_filter (fun s t u => @walksBefore_trans s t u) walksBefore_total, without,
    List.filterMap_filter, List.filter_filterMap]
  refine congrArg (List.mergeSort · walksBefore) (List.filterMap_congr ?_)
  rintro ⟨names, e⟩ _
  cases e with
  | directory => simp
  | file content =>
    dsimp only
    cases below : root.isPrefixOf? names with
    | none => simp
    | some rest =>
      obtain rfl := List.isPrefixOf?_eq_some_iff_append_eq.mp below
      by_cases member : root ++ rest ∈ targets <;> simp [member, Option.filter]

namespace Scan

/-- The files whose names are not among the targets. -/
def remaining (targets : List (List Text)) (files : List SourceFile) : List SourceFile :=
  files.filter fun file => !targets.contains file.path.names

theorem sourcesBelow_without (d : Disk) (targets : List (List Text)) (root : List Text) :
    sourcesBelow (d.without targets) root = remaining targets (sourcesBelow d root) := by
  rw [sourcesBelow_eq, sourcesBelow_eq, Disk.filesBelow_without, remaining, List.filterMap_filter,
    List.filter_filterMap]
  refine List.filterMap_congr fun names _ => ?_
  cases source : sourceAt root names with
  | none => simp
  | some file =>
    have below : file.path.names = root ++ names := congrArg Path.names (sourceAt_path source)
    simp only [Option.filter_some, below, List.contains_eq_mem, decide_not]

/-- Progress without the files of the targets. -/
structure Progress.Reduces (targets : List (List Text)) (p p' : Progress) : Prop where
  seen : ∀ path : Path, path.names ∉ targets → (path ∈ p'.seen ↔ path ∈ p.seen)
  found : p'.found = remaining targets p.found

theorem Progress.Reduces.note {targets : List (List Text)} {p p' : Progress} (reduces : p.Reduces targets p')
    (message message' : Text) : (p.note message).Reduces targets (p'.note message') :=
  ⟨reduces.seen, reduces.found⟩

theorem Progress.Reduces.meet_removed {targets : List (List Text)} {p p' : Progress} (reduces : p.Reduces targets p')
    (s : Scan) (f : Filter) {file : SourceFile} (removed : file.path.names ∈ targets) :
    (p.meet s f file).Reduces targets p' := by
  have seen : ∀ path : Path, path.names ∉ targets → (path ∈ p'.seen ↔ path ∈ file.path :: p.seen) := by
    intro path absent
    have different : path ≠ file.path := by
      rintro rfl
      exact absent removed
    rw [reduces.seen path absent, List.mem_cons]
    exact ⟨Or.inr, fun member => member.resolve_left different⟩
  unfold Progress.meet
  split
  · exact reduces
  · dsimp only
    split
    · refine ⟨seen, ?_⟩
      rw [reduces.found, remaining, remaining, List.filter_append]
      simp [removed]
    · exact ⟨seen, reduces.found⟩

theorem Progress.Reduces.meet {targets : List (List Text)} {p p' : Progress} (reduces : p.Reduces targets p')
    (s : Scan) (f : Filter) {file : SourceFile} (kept : file.path.names ∉ targets) :
    (p.meet s f file).Reduces targets (p'.meet s f file) := by
  have met : p'.seen.contains file.path = p.seen.contains file.path := by
    rw [Bool.eq_iff_iff, List.contains_iff_mem, List.contains_iff_mem]
    exact reduces.seen file.path kept
  have seen : ∀ path : Path, path.names ∉ targets → (path ∈ file.path :: p'.seen ↔ path ∈ file.path :: p.seen) := by
    intro path absent
    rw [List.mem_cons, List.mem_cons, reduces.seen path absent]
  unfold Progress.meet
  rw [met]
  split
  · exact reduces
  · dsimp only
    split
    · refine ⟨seen, ?_⟩
      dsimp only
      rw [reduces.found, remaining, remaining, List.filter_append]
      simp [kept]
    · exact ⟨seen, reduces.found⟩

theorem Progress.Reduces.meetAll {targets : List (List Text)} {p p' : Progress} (reduces : p.Reduces targets p')
    (s : Scan) (f : Filter) (files : List SourceFile) :
    (files.foldl (Progress.meet s f) p).Reduces targets ((remaining targets files).foldl (Progress.meet s f) p') := by
  induction files generalizing p p' with
  | nil => exact reduces
  | cons file files ih =>
    rw [List.foldl_cons, remaining]
    by_cases removed : file.path.names ∈ targets
    · rw [List.filter_cons_of_neg (by simpa using removed)]
      exact ih (reduces.meet_removed s f removed)
    · rw [List.filter_cons_of_pos (by simpa using removed), List.foldl_cons]
      exact ih (reduces.meet s f removed)

theorem inOrder_remaining (targets : List (List Text)) (files : List SourceFile) :
    inOrder (remaining targets files) = remaining targets (inOrder files) := by
  rw [inOrder, remaining, mergeSort_filter]
  · rfl
  · exact fun _ _ _ => Text.le_trans
  · exact fun _ _ => Text.le_total _ _

section Without

variable {targets : List (List Text)} {d : Disk} (lacks : Disk.Lacks targets d (d.without targets))

include lacks

theorem walk_without (s : Scan) (a : Account) (f : Filter) (roots : List Text) {p p' : Progress}
    (reduces : p.Reduces targets p') :
    (s.walk (d.without targets) a f roots p').2 = (s.walk d a f roots p).2 ∧
      (s.walk d a f roots p).1.Reduces targets (s.walk (d.without targets) a f roots p').1 := by
  induction roots generalizing p p' with
  | nil => exact ⟨rfl, reduces⟩
  | cons root roots ih =>
    rw [walk, walk]
    cases a.expandHome (.ofText root) with
    | error fault => exact ⟨rfl, reduces⟩
    | ok path =>
      dsimp only
      rw [lacks.isDirectory a.cwd path]
      cases d.isDirectory a.cwd path with
      | error fault => exact ⟨rfl, reduces⟩
      | ok present =>
        cases present with
        | false => exact ih (reduces.note _ _)
        | true =>
          dsimp only
          rw [sourcesBelow_without]
          exact ih (reduces.meetAll s f _)

/-- A scan without the files of the targets selects the same other files. -/
theorem run_without (s : Scan) (a : Account) :
    (s.run (d.without targets) a).2 = (s.run d a).2.map (remaining targets) := by
  unfold run
  cases s.filter with
  | error fault => rfl
  | ok f =>
    have start : Progress.Reduces targets ⟨[], [], []⟩ ⟨[], [], []⟩ := ⟨fun _ _ => Iff.rfl, rfl⟩
    obtain ⟨faults, reduces⟩ := walk_without lacks s a f s.allRoots start
    dsimp only
    generalize s.walk d a f s.allRoots ⟨[], [], []⟩ = walked at faults reduces ⊢
    generalize s.walk (d.without targets) a f s.allRoots ⟨[], [], []⟩ = walked' at faults reduces ⊢
    obtain ⟨p, fault⟩ := walked
    obtain ⟨p', fault'⟩ := walked'
    obtain rfl : fault' = fault := faults
    cases fault' with
    | some fault => rfl
    | none =>
      have found : p'.found = remaining targets p.found := reduces.found
      dsimp only
      rw [found, inOrder_remaining]
      rfl

end Without

end Scan

end RouteScript
