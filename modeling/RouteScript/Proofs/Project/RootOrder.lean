import RouteScript.Proofs.Project.ScanSelection

/-!
# The order of roots

The order of the roots decides about a file only where it is seen from several of them and the patterns admit it by its
path from one of them and not by its path from another (`finds_perm`).
-/

namespace RouteScript.Scan

/-! ### The first root that a file is seen from -/

section First

variable {s : Scan} {d : Disk} {a : Account} {roots : List Text} {path : Path} {file other : SourceFile}

theorem FirstSeen.sees (first : s.FirstSeen d a roots file) : ∃ root ∈ roots, s.Sees d a root file := by
  obtain ⟨before, root, after, rfl, seen, _⟩ := first
  exact ⟨root, by simp, seen⟩

theorem firstSeen_cons {root : Text} : s.FirstSeen d a (root :: roots) file ↔
    s.Sees d a root file ∨ s.Misses d a [root] file.path ∧ s.FirstSeen d a roots file := by
  rw [← List.singleton_append, firstSeen_append, firstSeen_single]

theorem FirstSeen.unique (first : s.FirstSeen d a roots file) (second : s.FirstSeen d a roots other)
    (same : file.path = other.path) : file = other := by
  induction roots with
  | nil =>
    obtain ⟨root, member, _⟩ := first.sees
    cases member
  | cons root roots ih =>
    rcases firstSeen_cons.mp first with seen | ⟨missed, later⟩
    · rcases firstSeen_cons.mp second with seen' | ⟨missed', _⟩
      · exact seen.unique seen' same
      · exact absurd same (missed' root (by simp) file seen)
    · rcases firstSeen_cons.mp second with seen' | ⟨_, later'⟩
      · exact absurd same.symm (missed root (by simp) other seen')
      · exact ih later later'

theorem exists_firstSeen (seen : ¬s.Misses d a roots path) : ∃ file, s.FirstSeen d a roots file ∧ file.path = path := by
  induction roots with
  | nil => exact absurd (by simp [Misses]) seen
  | cons root roots ih =>
    by_cases missed : s.Misses d a [root] path
    · have later : ¬s.Misses d a roots path := by
        intro missed'
        refine seen fun earlier member => ?_
        rcases List.mem_cons.mp member with rfl | member
        · exact missed earlier (by simp)
        · exact missed' earlier member
      obtain ⟨file, first, rfl⟩ := ih later
      exact ⟨file, firstSeen_cons.mpr (Or.inr ⟨missed, first⟩), rfl⟩
    · simp only [Misses, List.mem_singleton, forall_eq, not_forall, not_not] at missed
      obtain ⟨file, here, same⟩ := missed
      exact ⟨file, firstSeen_cons.mpr (Or.inl here), same⟩

end First

/-! ### Scans with their roots in another order -/

/-- The scan succeeds and selects a file at the path. -/
def Finds (s : Scan) (d : Disk) (a : Account) (path : Path) : Prop :=
  ∃ files, (s.run d a).2 = .ok files ∧ ∃ file ∈ files, file.path = path

def withRoots (s : Scan) (roots : List Text) : Scan :=
  { s with roots := roots }

/-- The patterns admit the file at the path from every root that it is seen from, or from none of them. -/
def AgreesOn (s : Scan) (d : Disk) (a : Account) (f : Filter) (path : Path) : Prop :=
  ∀ root ∈ s.roots, ∀ other ∈ s.roots, ∀ x y, s.Sees d a root x → s.Sees d a other y → x.path = path → y.path = path →
    (f.Admits x.relative ↔ f.Admits y.relative)

def walkedTests (s : Scan) : List Text :=
  if s.includeTest then s.testRoots else []

theorem allRoots_withRoots (s : Scan) (roots : List Text) : (s.withRoots roots).allRoots = roots ++ s.walkedTests := by
  unfold allRoots withRoots walkedTests
  split
  · rfl
  · rw [List.append_nil]

theorem allRoots_eq (s : Scan) : s.allRoots = s.roots ++ s.walkedTests :=
  s.allRoots_withRoots s.roots

theorem run_withRoots_succeeds_iff {s : Scan} {d : Disk} {a : Account} {roots : List Text} (perm : roots.Perm s.roots) :
    (∃ files, ((s.withRoots roots).run d a).2 = .ok files) ↔ ∃ files, (s.run d a).2 = .ok files := by
  have members : ∀ root, root ∈ (s.withRoots roots).allRoots ↔ root ∈ s.allRoots := by
    intro root
    rw [allRoots_withRoots, allRoots_eq, List.mem_append, List.mem_append, perm.mem_iff]
  rw [run_succeeds_iff, run_succeeds_iff]
  simp only [members]
  rfl

section Finding

variable {d : Disk} (forest : d.IsForest) {a : Account} (working : d.get? a.cwd = some .directory) {s : Scan} {f : Filter}
  (compiled : s.filter = .ok f) (succeeds : ∃ files, (s.run d a).2 = .ok files) {roots : List Text}
  (perm : roots.Perm s.roots)

include forest working compiled succeeds perm

theorem finds_withRoots_iff {path : Path} :
    (s.withRoots roots).Finds d a path ↔
      ∃ file, s.FirstSeen d a (roots ++ s.walkedTests) file ∧ file.path = path ∧ f.Admits file.relative := by
  obtain ⟨files, scanned⟩ := (run_withRoots_succeeds_iff perm).mpr succeeds
  have members : ∀ file, file ∈ files ↔
      s.FirstSeen d a (roots ++ s.walkedTests) file ∧ f.Admits file.relative := by
    intro file
    rw [mem_run_iff forest working (s := s.withRoots roots) compiled scanned, Filter.selects_iff, allRoots_withRoots]
    rfl
  constructor
  · rintro ⟨files', scanned', file, member, same⟩
    cases scanned.symm.trans scanned'
    obtain ⟨first, admitted⟩ := (members file).mp member
    exact ⟨file, first, same, admitted⟩
  · rintro ⟨file, first, same, admitted⟩
    exact ⟨files, scanned, file, (members file).mpr ⟨first, admitted⟩, same⟩

/-- The path from the first root decides. -/
theorem finds_of_firstSeen {file : SourceFile} (first : s.FirstSeen d a roots file) :
    (s.withRoots roots).Finds d a file.path ↔ f.Admits file.relative := by
  have first' : s.FirstSeen d a (roots ++ s.walkedTests) file := firstSeen_append.mpr (Or.inl first)
  rw [finds_withRoots_iff forest working compiled succeeds perm]
  constructor
  · rintro ⟨other, second, same, admitted⟩
    exact second.unique first' same ▸ admitted
  · exact fun admitted => ⟨file, first', rfl, admitted⟩

/-- Where the roots do not show a file, the test roots decide. -/
theorem finds_of_misses {path : Path} (missed : s.Misses d a roots path) :
    (s.withRoots roots).Finds d a path ↔
      ∃ file, s.FirstSeen d a s.walkedTests file ∧ file.path = path ∧ f.Admits file.relative := by
  rw [finds_withRoots_iff forest working compiled succeeds perm]
  refine exists_congr fun file => ⟨?_, ?_⟩
  · rintro ⟨first, rfl, admitted⟩
    rcases firstSeen_append.mp first with early | ⟨_, late⟩
    · obtain ⟨root, member, seen⟩ := early.sees
      exact absurd rfl (missed root member file seen)
    · exact ⟨late, rfl, admitted⟩
  · rintro ⟨late, rfl, admitted⟩
    exact ⟨firstSeen_append.mpr (Or.inr ⟨missed, late⟩), rfl, admitted⟩

end Finding

/-- The order of the roots matters for just the files that patterns admit by the path from one root and not another. -/
theorem finds_perm {d : Disk} (forest : d.IsForest) {a : Account} (working : d.get? a.cwd = some .directory) (s : Scan) :
    (∀ roots, roots.Perm s.roots →
      ((∃ files, ((s.withRoots roots).run d a).2 = .ok files) ↔ ∃ files, (s.run d a).2 = .ok files)) ∧
    ∀ f, s.filter = .ok f → (∃ files, (s.run d a).2 = .ok files) → ∀ path,
      ((∀ roots, roots.Perm s.roots → ((s.withRoots roots).Finds d a path ↔ s.Finds d a path)) ↔
        s.AgreesOn d a f path) := by
  refine ⟨fun _ => run_withRoots_succeeds_iff, fun f compiled succeeds path => ⟨fun same => ?_, fun agrees => ?_⟩⟩
  · -- Each root that shows the file can stand first, and then the path from it decides.
    have decides : ∀ root ∈ s.roots, ∀ x, s.Sees d a root x → x.path = path →
        (s.Finds d a path ↔ f.Admits x.relative) := by
      rintro root member x seen rfl
      have front := (List.perm_cons_erase member).symm
      rw [← same _ front]
      exact finds_of_firstSeen forest working compiled succeeds front (firstSeen_cons.mpr (Or.inl seen))
    intro root member other member' x y seen seen' path path'
    exact (decides root member x seen path).symm.trans (decides other member' y seen' path')
  · intro roots perm
    have missed_iff : s.Misses d a roots path ↔ s.Misses d a s.roots path := by
      simp only [Misses, perm.mem_iff]
    by_cases missed : s.Misses d a s.roots path
    · exact (finds_of_misses forest working compiled succeeds perm (missed_iff.mpr missed)).trans
        (finds_of_misses forest working compiled succeeds (.refl _) missed).symm
    · obtain ⟨x, first, rfl⟩ := exists_firstSeen missed
      obtain ⟨y, first', same⟩ := exists_firstSeen (missed_iff.not.mpr missed)
      obtain ⟨root, member, seen⟩ := first.sees
      obtain ⟨other, member', seen'⟩ := first'.sees
      have own := finds_of_firstSeen forest working compiled succeeds (.refl _) first
      have reordered := finds_of_firstSeen forest working compiled succeeds perm first'
      rw [same] at reordered
      exact reordered.trans ((agrees root member other (perm.mem_iff.mp member') x y seen seen' rfl same).symm.trans
        own.symm)

/-- A document below two directories. -/
def nestedDisk : Disk :=
  ⟨[(["a"], .directory), (["a", "b"], .directory), (["a", "b", "x.xml"], .file [])]⟩

/-- A scan of both directories, the outer one first. -/
def nestedScan (includes : List Text) : Scan :=
  ⟨["/a", "/a/b"], [], false, true, true, includes, []⟩

/-- The document as it is seen from a root. -/
def nestedDocument (relative : Text) : SourceFile :=
  ⟨.absolute ["a", "b", "x.xml"], relative, .document⟩

theorem nestedDisk_isForest : nestedDisk.IsForest := by decide +kernel

/-- The pattern is that of the path from the outer directory. -/
theorem nestedScan_order_matters :
    nestedDisk.IsForest ∧ (["/a/b", "/a"] : List Text).Perm (nestedScan ["b/x.xml"]).roots ∧
      ((nestedScan ["b/x.xml"]).run nestedDisk plainAccount).2 = .ok [nestedDocument "b/x.xml"] ∧
      (((nestedScan ["b/x.xml"]).withRoots ["/a/b", "/a"]).run nestedDisk plainAccount).2 = .ok [] :=
  ⟨nestedDisk_isForest, .swap _ _ _, Fallible.ok_of_toOption (by decide +kernel),
    Fallible.ok_of_toOption (by decide +kernel)⟩

theorem finds_perm_nested :
    (nestedScan ["x.xml"]).Finds nestedDisk plainAccount (.absolute ["a", "b", "x.xml"]) ∧
      ((nestedScan ["x.xml"]).withRoots ["/a/b", "/a"]).Finds nestedDisk plainAccount
        (.absolute ["a", "b", "x.xml"]) := by
  have scanned : ((nestedScan ["x.xml"]).run nestedDisk plainAccount).2 = .ok [nestedDocument "b/x.xml"] :=
    Fallible.ok_of_toOption (by decide +kernel)
  obtain ⟨f, _, compiled, _⟩ := run_ok_iff.mp scanned
  have admitted : (nestedScan ["x.xml"]).filter.toOption.all fun f => f.selects "b/x.xml" && f.selects "x.xml" := by
    decide +kernel
  rw [compiled] at admitted
  obtain ⟨outer, inner⟩ := Bool.and_eq_true_iff.mp admitted
  have seenOuter : (nestedScan ["x.xml"]).Sees nestedDisk plainAccount "/a" (nestedDocument "b/x.xml") :=
    ⟨.absolute ["a"], ["a"], ["b", "x.xml"], [], rfl, rfl, rfl, by decide +kernel, by decide +kernel, rfl, rfl, rfl⟩
  have seenInner : (nestedScan ["x.xml"]).Sees nestedDisk plainAccount "/a/b" (nestedDocument "x.xml") :=
    ⟨.absolute ["a", "b"], ["a", "b"], ["x.xml"], [], rfl, rfl, rfl, by simp, by decide +kernel, rfl, rfl, rfl⟩
  have admits : ∀ root ∈ (nestedScan ["x.xml"]).roots, ∀ x, (nestedScan ["x.xml"]).Sees nestedDisk plainAccount root x →
      x.path = .absolute ["a", "b", "x.xml"] → f.Admits x.relative := by
    intro root member x seen path
    have two : root = "/a" ∨ root = "/a/b" := by simpa [nestedScan] using member
    rcases two with rfl | rfl
    · rw [seen.unique seenOuter path]
      exact Filter.selects_iff.mp outer
    · rw [seen.unique seenInner path]
      exact Filter.selects_iff.mp inner
  have found : (nestedScan ["x.xml"]).Finds nestedDisk plainAccount (.absolute ["a", "b", "x.xml"]) :=
    ⟨_, scanned, _, List.mem_singleton_self _, rfl⟩
  have same := ((finds_perm nestedDisk_isForest (a := plainAccount) rfl (nestedScan ["x.xml"])).2 f compiled ⟨_, scanned⟩
    (.absolute ["a", "b", "x.xml"])).mpr fun root member other member' x y seen seen' path path' =>
      iff_of_true (admits root member x seen path) (admits other member' y seen' path')
  exact ⟨found, (same ["/a/b", "/a"] (.swap _ _ _)).mpr found⟩

end RouteScript.Scan
