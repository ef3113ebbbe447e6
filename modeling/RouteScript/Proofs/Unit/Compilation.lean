import RouteScript.Proofs.Fallible
import RouteScript.Proofs.Unit.Naming
import RouteScript.Unit.Source

/-!
# Numbered sites and their units

Sites of one owner have different numbers, so that the units of a compilation never share a name or a file
(`units_distinct`). `compileNumbered_run` says what a compilation does as a whole: it compiles the sites in
order, up to the first that fails.
-/

namespace RouteScript

/-! ### Numbers -/

theorem map_fst_numberFrom (earlier sites : List Site) : (numberFrom earlier sites).map Prod.fst = sites := by
  induction sites generalizing earlier with
  | nil => rfl
  | cons s sites ih => rw [numberFrom, List.map_cons, ih]

theorem nextNumber_append (earlier : List Site) (s : Site) (owner : Text) :
    nextNumber earlier owner ≤ nextNumber (earlier ++ [s]) owner ∧
      (s.effectiveOwner = owner → nextNumber earlier owner < nextNumber (earlier ++ [s]) owner) := by
  simp only [nextNumber, List.filter_append, List.length_append]
  refine ⟨by omega, ?_⟩
  rintro rfl
  simp

theorem nextNumber_le_of_mem {earlier sites : List Site} {s : Site} {n : Nat}
    (member : (s, n) ∈ numberFrom earlier sites) : nextNumber earlier s.effectiveOwner ≤ n := by
  induction sites generalizing earlier with
  | nil => cases member
  | cons first sites ih =>
    rcases List.mem_cons.mp member with here | later
    · cases here
      exact Nat.le_refl _
    · exact Nat.le_trans (nextNumber_append earlier first _).1 (ih later)

/-- What the name of a site's class is made from. -/
def numberKey (x : Site × Nat) : Text × Nat := (x.1.effectiveOwner, x.2)

/-- No owner gets a number twice. -/
theorem numberFrom_distinct (earlier sites : List Site) : ((numberFrom earlier sites).map numberKey).Nodup := by
  induction sites generalizing earlier with
  | nil => exact List.nodup_nil
  | cons s sites ih =>
    rw [numberFrom, List.map_cons, List.nodup_cons]
    refine ⟨?_, ih _⟩
    intro member
    obtain ⟨⟨t, n⟩, present, same⟩ := List.mem_map.mp member
    injection same with owner number
    have least := nextNumber_le_of_mem present
    have more := (nextNumber_append earlier s t.effectiveOwner).2 owner.symm
    dsimp only at owner number
    rw [owner] at least more
    omega

/-! ### Units -/

theorem compile_ok {c : Configuration} {site : Site} {n : Int} {u : GeneratedUnit}
    (compiled : compile c site n = .ok u) :
    identity site.effectiveOwner n = .ok u.identity ∧ u.site = site ∧ u.kind = site.kind := by
  unfold compile at compiled
  dsimp only at compiled
  repeat' split at compiled
  all_goals cases compiled
  rename_i named
  exact ⟨named, rfl, rfl⟩

theorem compile_classSource {c : Configuration} {site : Site} {n : Int} {u : GeneratedUnit}
    (compiled : compile c site n = .ok u) :
    ∃ code, scriptCode site.kind (Alias.expand c.aliases site.script) = .ok code ∧
      u.source = classSource (splitIdentity u.identity).1 (splitIdentity u.identity).2 c.imports site.kind
        (Alias.expand c.aliases site.script) code := by
  unfold compile at compiled
  dsimp only at compiled
  repeat' split at compiled
  all_goals cases compiled
  exact ⟨_, by assumption, rfl⟩

theorem compile_fatal {c : Configuration} {site : Site} {n : Int} {f : Fatal}
    (failed : compile c site n = .error (.fatal f)) : f.site = site := by
  unfold compile at failed
  dsimp only at failed
  repeat' split at failed
  all_goals cases failed
  all_goals rfl

def unitOf (c : Configuration) (x : Site × Nat) : Except CompileFault GeneratedUnit := compile c x.1 x.2

/-- A compilation makes the units of the first sites, in order, and ends with them all or with the fault of
the site after them. -/
theorem compileNumbered_run (c : Configuration) (xs : List (Site × Nat)) :
    ∃ done rest, xs = done ++ rest ∧ done.mapM (unitOf c) = .ok (compileNumbered c xs).1 ∧
      match rest with
      | [] => (compileNumbered c xs).2 = none
      | x :: _ => ∃ fault, (compileNumbered c xs).2 = some fault ∧ unitOf c x = .error fault := by
  induction xs with
  | nil => exact ⟨[], [], rfl, rfl, rfl⟩
  | cons x xs ih =>
    obtain ⟨site, n⟩ := x
    cases made : compile c site n with
    | error fault =>
      refine ⟨[], (site, n) :: xs, rfl, ?_, fault, ?_, made⟩
      · simp only [compileNumbered, made]
        rfl
      · simp only [compileNumbered, made]
    | ok u =>
      obtain ⟨done, rest, rfl, units, ended⟩ := ih
      refine ⟨(site, n) :: done, rest, rfl, ?_, ?_⟩
      · simp only [List.mapM_cons, unitOf, compileNumbered, made]
        rw [show done.mapM (unitOf c) = _ from units]
        rfl
      · simpa only [compileNumbered, made] using ended

theorem compileAll_distinct (c : Configuration) (sites : List Site) :
    ((compileAll c sites).1.map (·.identity)).Nodup ∧ ((compileAll c sites).1.map (·.file)).Nodup := by
  obtain ⟨done, rest, all, units, _⟩ := compileNumbered_run c (numberSites sites)
  have keys : (done.map numberKey).Nodup := by
    have whole := numberFrom_distinct [] sites
    rw [show numberFrom [] sites = done ++ rest from all, List.map_append] at whole
    exact (List.nodup_append.mp whole).1
  have sameKey : ∀ x x' u u', unitOf c x = .ok u → unitOf c x' = .ok u' → u.identity = u'.identity →
      numberKey x = numberKey x' := by
    intro x x' u u' made made' same
    have ⟨owner, number⟩ := identity_unique (compile_ok made).1 (same ▸ (compile_ok made').1)
    exact Prod.ext owner (Int.ofNat.inj number)
  refine ⟨Fallible.nodup_of_mapM_ok units keys sameKey, Fallible.nodup_of_mapM_ok units keys ?_⟩
  intro x x' u u' made made' same
  refine sameKey x x' u u' made made' (classFile_unique ?_ ?_ same)
  · exact (identity_eq_ok.mp (compile_ok made).1).2.2
  · exact (identity_eq_ok.mp (compile_ok made').1).2.2

/-- A compilation without a fault makes one unit for each site, in order. -/
theorem compileAll_units {c : Configuration} {sites : List Site} {units : List GeneratedUnit}
    (compiled : compileAll c sites = (units, none)) :
    units.map (·.site) = sites ∧ ∀ u ∈ units, u.kind = u.site.kind ∧ isQualifiedName u.identity := by
  obtain ⟨done, rest, all, made, ended⟩ := compileNumbered_run c (numberSites sites)
  have result : compileNumbered c (numberSites sites) = (units, none) := compiled
  rw [result] at made ended
  cases rest with
  | cons x rest =>
    obtain ⟨fault, impossible, _⟩ := ended
    cases impossible
  | nil =>
    rw [List.append_nil] at all
    subst all
    constructor
    · rw [Fallible.map_of_mapM_ok made fun x u compiled => (compile_ok compiled).2.1]
      exact map_fst_numberFrom [] sites
    · intro u member
      obtain ⟨x, _, compiled⟩ := Fallible.mem_of_mapM_ok made member
      obtain ⟨named, site, kind⟩ := compile_ok compiled
      exact ⟨by rw [kind, site], (identity_eq_ok.mp named).2.2⟩

/-- The fault that ends a compilation is that of one of the sites. -/
theorem compileAll_fault {c : Configuration} {sites : List Site} {units : List GeneratedUnit} {fault : CompileFault}
    (failed : compileAll c sites = (units, some fault)) :
    ∃ site ∈ sites, ∃ n : Nat, compile c site n = .error fault := by
  obtain ⟨done, rest, all, _, ended⟩ := compileNumbered_run c (numberSites sites)
  have result : compileNumbered c (numberSites sites) = (units, some fault) := failed
  rw [result] at ended
  cases rest with
  | nil => cases ended
  | cons x rest =>
    obtain ⟨_, same, failed⟩ := ended
    cases same
    have member : x ∈ numberSites sites := by
      rw [all]
      simp
    refine ⟨x.1, ?_, x.2, failed⟩
    rw [← map_fst_numberFrom [] sites]
    exact List.mem_map.mpr ⟨x, member, rfl⟩

/-- The units of a compilation have different names and different files. -/
theorem units_distinct (c : Configuration) (sites : List Site) :
    ((compileAll c sites).1.map (·.identity)).Nodup ∧ ((compileAll c sites).1.map (·.file)).Nodup ∧
    (∀ owner n, isQualifiedName owner → 1 ≤ n → ∃ name, identity owner n = .ok name) ∧
    (∀ owner n name, identity owner n = .ok name → isQualifiedName name ∧
      ∀ owner' n', identity owner' n' = .ok name → owner' = owner ∧ n' = n) ∧
    ∀ name name', isQualifiedName name → isQualifiedName name' → classFile name = classFile name' →
      name = name' := by
  obtain ⟨names, files⟩ := compileAll_distinct c sites
  refine ⟨names, files, ?_, ?_, fun _ _ => classFile_unique⟩
  · intro owner n qualified positive
    exact ⟨_, identity_of_isQualifiedName qualified positive⟩
  · intro owner n name made
    exact ⟨(identity_eq_ok.mp made).2.2, fun _ _ other => identity_unique other made⟩

/-- Sites of `a` and of an owner that is itself named like a class of `a`. -/
theorem units_distinct_marked_owner :
    let sites := [some "a", some "a$$Csimple1", none, some "", some "a"].map fun owner =>
      (⟨"x", .value, owner.map Text.ofString, ⟨0, []⟩, .code⟩ : Site)
    (compileAll ⟨[], []⟩ sites).1.map (·.identity) =
      ([("a", "1"), ("a$$Csimple1", "1"), (syntheticOwner, "1"), (syntheticOwner, "2"), ("a", "2")] :
        List (Text × Text)).map (fun x => x.1 ++ identityMarker ++ x.2) ∧
    ((compileAll ⟨[], []⟩ sites).1.map (·.identity)).Nodup ∧
    (∃ name, identity "a$$Csimple1" 1 = .ok name) ∧
    (∀ owner n, identity owner n = .ok "a$$Csimple1$$Csimple1" → owner = "a$$Csimple1" ∧ n = 1) ∧
    classFile "a.b$$Csimple1" ≠ classFile "a$$b.Csimple1" := by
  intro sites
  obtain ⟨names, files, total, unique, read⟩ := units_distinct ⟨[], []⟩ sites
  refine ⟨by decide +kernel, names, total _ 1 (by decide) (by decide), ?_, ?_⟩
  · exact (unique "a$$Csimple1" 1 _ (Fallible.ok_of_toOption (by decide +kernel))).2
  · exact fun same => absurd (read _ _ (by decide) (by decide) same) (by decide)

end RouteScript
