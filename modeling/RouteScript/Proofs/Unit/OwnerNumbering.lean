import RouteScript.Proofs.Unit.Compilation

/-!
# Numbers and units of one owner

The numbers that the sites of an owner get depend on these sites alone (`filter_numberFrom`), and so do their units
(`compileNumbered_filter`): sites of other owners may stand between them, be added or be removed
(`owner_numbering_local`).
-/

namespace RouteScript

/-- The sites of an owner, in order. -/
def sitesOwnedBy (owner : Text) (sites : List Site) : List Site := sites.filter fun s => s.effectiveOwner = owner

/-! ### Numbers -/

theorem sitesOwnedBy_concat (owner : Text) (sites : List Site) (s : Site) :
    sitesOwnedBy owner (sites ++ [s]) =
      if s.effectiveOwner = owner then sitesOwnedBy owner sites ++ [s] else sitesOwnedBy owner sites := by
  rw [sitesOwnedBy, List.filter_append]
  split
  · rename_i own
    simp [sitesOwnedBy, own]
  · rename_i other
    simp [sitesOwnedBy, other]

theorem nextNumber_sitesOwnedBy (earlier : List Site) (owner : Text) :
    nextNumber (sitesOwnedBy owner earlier) owner = nextNumber earlier owner := by
  simp [nextNumber, sitesOwnedBy]

theorem filter_numberFrom (owner : Text) (earlier sites : List Site) :
    (numberFrom earlier sites).filter (fun x => x.1.effectiveOwner = owner) =
      numberFrom (sitesOwnedBy owner earlier) (sitesOwnedBy owner sites) := by
  induction sites generalizing earlier with
  | nil => rfl
  | cons s sites ih =>
    have grown := sitesOwnedBy_concat owner earlier s
    rw [numberFrom]
    by_cases own : s.effectiveOwner = owner
    · have first : sitesOwnedBy owner (s :: sites) = s :: sitesOwnedBy owner sites :=
        List.filter_cons_of_pos (by simpa using own)
      rw [if_pos own] at grown
      rw [List.filter_cons_of_pos (by simpa using own), first, numberFrom, ih, grown, own, nextNumber_sitesOwnedBy]
    · have first : sitesOwnedBy owner (s :: sites) = sitesOwnedBy owner sites :=
        List.filter_cons_of_neg (by simpa using own)
      rw [if_neg own] at grown
      rw [List.filter_cons_of_neg (by simpa using own), first, ih, grown]

theorem numberFrom_append (earlier xs ys : List Site) :
    numberFrom earlier (xs ++ ys) = numberFrom earlier xs ++ numberFrom (earlier ++ xs) ys := by
  induction xs generalizing earlier with
  | nil =>
    rw [List.append_nil]
    rfl
  | cons s xs ih => rw [List.cons_append, numberFrom, numberFrom, ih, ← List.append_cons, List.cons_append]

/-- Sites of one owner are counted on from the first number without a gap. -/
theorem numberFrom_eq_zipIdx {owner : Text} {earlier sites : List Site}
    (own : ∀ s ∈ sites, s.effectiveOwner = owner) :
    numberFrom earlier sites = sites.zipIdx (nextNumber earlier owner) := by
  induction sites generalizing earlier with
  | nil => rfl
  | cons s sites ih =>
    have first : s.effectiveOwner = owner := own s List.mem_cons_self
    have next : nextNumber (earlier ++ [s]) owner = nextNumber earlier owner + 1 := by
      simp [nextNumber, first]
    rw [numberFrom, List.zipIdx_cons, ih fun t member => own t (List.mem_cons_of_mem _ member), next, first]

/-! ### Units -/

theorem compileNumbered_cons_ok {c : Configuration} {x : Site × Nat} {xs : List (Site × Nat)}
    {units : List GeneratedUnit} (compiled : compileNumbered c (x :: xs) = (units, none)) :
    ∃ u rest, compile c x.1 x.2 = .ok u ∧ compileNumbered c xs = (rest, none) ∧ units = u :: rest := by
  unfold compileNumbered at compiled
  cases made : compile c x.1 x.2 with
  | error fault =>
    rw [made] at compiled
    cases compiled
  | ok u =>
    rw [made] at compiled
    obtain ⟨rfl, sound⟩ := Prod.mk.inj compiled
    exact ⟨u, (compileNumbered c xs).1, rfl, Prod.ext rfl sound, rfl⟩

/-- The units of numbered sites of an owner are those that they have among the sites of others. -/
theorem compileNumbered_filter {c : Configuration} {xs : List (Site × Nat)} {units : List GeneratedUnit}
    (compiled : compileNumbered c xs = (units, none)) (owner : Text) :
    compileNumbered c (xs.filter fun x => x.1.effectiveOwner = owner) =
      (units.filter fun u => u.site.effectiveOwner = owner, none) := by
  induction xs generalizing units with
  | nil =>
    cases compiled
    rfl
  | cons x xs ih =>
    obtain ⟨u, rest, made, later, rfl⟩ := compileNumbered_cons_ok compiled
    have site : u.site = x.1 := (compile_ok made).2.1
    replace ih := ih later
    by_cases own : x.1.effectiveOwner = owner
    · rw [List.filter_cons_of_pos (by simpa using own), List.filter_cons_of_pos (by simpa [site] using own),
        compileNumbered, made, ih]
    · rw [List.filter_cons_of_neg (by simpa using own), List.filter_cons_of_neg (by simpa [site] using own), ih]

theorem compileAll_sitesOwnedBy {c : Configuration} {sites : List Site} {units : List GeneratedUnit}
    (compiled : compileAll c sites = (units, none)) (owner : Text) :
    compileAll c (sitesOwnedBy owner sites) = (units.filter fun u => u.site.effectiveOwner = owner, none) := by
  have own : numberSites (sitesOwnedBy owner sites) =
      (numberSites sites).filter fun x => x.1.effectiveOwner = owner := (filter_numberFrom owner [] sites).symm
  rw [compileAll, own]
  exact compileNumbered_filter compiled owner

/-- The numbers and the units of an owner do not depend on the sites of other owners. -/
theorem owner_numbering_local (c : Configuration) (owner : Text) (sites : List Site) :
    (numberSites sites).filter (fun x => x.1.effectiveOwner = owner) = numberSites (sitesOwnedBy owner sites) ∧
    numberSites (sitesOwnedBy owner sites) = (sitesOwnedBy owner sites).zipIdx 1 ∧
    (∀ more, numberSites sites <+: numberSites (sites ++ more)) ∧
    ∀ units, compileAll c sites = (units, none) →
      compileAll c (sitesOwnedBy owner sites) = (units.filter fun u => u.site.effectiveOwner = owner, none) ∧
      ∀ others units', sitesOwnedBy owner others = sitesOwnedBy owner sites → compileAll c others = (units', none) →
        (units'.filter fun u => u.site.effectiveOwner = owner) =
          units.filter fun u => u.site.effectiveOwner = owner := by
  refine ⟨filter_numberFrom owner [] sites, ?_, ?_, ?_⟩
  · exact numberFrom_eq_zipIdx fun s member => of_decide_eq_true (List.mem_filter.mp member).2
  · intro more
    exact ⟨numberFrom ([] ++ sites) more, (numberFrom_append [] sites more).symm⟩
  · intro units compiled
    have alone := compileAll_sitesOwnedBy compiled owner
    refine ⟨alone, ?_⟩
    intro others units' same compiled'
    have alone' := compileAll_sitesOwnedBy compiled' owner
    rw [same, alone] at alone'
    exact (congrArg Prod.fst alone').symm

/-- Value scripts `x` of the given owners. -/
def valueSites (owners : List (Option Text)) : List Site :=
  owners.map fun owner => ⟨"x", .value, owner, ⟨0, []⟩, .code⟩

/-- Sites without an owner are numbered together with those of a class that is named like the synthetic owner. -/
theorem owner_numbering_local_synthetic :
    let sites := valueSites [some "a", none, some "a", some syntheticOwner, some ""]
    let others := valueSites [none, some "b", some syntheticOwner, some ""]
    ∃ units units', compileAll ⟨[], []⟩ sites = (units, none) ∧ compileAll ⟨[], []⟩ others = (units', none) ∧
      (units.filter fun u => u.site.effectiveOwner = syntheticOwner).map (·.identity) =
        (["1", "2", "3"] : List Text).map (syntheticOwner ++ identityMarker ++ ·) ∧
      compileAll ⟨[], []⟩ (sitesOwnedBy syntheticOwner sites) =
        (units.filter fun u => u.site.effectiveOwner = syntheticOwner, none) ∧
      (units'.filter fun u => u.site.effectiveOwner = syntheticOwner) =
        units.filter fun u => u.site.effectiveOwner = syntheticOwner := by
  intro sites others
  have facts : (compileAll ⟨[], []⟩ sites).2 = none ∧ (compileAll ⟨[], []⟩ others).2 = none ∧
      ((compileAll ⟨[], []⟩ sites).1.filter fun u => u.site.effectiveOwner = syntheticOwner).map (·.identity) =
        (["1", "2", "3"] : List Text).map (syntheticOwner ++ identityMarker ++ ·) := by decide +kernel
  obtain ⟨sound, sound', names⟩ := facts
  have compiled : compileAll ⟨[], []⟩ sites = ((compileAll ⟨[], []⟩ sites).1, none) := Prod.ext rfl sound
  have compiled' : compileAll ⟨[], []⟩ others = ((compileAll ⟨[], []⟩ others).1, none) := Prod.ext rfl sound'
  obtain ⟨_, _, _, kept⟩ := owner_numbering_local ⟨[], []⟩ syntheticOwner sites
  obtain ⟨alone, same⟩ := kept _ compiled
  exact ⟨_, _, compiled, compiled', names, alone, same others _ (by decide +kernel) compiled'⟩

end RouteScript
