import RouteScript.Proofs.Project.RunOutput
import RouteScript.Proofs.Route.SourceOrder

/-!
# All or nothing

A run that fails before it writes leaves the disk as it was. Where it fails at a script, the script is the
first one that cannot be compiled, in the order of the sites. A run that succeeds has a unit for each site,
in the same order (`run_all_or_nothing`).
-/

namespace RouteScript

/-! ### The order of files -/

/-- Java sources come before documents, and the files of a dialect are in the order of their paths. -/
def SourceFile.Precedes (f g : SourceFile) : Prop :=
  (f.dialect = .code ∧ g.dialect = .document) ∨
  (f.dialect = g.dialect ∧ ¬Text.Before g.path.toText f.path.toText)

theorem Scan.inOrder_sorted (files : List SourceFile) :
    (inOrder files).Pairwise fun f g => ¬Text.Before g.path.toText f.path.toText := by
  have sorted : (inOrder files).Pairwise fun f g => Text.le f.path.toText g.path.toText := by
    apply List.pairwise_mergeSort
    · exact fun _ _ _ => Text.le_trans
    · exact fun _ _ => Text.le_total _ _
  exact sorted.imp Text.not_before_of_le

theorem Scan.run_sorted {s : Scan} {d : Disk} {a : Account} {files : List SourceFile}
    (found : (s.run d a).2 = .ok files) :
    files.Pairwise fun f g => ¬Text.Before g.path.toText f.path.toText := by
  unfold Scan.run at found
  split at found
  · cases found
  · split at found
    · cases found
    · cases found
      exact inOrder_sorted _

namespace Generation

open Run

theorem ordered_precedes (dialects : List Dialect) {files : List SourceFile}
    (sorted : files.Pairwise fun f g => ¬Text.Before g.path.toText f.path.toText) :
    (ordered dialects files).Pairwise SourceFile.Precedes := by
  refine List.pairwise_flatMap.mpr ⟨?_, ?_⟩
  · intro dialect _
    refine (sorted.filter _).imp_of_mem ?_
    intro f g member member' before
    have first := of_decide_eq_true (List.mem_filter.mp member).2
    have second := of_decide_eq_true (List.mem_filter.mp member').2
    exact Or.inr ⟨first.trans second.symm, before⟩
  · have both : [Dialect.code, .document].Pairwise fun a b => a = .code ∧ b = .document := by decide
    refine (both.filter _).imp ?_
    rintro _ _ ⟨rfl, rfl⟩ f member g member'
    exact Or.inl ⟨of_decide_eq_true (List.mem_filter.mp member).2, of_decide_eq_true (List.mem_filter.mp member').2⟩

/-! ### The first fatal site -/

theorem unitsOf_fatal {c : Configuration} {sites : List Site} {f : Fatal}
    (failed : unitsOf c sites = .error (.fatal f)) :
    ∃ (earlier : List (Site × Nat)) (n : Nat) (later : List (Site × Nat)),
      numberSites sites = earlier ++ (f.site, n) :: later ∧
      (∀ x ∈ earlier, ∃ u, compile c x.1 x.2 = .ok u) ∧ compile c f.site n = .error (.fatal f) := by
  obtain ⟨done, rest, all, made, ended⟩ := compileNumbered_run c (numberSites sites)
  have fault : (compileNumbered c (numberSites sites)).2 = some (.fatal f) := by
    unfold unitsOf compileAll at failed
    split at failed
    · cases failed
    · rename_i fault compiled
      rw [compiled]
      cases fault with
      | oversizedInteger digits => cases failed
      | fatal g =>
        cases failed
        rfl
  rw [fault] at ended
  cases rest with
  | nil => cases ended
  | cons x later =>
    obtain ⟨_, same, failure⟩ := ended
    cases same
    obtain ⟨site, n⟩ := x
    obtain rfl : f.site = site := compile_fatal failure
    exact ⟨done, n, later, all, fun x member => Fallible.ok_of_mem_mapM made member, failure⟩

/-- No script has been compiled where the configuration or the files cannot be read. -/
theorem discover_not_fatal {a : Account} {s : Settings} {dialects : List Dialect} {path : Path} {d : Disk}
    {f : Fatal} : discover a s dialects path d ≠ .error (.fatal f) := by
  intro failed
  rcases Fallible.bind_error failed with failed | ⟨c, _, failed⟩
  · obtain ⟨_, _, impossible⟩ := Fallible.mapError_error failed
    cases impossible
  rcases Fallible.bind_error failed with failed | ⟨files, _, failed⟩
  · obtain ⟨_, _, impossible⟩ := Fallible.mapError_error failed
    cases impossible
  · cases failed

theorem plan_fatal {a : Account} {s : Settings} {dialects : List Dialect} {d : Disk} {f : Fatal}
    (failed : plan a s dialects d = .error (.fatal f)) :
    ∃ path c files, s.configurationPath = some path ∧ Configuration.load d a.cwd path = .ok c ∧
      ((scanOf s).run d a).2 = .ok files ∧
      unitsOf c ((extractions d a.cwd (ordered dialects files)).flatMap (·.sites)) = .error (.fatal f) := by
  unfold plan at failed
  split at failed
  · rename_i path _ _ configured
    rcases Fallible.bind_error failed with early | ⟨⟨c, found⟩, discovered, failed⟩
    · exact absurd early discover_not_fatal
    · obtain ⟨loaded, files, scanned, rfl⟩ := discover_ok discovered
      rcases Fallible.bind_error failed with failed | ⟨_, _, impossible⟩
      · exact ⟨path, c, files, configured, loaded, scanned, failed⟩
      · cases impossible
  · cases failed
  · cases failed

/-- A run is all or nothing: it has a unit for each site in order, or stops at the first fatal one before it writes. -/
theorem run_all_or_nothing {a : Account} {s : Settings} {dialects : List Dialect} {dryRun : Bool}
    {before after : Progress} {result : Except RunFault Outcome}
    (ran : (run ⟨a, none⟩ s dialects dryRun).run.run before = (result, after)) :
    (∀ fault, result = .error fault → (∀ w, fault ≠ .write w) → after.disk = before.disk) ∧
    (∀ f, result = .error (.fatal f) → ∃ path c files, s.configurationPath = some path ∧
      Configuration.load before.disk a.cwd path = .ok c ∧ ((scanOf s).run before.disk a).2 = .ok files ∧
      (ordered dialects files).Pairwise SourceFile.Precedes ∧
      (∀ x ∈ ordered dialects files, (extract before.disk a.cwd x.dialect x.path).2.sites = [] ∨
        ∃ content, before.disk.read a.cwd x.path = .ok content ∧
          InSourceOrder x.dialect x.path content (extract before.disk a.cwd x.dialect x.path).2.sites) ∧
      ∃ (earlier : List (Site × Nat)) (n : Nat) (later : List (Site × Nat)),
        numberSites ((ordered dialects files).flatMap fun x =>
          (extract before.disk a.cwd x.dialect x.path).2.sites) = earlier ++ (f.site, n) :: later ∧
        (∀ x ∈ earlier, ∃ u, compile c x.1 x.2 = .ok u) ∧ compile c f.site n = .error (.fatal f)) ∧
    ∀ o, result = .ok o → o.sites ≠ [] →
      o.units.map (·.site) = o.sites ∧ o.units.map (·.kind) = o.sites.map (·.kind) := by
  refine ⟨?_, ?_, ?_⟩
  · rintro fault rfl reading
    rcases run_error ran with ⟨_, same⟩ | ⟨w, writing⟩
    · exact same
    · exact absurd writing (reading w)
  · rintro f rfl
    rcases run_error ran with ⟨failed, _⟩ | ⟨w, writing⟩
    · obtain ⟨path, c, files, configured, loaded, scanned, failed⟩ := plan_fatal failed
      rw [extractions, List.flatMap_map] at failed
      exact ⟨path, c, files, configured, loaded, scanned, ordered_precedes dialects (Scan.run_sorted scanned),
        fun x _ => extract_inSourceOrder _ _ _ _, unitsOf_fatal failed⟩
    · cases writing
  · rintro o rfl filled
    obtain ⟨p, _, planned, sameSites, sameUnits, _⟩ := run_ok ran filled
    obtain ⟨_, _, c, compiled⟩ := plan_ok planned
    obtain ⟨sites, each⟩ := compileAll_units compiled
    rw [sameSites, sameUnits]
    refine ⟨sites, ?_⟩
    rw [← sites, List.map_map]
    exact List.map_congr_left fun u member => (each u member).1

/-- A disk with two scripts, of which the second cannot be compiled. -/
def brokenDisk : Disk :=
  ⟨[(["s"], .directory),
    (["s", "a.xml"], .file "<r><csimple>x</csimple><csimple>$\x7b</csimple></r>".toUTF8.toList)]⟩

def brokenRun : Except RunFault Outcome × Progress :=
  (run ⟨⟨[], .absolute [], []⟩, none⟩ scriptSettings [.document] false).run.run ⟨brokenDisk, []⟩

theorem brokenRun_fatal :
    ∃ f after, brokenRun = (.error (.fatal f), after) ∧ f.site.script = "$\x7b" := by
  have facts : (match brokenRun.1 with
      | .error (.fatal f) => some f.site.script
      | _ => none) = some ("$\x7b" : Text) := by decide +kernel
  generalize brokenRun = ran at facts ⊢
  obtain ⟨result, after⟩ := ran
  dsimp only at facts
  split at facts
  · rename_i f
    exact ⟨f, after, rfl, Option.some.inj facts⟩
  · cases facts

/-- The second of the two scripts stops the run, and the disk is as it was. -/
theorem run_all_or_nothing_broken :
    (∃ f after, brokenRun = (.error (.fatal f), after) ∧ f.site.script = "$\x7b" ∧ after.disk = brokenDisk ∧
      ∃ c n, compile c f.site n = .error (.fatal f)) ∧
    ∃ o after, scriptRun = (.ok o, after) ∧ o.sites ≠ [] ∧ o.units.map (·.site) = o.sites := by
  constructor
  · obtain ⟨f, after, ran, script⟩ := brokenRun_fatal
    obtain ⟨unchanged, first, _⟩ := run_all_or_nothing ran
    obtain ⟨_, c, _, _, _, _, _, _, _, n, _, _, _, failed⟩ := first f rfl
    exact ⟨f, after, ran, script, unchanged _ rfl (fun _ => nofun), c, n, failed⟩
  · obtain ⟨o, d', records, ran, filled, _⟩ := scriptRun_ok
    exact ⟨o, ⟨d', records⟩, ran, filled, ((run_all_or_nothing ran).2.2 o rfl filled).1⟩

end Generation

end RouteScript
