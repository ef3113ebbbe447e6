import RouteScript.Proofs.Project.Idempotence
import RouteScript.Proofs.Text.Encoding

/-!
# The manifest after many runs

Between runs the sources change while the output stays as it is. A run that finds scripts leaves a manifest of its
own units (`run_listedAt`), but a run that finds none leaves the disk alone. So after any history the manifest lists
the units of the latest run that has found a script, which need not be the latest run (`History.manifest_latest`).
-/

namespace RouteScript

/-- The names listed by the manifest at these absolute names, none where it is absent. -/
def Manifest.listedAt (d : Disk) (names : List Text) : List Text :=
  match d.get? names with
  | some (.file bytes) => ((decodeUtf8 bytes).toOption.map namesIn).getD []
  | _ => []

theorem Manifest.listedAt_of_holds {d : Disk} {cwd : List Text} {p : Path} {text : Text}
    (held : Writer.Holds d cwd p text) : listedAt d (p.target cwd) = namesIn text := by
  obtain ⟨bytes, encoded, located⟩ := held
  have present : d.get? (p.target cwd) = some (.file bytes) := (Disk.locate_ok located).2.resolve_left (by simp)
  rw [listedAt, present]
  dsimp only
  rw [decodeUtf8_toUtf8 encoded]
  rfl

/-- The name of a class does not look like a comment or a blank line. -/
theorem listable_of_isQualifiedName {name : Text} (qualified : isQualifiedName name) :
    name ≠ [] ∧ name.head? ≠ some (.char '#') := by
  constructor
  · rintro rfl
    exact absurd qualified (by decide)
  · intro marked
    exact not_mem_of_isQualifiedName qualified (by decide) (by decide) (List.mem_of_mem_head? marked)

namespace Generation

open Run

/-! ### One run -/

/-- A manifest that is written lists the units it is made for. -/
theorem manifestFile_lists (directory : Path) {units : List GeneratedUnit} (filled : units ≠ [])
    (distinct : (units.map (·.identity)).Nodup) (qualified : ∀ u ∈ units, isQualifiedName u.identity) :
    ∃ text, manifestFile directory units = some (directory.join Manifest.file, text) ∧
      (Manifest.namesIn text).Perm (units.map (·.identity)) := by
  have each : ∀ name ∈ units.map (·.identity), isQualifiedName name := by
    intro name member
    obtain ⟨u, present, rfl⟩ := List.mem_map.mp member
    exact qualified u present
  obtain ⟨text, listed, rendered, lists, perm⟩ := Manifest.render_lines (by simpa using filled) distinct
    fun name member => newline_not_mem (each name member)
  have names : Manifest.namesIn text = listed := Manifest.namesIn_of_lists lists fun name member =>
    listable_of_isQualifiedName (each name (perm.mem_iff.mp member))
  exact ⟨text, by rw [manifestFile, rendered]; rfl, names ▸ perm⟩

def manifestNames (a : Account) (directory : Path) : List Text := (directory.join Manifest.file).target a.cwd

section OneRun

variable {a : Account} {s : Settings} {dialects : List Dialect} {d d' : Disk} {records records' : List Record}
  {o : Outcome} (ran : (run ⟨a, none⟩ s dialects false).run.run ⟨d, records⟩ = (.ok o, ⟨d', records'⟩))

include ran

theorem run_resourceDir : ∃ directory, s.outputResourceDir = some directory := by
  rcases run_cases ran with ⟨_, _, failed, _⟩ | ⟨p, planned, _⟩
  · cases failed
  · exact ⟨p.resourceDir, (plan_ok planned).2.1⟩

/-- A run generates one unit for each script that it finds. -/
theorem run_sites : o.units.map (·.site) = o.sites := by
  by_cases empty : o.sites = []
  · rcases run_cases ran with ⟨_, _, failed, _⟩ | ⟨p, planned, done⟩
    · cases failed
    rcases carryOut_cases done with ⟨_, _, nothing⟩ | ⟨written, _, result⟩
    · cases nothing
      rfl
    · obtain ⟨w, _, rfl⟩ := Fallible.map_ok result.symm
      obtain ⟨_, _, c, compiled⟩ := plan_ok planned
      exact (compileAll_units compiled).1
  · obtain ⟨p, _, planned, sites, units, _⟩ := run_ok ran empty
    obtain ⟨_, _, c, compiled⟩ := plan_ok planned
    rw [sites, units]
    exact (compileAll_units compiled).1

theorem run_without_sites (empty : o.sites = []) : d' = d := by
  rcases run_cases ran with ⟨_, _, failed, _⟩ | ⟨p, _, done⟩
  · cases failed
  rcases carryOut_cases done with ⟨_, same, _⟩ | ⟨written, _, result⟩
  · exact same
  · obtain ⟨w, _, rfl⟩ := Fallible.map_ok result.symm
    have planned : p.sites = [] := empty
    rw [carryOut_empty a.cwd false planned] at done
    exact (Prod.mk.inj done).1.symm

/-- After a run that finds a script the manifest lists the units of that run. -/
theorem run_listedAt (filled : o.sites ≠ []) {directory : Path} (resources : s.outputResourceDir = some directory) :
    (Manifest.listedAt d' (manifestNames a directory)).Perm (o.units.map (·.identity)) := by
  have units : o.units ≠ [] := fun none => filled (by rw [← run_sites ran, none]; rfl)
  obtain ⟨p, w, planned, _, same, updated⟩ := run_ok ran filled
  obtain ⟨qualified, apart⟩ := plan_apart planned a.cwd
  obtain ⟨_, resources', c, compiled⟩ := plan_ok planned
  obtain rfl : directory = p.resourceDir := Option.some.inj (resources.symm.trans resources')
  have distinct := (compileAll_distinct c p.sites).1
  rw [compiled] at distinct
  rw [same] at units ⊢
  obtain ⟨text, manifest, names⟩ := manifestFile_lists p.resourceDir units distinct qualified
  have held : Writer.Holds d' a.cwd (p.resourceDir.join Manifest.file) text :=
    (Writer.updateAll_keeps rfl apart updated).1 (p.resourceDir.join Manifest.file, text)
      (List.mem_append_right _ (by simp [manifest]))
  rwa [manifestNames, Manifest.listedAt_of_holds held]

end OneRun

/-! ### Many runs -/

/-- A change of the project that leaves everything in the output directories as it is. -/
def SparesOutput (a : Account) (s : Settings) (d d' : Disk) : Prop :=
  ∀ directory ∈ s.outputDir.toList ++ s.outputResourceDir.toList, ∀ names,
    directory.target a.cwd <+: names → d'.get? names = d.get? names

/-- The disks that edits of the project and successful runs lead to, with the outcomes of the runs, the latest
first. -/
inductive History (a : Account) (s : Settings) (dialects : List Dialect) (first : Disk) : List Outcome → Disk → Prop
  | start : History a s dialects first [] first
  | edit {outcomes : List Outcome} {d d' : Disk} (before : History a s dialects first outcomes d)
      (spared : SparesOutput a s d d') : History a s dialects first outcomes d'
  | run {outcomes : List Outcome} {d d' : Disk} {records records' : List Record} {o : Outcome}
      (before : History a s dialects first outcomes d)
      (ran : (run ⟨a, none⟩ s dialects false).run.run ⟨d, records⟩ = (.ok o, ⟨d', records'⟩)) :
      History a s dialects first (o :: outcomes) d'

theorem SparesOutput.listedAt {a : Account} {s : Settings} {d d' : Disk} (spared : SparesOutput a s d d')
    {directory : Path} (resources : s.outputResourceDir = some directory) :
    Manifest.listedAt d' (manifestNames a directory) = Manifest.listedAt d (manifestNames a directory) := by
  have file : Manifest.file = ⟨0, Manifest.file.names⟩ := by decide +kernel
  have below : directory.target a.cwd <+: manifestNames a directory := by
    rw [manifestNames, file, Path.target_join _ _ (by decide +kernel)]
    exact List.prefix_append _ _
  rw [Manifest.listedAt, Manifest.listedAt, spared directory (by simp [resources]) _ below]

theorem sparesOutput_erase {a : Account} {s : Settings} (d : Disk) {names : List Text}
    (apart : ∀ directory ∈ s.outputDir.toList ++ s.outputResourceDir.toList,
      ¬directory.target a.cwd <+: names ∧ ¬names <+: directory.target a.cwd) : SparesOutput a s d (d.erase names) := by
  intro directory member other below
  refine d.get?_erase fun erased => ?_
  rcases List.prefix_or_prefix_of_prefix below erased with outer | inner
  · exact (apart directory member).1 outer
  · exact (apart directory member).2 inner

/-- The names of the units of the latest run that has found a script, or `old` if there is none. -/
def latestNames (old : List Text) (outcomes : List Outcome) : List Text :=
  (outcomes.find? (·.sites ≠ [])).elim old fun o => o.units.map (·.identity)

theorem latestNames_cons (old : List Text) (o : Outcome) (outcomes : List Outcome) :
    latestNames old (o :: outcomes) =
      if o.sites ≠ [] then o.units.map (·.identity) else latestNames old outcomes := by
  by_cases empty : o.sites = []
  · rw [if_neg (by simpa using empty), latestNames, List.find?_cons_of_neg (by simpa using empty), latestNames]
  · rw [if_pos empty, latestNames, List.find?_cons_of_pos (by simpa using empty)]
    rfl

theorem latestNames_eq_nil {outcomes : List Outcome} (sites : ∀ o ∈ outcomes, o.units.map (·.site) = o.sites)
    (old : List Text) : latestNames old outcomes = [] ↔ old = [] ∧ ∀ o ∈ outcomes, o.sites = [] := by
  induction outcomes with
  | nil => simp [latestNames]
  | cons o outcomes ih =>
    have same := sites o List.mem_cons_self
    have later := ih fun o member => sites o (List.mem_cons_of_mem _ member)
    rw [latestNames_cons, List.forall_mem_cons]
    by_cases empty : o.sites = []
    · rw [if_neg (by simpa using empty), later]
      simp [empty]
    · have units : o.units ≠ [] := fun none => empty (by rw [← same, none]; rfl)
      simp [empty, units]

section Histories

variable {a : Account} {s : Settings} {dialects : List Dialect} {first d : Disk} {outcomes : List Outcome}
  {directory : Path}

theorem History.ran (history : History a s dialects first outcomes d) {o : Outcome} (member : o ∈ outcomes) :
    ∃ before after, (Generation.run ⟨a, none⟩ s dialects false).run.run before = (.ok o, after) := by
  induction history with
  | start => cases member
  | edit _ _ ih => exact ih member
  | run _ ran ih =>
    rcases List.mem_cons.mp member with rfl | member
    · exact ⟨_, _, ran⟩
    · exact ih member

/-- What the manifest lists after a history. -/
theorem History.listedAt_perm (history : History a s dialects first outcomes d)
    (resources : s.outputResourceDir = some directory) :
    (Manifest.listedAt d (manifestNames a directory)).Perm
      (latestNames (Manifest.listedAt first (manifestNames a directory)) outcomes) := by
  induction history with
  | start => exact List.Perm.refl _
  | edit _ spared ih => rwa [spared.listedAt resources]
  | @run _ d d' _ _ o _ ran ih =>
    rw [latestNames_cons]
    by_cases empty : o.sites = []
    · obtain rfl := run_without_sites ran empty
      rwa [if_neg (by simpa using empty)]
    · rw [if_pos empty]
      exact run_listedAt ran empty resources

end Histories

/-- The manifest lists the units of the latest run that has found a script, if one has. -/
theorem History.manifest_latest {a : Account} {s : Settings} {dialects : List Dialect} {first d : Disk}
    {latest : Outcome} {earlier : List Outcome} (history : History a s dialects first (latest :: earlier) d) :
    ∃ directory, s.outputResourceDir = some directory ∧
      (Manifest.listedAt d (manifestNames a directory)).Perm
        (latestNames (Manifest.listedAt first (manifestNames a directory)) (latest :: earlier)) ∧
      ((Manifest.listedAt d (manifestNames a directory)).Perm (latest.units.map (·.identity)) ↔
        latest.sites ≠ [] ∨
          Manifest.listedAt first (manifestNames a directory) = [] ∧ ∀ o ∈ earlier, o.sites = []) := by
  have each : ∀ o ∈ latest :: earlier, o.units.map (·.site) = o.sites := by
    intro o member
    obtain ⟨_, _, ran⟩ := history.ran member
    exact run_sites ran
  obtain ⟨_, _, ran⟩ := history.ran List.mem_cons_self
  obtain ⟨directory, resources⟩ := run_resourceDir ran
  have listed := history.listedAt_perm resources
  refine ⟨directory, resources, listed, ?_⟩
  rw [latestNames_cons] at listed
  by_cases empty : latest.sites = []
  · -- The latest run has no units, so the manifest reflects it only if it lists nothing.
    have units : latest.units = [] := by simpa [empty] using each latest List.mem_cons_self
    rw [if_neg (by simpa using empty)] at listed
    rw [units, List.map_nil, listed.congr_left, List.perm_nil,
      latestNames_eq_nil fun o member => each o (List.mem_cons_of_mem _ member)]
    simp [empty]
  · rw [if_pos empty] at listed
    exact ⟨fun _ => Or.inl empty, fun _ => listed⟩

/-- When the only script is deleted, the next run leaves its class in the manifest. -/
theorem History.manifest_latest_deleted :
    ∃ o o' d, History rootAccount scriptSettings [.document] scriptDisk [o', o] d ∧ o'.units = [] ∧
      Manifest.listedAt d (manifestNames rootAccount (.absolute ["o"])) = [syntheticOwner ++ "$$Csimple1"] ∧
      ¬(Manifest.listedAt d (manifestNames rootAccount (.absolute ["o"]))).Perm (o'.units.map (·.identity)) := by
  have facts : (rootRun scriptSettings scriptDisk).1.toOption.any (fun o => o.sites ≠ [] ∧
        o.units.map (·.identity) = [syntheticOwner ++ "$$Csimple1"]) ∧
      (rootRun scriptSettings ((rootRun scriptSettings scriptDisk).2.disk.erase ["s", "a.xml"])).1.toOption.any
        (fun o => o.sites = [] ∧ o.units = []) := by decide +kernel
  cases ran : rootRun scriptSettings scriptDisk with
  | mk result after =>
    rw [ran] at facts
    cases ran' : rootRun scriptSettings (after.disk.erase ["s", "a.xml"]) with
    | mk result' after' =>
      rw [ran'] at facts
      obtain ⟨o, ended, found⟩ := (Option.any_eq_true _ _).mp facts.1
      obtain ⟨o', ended', nothing⟩ := (Option.any_eq_true _ _).mp facts.2
      obtain rfl : result = .ok o := Fallible.ok_of_toOption ended
      obtain rfl : result' = .ok o' := Fallible.ok_of_toOption ended'
      obtain ⟨filled, names⟩ := of_decide_eq_true found
      obtain ⟨empty, units⟩ := of_decide_eq_true nothing
      have history : History rootAccount scriptSettings [.document] scriptDisk [o', o] after'.disk :=
        ((History.start.run ran).edit (sparesOutput_erase after.disk (by decide +kernel))).run ran'
      obtain ⟨_, resources, listed, reflects⟩ := history.manifest_latest
      cases resources
      refine ⟨o, o', after'.disk, history, units, ?_, ?_⟩
      · rw [latestNames_cons, if_neg (by simpa using empty), latestNames_cons, if_pos filled, names] at listed
        exact List.perm_singleton.mp listed
      · rw [reflects]
        simp [empty, filled]

end Generation

end RouteScript
