import RouteScript.Proofs.Project.RunOutput
import RouteScript.Proofs.Project.ScanStability

/-!
# Running again

A second run over the disk that a run has left comes to the same outcome and writes nothing (`run_idempotent`), as
long as the first one writes no class below a source root.
-/

namespace RouteScript

/-! ### Reading again -/

theorem Configuration.load_missing {d : Disk} {cwd : List Text} {path : Path}
    (missing : d.inspect cwd path = .ok none) : load d cwd path = .ok ⟨[], []⟩ := by
  rw [load, Disk.exists?, missing]
  rfl

theorem Configuration.load_file {d : Disk} {cwd : List Text} {path : Path} {bytes : Bytes}
    (located : d.locate cwd path = .ok (path.target cwd, some (.file bytes))) :
    load d cwd path = (do
      let text ← (decodeUtf8 bytes).mapError (.undecodable path)
      return .ofText (Text.unifyNewlines text)) := by
  rw [load, Disk.exists?, Disk.inspect_eq_some_iff.mpr located, Disk.read_of_locate located]
  rfl

theorem Configuration.load_directory {d : Disk} {cwd : List Text} {path : Path} {c : Configuration}
    (located : d.locate cwd path = .ok (path.target cwd, some .directory)) : load d cwd path ≠ .ok c := by
  intro loaded
  rw [load, Disk.exists?, Disk.inspect_eq_some_iff.mpr located, Disk.read, located] at loaded
  cases loaded

/-- The configuration is read as before the change, unless a directory was made in its place. -/
theorem Configuration.load_of_keeps {targets : List (List Text)} {d d' : Disk} (change : Disk.Keeps targets d d')
    (tree : d.IsTree) {cwd front : List Text} {path : Path} {name : Text} {c : Configuration}
    (names : path.names = front ++ [name]) (proper : name ≠ "..") (absent : path.target cwd ∉ targets)
    (smooth : d.Smooth d' (path.steps cwd))
    (spared : ¬d.Creates d' (path.target cwd)) (loaded : load d cwd path = .ok c) : load d' cwd path = .ok c := by
  cases inspected : d.inspect cwd path with
  | error fault =>
    rw [load, Disk.exists?, inspected] at loaded
    cases loaded
  | ok found =>
    obtain ⟨found', inspected', _, old⟩ := change.inspect tree smooth inspected
    cases found with
    | none =>
      -- An entry that is found now is none of the old ones, nor a target, nor a directory made there.
      have missing : found' = none := by
        cases found' with
        | none => rfl
        | some e =>
          have located := Disk.inspect_eq_some_iff.mp inspected'
          obtain ⟨_, _, followed⟩ := Fallible.bind_ok located
          rw [names] at followed
          have now : d'.get? (path.target cwd) = some e := Disk.follow_concat proper (Fallible.mapError_ok followed)
          have before : d.get? (path.target cwd) = some e := by
            cases e with
            | file content => exact (change.files _ absent content).mp now
            | directory =>
              by_contra missing
              exact spared ⟨missing, now⟩
          cases old e rfl before
      rw [missing] at inspected'
      rw [← loaded, load_missing inspected, load_missing inspected']
    | some e =>
      have located := Disk.inspect_eq_some_iff.mp inspected
      cases e with
      | directory => exact absurd loaded (load_directory located)
      | file bytes =>
        rw [load_file located] at loaded
        rw [load_file (change.locate located absent), loaded]

theorem extract_of_read {d d' : Disk} {cwd : List Text} {path : Path} (same : d'.read cwd path = d.read cwd path)
    (dialect : Dialect) : extract d' cwd dialect path = extract d cwd dialect path := by
  rw [extract, extract, sitesIn, sitesIn, same]

/-! ### Writing again -/

theorem Writer.updateAll_of_holds {d : Disk} {cwd : List Text} {files : List (Path × Text)}
    (held : ∀ x ∈ files, Holds d cwd x.1 x.2) (w : Writer) : w.updateAll d cwd files = (d, .ok w) := by
  induction files with
  | nil => rfl
  | cons x files ih =>
    obtain ⟨p, text⟩ := x
    obtain ⟨bytes, encoded, located⟩ := held (p, text) List.mem_cons_self
    have holding : holds d cwd p bytes = .ok true := by
      rw [holds, Disk.inspect_eq_some_iff.mpr located]
      simp [bind, Except.bind, pure, Except.pure]
    rw [updateAll, update, encoded]
    simp only [holding]
    exact ih fun x member => held x (List.mem_cons_of_mem _ member)

namespace Generation

open Run

/-- The source roots of a run, with the home directories in place. -/
def sourceRoots (a : Account) (s : Settings) : List Path :=
  (scanOf s).allRoots.filterMap fun root => (a.expandHome (.ofText root)).toOption

/-- No class of the units is written below a source root. -/
def WritesOutside (a : Account) (s : Settings) (units : List GeneratedUnit) : Prop :=
  ∀ root ∈ sourceRoots a s, ∀ directory ∈ s.outputDir.toList, ∀ u ∈ units,
    ¬root.target a.cwd <+: (directory.join u.file).target a.cwd

instance (a : Account) (s : Settings) (units : List GeneratedUnit) : Decidable (WritesOutside a s units) :=
  inferInstanceAs (Decidable (∀ root ∈ _, ∀ directory ∈ _, ∀ u ∈ _, _))

/-- The last name of each file of a plan. -/
theorem files_last {cwd : List Text} {p : Plan} (qualified : ∀ u ∈ p.units, isQualifiedName u.identity)
    {target : List Text} (targeted : target ∈ p.files.map fun x => x.1.target cwd) :
    (∃ u ∈ p.units, target = (p.outputDir.join u.file).target cwd ∧
      ∃ stem : Text, target.getLast? = some (stem ++ (".java" : Text))) ∨
      target.getLast? = some ("csimple.properties" : Text) := by
  obtain ⟨x, member, rfl⟩ := List.mem_map.mp targeted
  rcases List.mem_append.mp member with unit | manifest
  · obtain ⟨u, present, rfl⟩ := List.mem_map.mp unit
    obtain ⟨front, last, file, plain⟩ := classFile_names (qualified u present)
    refine Or.inl ⟨u, present, rfl, last, ?_⟩
    rw [GeneratedUnit.file, file, Path.target_join _ _ plain, ← List.append_assoc, List.getLast?_concat]
  · obtain ⟨text, _, rfl⟩ := Option.map_eq_some_iff.mp (Option.mem_toList.mp manifest)
    have manifest : Manifest.file =
        ⟨0, (["META-INF", "services", "org", "apache", "camel"] : List Text) ++ [("csimple.properties" : Text)]⟩ := by
      decide +kernel
    rw [manifest, Path.target_join _ _ (by decide), ← List.append_assoc, List.getLast?_concat]
    exact Or.inr rfl

/-- The manifest and the classes are no sources below a root that has no class below it. -/
theorem files_noSource {cwd root : List Text} {p : Plan} (qualified : ∀ u ∈ p.units, isQualifiedName u.identity)
    (apart : ∀ u ∈ p.units, ¬root <+: (p.outputDir.join u.file).target cwd) {names : List Text}
    (target : root ++ names ∈ p.files.map fun x => x.1.target cwd) : Scan.sourceAt root names = none := by
  refine Scan.sourceAt_eq_none ?_
  rcases files_last qualified target with ⟨u, present, same, _⟩ | last
  · exact absurd ⟨names, same⟩ (apart u present)
  · cases ends : names.getLast? with
    | none => decide
    | some name =>
      rw [List.getLast?_append, ends, Option.some_or] at last
      rw [Option.some.inj last]
      decide

theorem configurationPath_last {s : Settings} {path : Path} (configured : s.configurationPath = some path)
    (cwd : List Text) :
    ∃ front, path.names = front ++ [("camel-csimple.properties" : Text)] ∧
      (path.target cwd).getLast? = some ("camel-csimple.properties" : Text) := by
  obtain ⟨directory, _, rfl⟩ := Option.map_eq_some_iff.mp configured
  have file : Path.ofText "camel-csimple.properties" = ⟨0, [("camel-csimple.properties" : Text)]⟩ := by
    decide +kernel
  rw [Path.child, file]
  refine ⟨directory.names, rfl, ?_⟩
  rw [Path.target_join _ _ (by decide), List.getLast?_concat]

theorem configuration_not_written {cwd : List Text} {p : Plan} (qualified : ∀ u ∈ p.units, isQualifiedName u.identity)
    {target : List Text} (last : target.getLast? = some ("camel-csimple.properties" : Text)) :
    target ∉ p.files.map fun x => x.1.target cwd := by
  intro member
  rcases files_last qualified member with ⟨_, _, _, stem, java⟩ | manifest
  · rw [last] at java
    have ended := congrArg List.getLast? (Option.some.inj java)
    simp [Text.ofString] at ended
  · rw [last] at manifest
    exact absurd (Option.some.inj manifest) (by decide)

section Again

variable {a : Account} {s : Settings} {d d' : Disk} {p : Plan}
  (change : Disk.Changes (p.files.map fun x => x.1.target a.cwd) d d')
  (tree : d.IsTree) (working : d.get? a.cwd = some .directory)
  (qualified : ∀ u ∈ p.units, isQualifiedName u.identity)
  (apart : ∀ root ∈ sourceRoots a s, ∀ u ∈ p.units, ¬root.target a.cwd <+: (p.outputDir.join u.file).target a.cwd)

include change tree working qualified apart

theorem scan_of_changes {files : List SourceFile}
    (smooth : ∀ root ∈ sourceRoots a s, d.Smooth d' (root.steps a.cwd))
    (scanned : ((scanOf s).run d a).2 = .ok files) : ((scanOf s).run d' a).2 = .ok files := by
  have plain : (".." : Text) ∉ a.cwd := tree.plain (by simp [working])
  refine Scan.run_of_rootSources ?_ scanned
  intro root member path sources expanded found
  have known : path ∈ sourceRoots a s := List.mem_filterMap.mpr ⟨root, member, by rw [expanded]; rfl⟩
  exact Scan.rootSources_of_changes change tree plain (smooth path known)
    (fun names => files_noSource qualified (apart path known)) found

/-- The files of a scan are read as before, since none of them is written. -/
theorem extractions_of_changes {files : List SourceFile} (scanned : ((scanOf s).run d a).2 = .ok files)
    (dialects : List Dialect) :
    extractions d' a.cwd (ordered dialects files) = extractions d a.cwd (ordered dialects files) := by
  have plain : (".." : Text) ∉ a.cwd := tree.plain (by simp [working])
  refine List.map_congr_left fun file member => ?_
  obtain ⟨dialect, _, member⟩ := List.mem_flatMap.mp member
  obtain ⟨root, listed, path, sources, expanded, found, present⟩ :=
    Scan.mem_run scanned (List.mem_filter.mp member).1
  have known : path ∈ sourceRoots a s := List.mem_filterMap.mpr ⟨root, listed, by rw [expanded]; rfl⟩
  obtain ⟨names, content, entry, source⟩ := Scan.mem_sourcesBelow (Scan.mem_rootSources plain found present)
  have absent : path.target a.cwd ++ names ∉ p.files.map fun x => x.1.target a.cwd := by
    intro target
    rw [files_noSource qualified (apart path known) target] at source
    cases source
  have read := change.keeps.read_eq tree a.cwd (Disk.get?_of_mem_entries entry) absent
  rw [← Scan.sourceAt_path source] at read
  rw [extract_of_read read]

/-- After a change that only writes the files of its plan, a run has the same plan. -/
theorem plan_of_changes {dialects : List Dialect}
    (smooth : ∀ path ∈ sourceRoots a s ++ s.configurationPath.toList, d.Smooth d' (path.steps a.cwd))
    (spared : ∀ path ∈ s.configurationPath, ¬d.Creates d' (path.target a.cwd))
    (planned : plan a s dialects d = .ok p) : plan a s dialects d' = .ok p := by
  unfold plan at planned ⊢
  split at planned
  · rename_i outputDir resourceDir path output resources configured
    obtain ⟨⟨c, found⟩, discovered, rest⟩ := Fallible.bind_ok planned
    obtain ⟨loaded, files, scanned, rfl⟩ := discover_ok discovered
    have scanned' := scan_of_changes change tree working qualified apart
      (fun root member => smooth root (List.mem_append_left _ member)) scanned
    have extracted := extractions_of_changes change tree working qualified apart scanned dialects
    have loaded' : Configuration.load d' a.cwd path = .ok c := by
      obtain ⟨front, names, last⟩ := configurationPath_last configured a.cwd
      refine Configuration.load_of_keeps change.keeps tree names (by decide) ?_ ?_ ?_ loaded
      · exact configuration_not_written qualified last
      · exact smooth _ (List.mem_append_right _ (by rw [configured]; simp))
      · exact spared _ configured
    have discovered' : discover a s dialects path d' =
        .ok (c, extractions d a.cwd (ordered dialects files)) := by
      rw [discover, loaded', scanned', ← extracted]
      rfl
    rw [discovered']
    exact rest
  · cases planned
  · cases planned

end Again

/-- A second run comes to the same outcome, writes nothing and leaves the disk as it is. -/
theorem run_idempotent {a : Account} {s : Settings} {dialects : List Dialect} {d d' : Disk}
    {records records' : List Record} {o : Outcome}
    (ran : (run ⟨a, none⟩ s dialects false).run.run ⟨d, records⟩ = (.ok o, ⟨d', records'⟩))
    (tree : d.IsTree) (working : d.get? a.cwd = some .directory) (outside : WritesOutside a s o.units)
    (smooth : ∀ path ∈ sourceRoots a s ++ s.configurationPath.toList, d.Smooth d' (path.steps a.cwd))
    (spared : ∀ path ∈ s.configurationPath, ¬d.Creates d' (path.target a.cwd))
    (dryRun : Bool) (again : List Record) :
    ∃ again', (run ⟨a, none⟩ s dialects dryRun).run.run ⟨d', again⟩ =
      (.ok { o with written := [], dryRun := dryRun }, ⟨d', again'⟩) := by
  rcases run_cases ran with ⟨_, _, failed, _⟩ | ⟨p, planned, done⟩
  · cases failed
  by_cases empty : p.sites = []
  · rw [carryOut_empty a.cwd false empty] at done
    cases done
    exact run_of_plan planned (carryOut_empty a.cwd dryRun empty d) again
  rcases carryOut_cases done with ⟨none, _⟩ | ⟨written, updated, result⟩
  · exact absurd none empty
  obtain ⟨w, sound, rfl⟩ := Fallible.map_ok result.symm
  obtain rfl := Fallible.mapError_ok sound
  obtain ⟨qualified, apart⟩ := plan_apart planned a.cwd
  obtain ⟨output, _⟩ := plan_ok planned
  obtain ⟨held, change⟩ := Writer.updateAll_changes rfl apart updated
  have planned' := plan_of_changes change tree working qualified
    (fun root member => outside root member p.outputDir (by simp [output])) smooth spared planned
  exact run_of_plan planned' (carryOut_updated empty (Writer.updateAll_of_holds held (.new dryRun))) again

def rootAccount : Account := ⟨[], .absolute [], []⟩

/-- The run of the documents below the source roots. -/
def rootRun (s : Settings) (d : Disk) : Except RunFault Outcome × Progress :=
  (run ⟨rootAccount, none⟩ s [.document] false).run.run ⟨d, []⟩

/-- Settings with the directory of the manifest among the source roots. -/
def nestedSettings : Settings :=
  { scriptSettings with
    sourceRoots := ["/s", "/o/r"], outputDir := some (.absolute ["o", "c"])
    outputResourceDir := some (.absolute ["o", "r"]) }

/-- The second run finds a source root that the first one has made, with no source below it. -/
theorem run_idempotent_nested :
    ∃ o d' records records', rootRun nestedSettings scriptDisk = (.ok o, ⟨d', records⟩) ∧ o.written.length = 2 ∧
      scriptDisk.Creates d' ["o", "r"] ∧
      rootRun nestedSettings d' = (.ok { o with written := [], dryRun := false }, ⟨d', records'⟩) := by
  have facts : (rootRun nestedSettings scriptDisk).1.toOption.any (fun o => o.written.length = 2 ∧
        WritesOutside rootAccount nestedSettings o.units) ∧
      scriptDisk.Creates (rootRun nestedSettings scriptDisk).2.disk ["o", "r"] ∧
      (∀ path ∈ sourceRoots rootAccount nestedSettings ++ nestedSettings.configurationPath.toList,
        scriptDisk.Smooth (rootRun nestedSettings scriptDisk).2.disk (path.steps [])) ∧
      ∀ path ∈ nestedSettings.configurationPath.toList,
        ¬scriptDisk.Creates (rootRun nestedSettings scriptDisk).2.disk (path.target []) := by decide +kernel
  cases ran : rootRun nestedSettings scriptDisk with
  | mk result after =>
    rw [ran] at facts
    obtain ⟨ended, made, smooth, spared⟩ := facts
    obtain ⟨o, ended, facts⟩ := (Option.any_eq_true _ _).mp ended
    obtain rfl : result = .ok o := Fallible.ok_of_toOption ended
    obtain ⟨listed, outside⟩ := of_decide_eq_true facts
    obtain ⟨records', again⟩ := run_idempotent ran (by decide) rfl outside smooth
      (fun path member => spared path (Option.mem_toList.mpr member)) false []
    exact ⟨o, after.disk, after.records, records', rfl, listed, made, again⟩

/-- A run over the disk succeeds and writes no class below a source root, but the run after it fails. -/
def FailsAgain (d : Disk) (s : Settings) : Prop :=
  d.IsTree ∧ ∃ o fault, (rootRun s d).1 = .ok o ∧ WritesOutside rootAccount s o.units ∧
    (rootRun s (rootRun s d).2.disk).1 = .error fault

theorem failsAgain_iff {d : Disk} {s : Settings} :
    FailsAgain d s ↔ d.IsTree ∧ (rootRun s d).1.toOption.any (fun o => WritesOutside rootAccount s o.units) ∧
      (rootRun s (rootRun s d).2.disk).1.toOption.isNone := by
  constructor
  · rintro ⟨tree, o, fault, first, outside, second⟩
    exact ⟨tree, by simp [first, Except.toOption, outside], by rw [second]; rfl⟩
  · rintro ⟨tree, first, second⟩
    obtain ⟨o, ended, outside⟩ := (Option.any_eq_true _ _).mp first
    cases again : (rootRun s (rootRun s d).2.disk).1 with
    | ok o' =>
      rw [again] at second
      cases second
    | error fault => exact ⟨tree, o, fault, Fallible.ok_of_toOption ended, of_decide_eq_true outside, again⟩

instance (d : Disk) (s : Settings) : Decidable (FailsAgain d s) := decidable_of_iff _ failsAgain_iff.symm

/-- A disk with a configuration file that is not text. -/
def turnedDisk : Disk :=
  ⟨[(["s"], .directory), (["s", "a.xml"], .file scriptDocument), (["c"], .directory),
    (["c", "camel-csimple.properties"], .file [255])]⟩

/-- The path of the configuration file turns back from the output directory. -/
def turnedSettings : Settings := { scriptSettings with resourceDir := some (.absolute ["o", "..", "c"]) }

/-- The output directory stands in place of the configuration file. -/
def coveredSettings : Settings :=
  { scriptSettings with
    resourceDir := some (.absolute ["c"]), outputDir := some (.absolute ["c", "camel-csimple.properties"]) }

/-- A source root goes on from the output directory by a name too long. -/
def overlongSettings : Settings :=
  { scriptSettings with sourceRoots := ["/s", ("/o/" : Text) ++ List.replicate 256 (.char 'n')] }

/-- A run can change what its own paths lead to. -/
theorem selfAffecting_failsAgain :
    FailsAgain turnedDisk turnedSettings ∧ FailsAgain scriptDisk coveredSettings ∧
      FailsAgain scriptDisk overlongSettings := by
  decide +kernel

end Generation

end RouteScript
