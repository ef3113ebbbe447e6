import RouteScript.Proofs.Output.WritingAfresh
import RouteScript.Proofs.Project.Idempotence
import RouteScript.Proofs.Project.ScanRemoval
import RouteScript.Proofs.Route.SourceOrder

/-!
# Files that fail

A source file from which nothing can be extracted gives a warning and nothing else. A run comes to the same sites,
units and manifest as a run over the disk without these files (`run_isolates_failures`).
-/

namespace RouteScript

def SourceFile.fails (d : Disk) (cwd : List Text) (f : SourceFile) : Bool :=
  (sitesIn d cwd f.dialect f.path).toOption.isNone

theorem SourceFile.fails_of_error {d : Disk} {cwd : List Text} {f : SourceFile} {reason : Text}
    (failed : sitesIn d cwd f.dialect f.path = .error reason) : f.fails d cwd = true := by
  rw [fails, failed]
  rfl

theorem SourceFile.fails_of_ok {d : Disk} {cwd : List Text} {f : SourceFile} {sites : List Site}
    (found : sitesIn d cwd f.dialect f.path = .ok sites) : f.fails d cwd = false := by
  rw [fails, found]
  rfl

theorem extract_of_error {d : Disk} {cwd : List Text} {dialect : Dialect} {path : Path} {reason : Text}
    (failed : sitesIn d cwd dialect path = .error reason) :
    (extract d cwd dialect path).2 = ⟨path, [], some reason⟩ := by
  rw [extract, failed]

theorem extract_of_ok {d : Disk} {cwd : List Text} {dialect : Dialect} {path : Path} {sites : List Site}
    (found : sitesIn d cwd dialect path = .ok sites) : (extract d cwd dialect path).2 = ⟨path, sites, none⟩ := by
  rw [extract, found]

/-- The configuration is read as before where it is not among the missing files. -/
theorem Configuration.load_of_lacks {targets : List (List Text)} {d d' : Disk} (lacks : Disk.Lacks targets d d')
    {cwd : List Text} {path : Path} (absent : path.target cwd ∉ targets) : load d' cwd path = load d cwd path := by
  have same := lacks.inspect_of_not_mem absent
  rw [load, load, Disk.exists?, Disk.exists?, same]
  cases inspected : d.inspect cwd path with
  | error fault => rfl
  | ok found =>
    cases found with
    | none => rfl
    | some e =>
      rw [inspected] at same
      have read : d'.read cwd path = d.read cwd path := by
        rw [Disk.read, Disk.read, Disk.inspect_eq_some_iff.mp inspected, Disk.inspect_eq_some_iff.mp same]
      rw [read]

namespace Scan

/-- What a scan finds is a file of the disk, and its name says which dialect it is in. -/
theorem mem_run_entry {s : Scan} {d : Disk} {a : Account} {files : List SourceFile} (plain : (".." : Text) ∉ a.cwd)
    (distinct : (d.entries.map Prod.fst).Nodup) (scanned : (s.run d a).2 = .ok files) {f : SourceFile}
    (member : f ∈ files) :
    f.path = .absolute f.path.names ∧ (∃ content, d.get? f.path.names = some (.file content)) ∧
      Dialect.ofFileName? (f.path.names.getLast?.getD []) = some f.dialect := by
  obtain ⟨_, _, path, sources, _, found, present⟩ := mem_run scanned member
  obtain ⟨names, content, entry, source⟩ := mem_sourcesBelow (mem_rootSources plain found present)
  have proper : names ≠ [] := by
    rintro rfl
    rw [sourceAt_eq_none (by decide)] at source
    cases source
  have dialect : Dialect.ofFileName? (names.getLast?.getD []) = some f.dialect := by
    unfold sourceAt at source
    split at source
    · cases source
    · obtain ⟨dialect, known, rfl⟩ := Option.map_eq_some_iff.mp source
      exact known
  have last : (path.target a.cwd ++ names).getLast? = names.getLast? := by
    rw [List.getLast?_append, List.getLast?_eq_some_getLast proper, Option.some_or]
  have below : f.path.names = path.target a.cwd ++ names := congrArg Path.names (sourceAt_path source)
  rw [below]
  refine ⟨sourceAt_path source, ⟨content, Disk.get?_eq_of_mem_entries distinct (by simp [proper]) entry⟩, ?_⟩
  rwa [last]

theorem run_of_walk {s : Scan} {d : Disk} {a : Account} {f : Filter} {p : Progress} (filtered : s.filter = .ok f)
    (walked : s.walk d a f s.allRoots ⟨[], [], []⟩ = (p, none)) : (s.run d a).2 = .ok (inOrder p.found) := by
  rw [run, filtered]
  simp only [walked]

end Scan

namespace Generation

open Run

/-- The files of the wanted dialects from which nothing can be extracted, Java sources first. -/
def failing (d : Disk) (cwd : List Text) (dialects : List Dialect) (files : List SourceFile) : List SourceFile :=
  let failed := files.filter fun f => dialects.contains f.dialect && f.fails d cwd
  Scan.ofDialect .code failed ++ Scan.ofDialect .document failed

theorem ofDialect_wanted (dialects : List Dialect) (files : List SourceFile) (dialect : Dialect) :
    Scan.ofDialect dialect (files.filter (dialects.contains ·.dialect)) =
      if dialects.contains dialect then Scan.ofDialect dialect files else [] := by
  rw [Scan.ofDialect, Scan.ofDialect, List.filter_filter]
  split
  · rename_i wanted
    refine List.filter_congr fun f _ => ?_
    by_cases same : f.dialect = dialect
    · simp [same, List.contains_iff_mem.mp wanted]
    · simp [same]
  · rename_i unwanted
    refine List.filter_eq_nil_iff.mpr fun f _ selected => unwanted ?_
    simp only [Bool.and_eq_true, decide_eq_true_eq] at selected
    exact selected.1 ▸ selected.2

theorem ordered_eq (dialects : List Dialect) (files : List SourceFile) :
    ordered dialects files =
      Scan.ofDialect .code (files.filter (dialects.contains ·.dialect)) ++
        Scan.ofDialect .document (files.filter (dialects.contains ·.dialect)) := by
  rw [ofDialect_wanted, ofDialect_wanted, ordered]
  by_cases code : dialects.contains .code <;> by_cases document : dialects.contains .document <;>
    simp only [List.filter_cons, List.filter_nil, code, document, if_true, if_false, List.flatMap_cons,
      List.flatMap_nil, List.append_nil, List.nil_append, Bool.false_eq_true]

theorem ordered_filter (dialects : List Dialect) (files : List SourceFile) (p : SourceFile → Bool) :
    ordered dialects (files.filter p) = (ordered dialects files).filter p := by
  rw [ordered, ordered, List.filter_flatMap]
  refine congrArg (List.flatMap · _) (funext fun dialect => ?_)
  rw [Scan.ofDialect, Scan.ofDialect, List.filter_filter, List.filter_filter]
  exact List.filter_congr fun f _ => Bool.and_comm _ _

theorem failing_eq (d : Disk) (cwd : List Text) (dialects : List Dialect) (files : List SourceFile) :
    failing d cwd dialects files = (ordered dialects files).filter (·.fails d cwd) := by
  rw [← ordered_filter, ordered_eq, List.filter_filter]
  rfl

/-! ### Extraction -/

/-- A file that fails contributes no sites. -/
theorem sites_extractions (d : Disk) (cwd : List Text) (files : List SourceFile) :
    (extractions d cwd (files.filter (!·.fails d cwd))).flatMap (·.sites) =
      (extractions d cwd files).flatMap (·.sites) := by
  induction files with
  | nil => rfl
  | cons f files ih =>
    rw [extractions, extractions] at ih ⊢
    cases result : sitesIn d cwd f.dialect f.path with
    | error reason =>
      rw [List.filter_cons_of_neg (by simp [f.fails_of_error result]), ih, List.map_cons, List.flatMap_cons,
        extract_of_error result]
      rfl
    | ok sites =>
      rw [List.filter_cons_of_pos (by simp [f.fails_of_ok result]), List.map_cons, List.map_cons, List.flatMap_cons,
        List.flatMap_cons, ih]

/-- Each file that fails gives one warning, which has the reason. -/
theorem warningsOf_extractions (d : Disk) (cwd : List Text) (files : List SourceFile) :
    List.Forall₂ (fun f warning => warning.1 = f.path ∧ sitesIn d cwd f.dialect f.path = .error warning.2)
      (files.filter (·.fails d cwd)) (warningsOf (extractions d cwd files)) := by
  induction files with
  | nil => exact .nil
  | cons f files ih =>
    rw [extractions, warningsOf] at ih ⊢
    cases result : sitesIn d cwd f.dialect f.path with
    | error reason =>
      rw [List.filter_cons_of_pos (f.fails_of_error result), List.map_cons, extract_of_error result]
      exact .cons ⟨rfl, result⟩ ih
    | ok sites =>
      rw [List.filter_cons_of_neg (by simp [f.fails_of_ok result]), List.map_cons, extract_of_ok result]
      exact ih

theorem warningsOf_sound (d : Disk) (cwd : List Text) (files : List SourceFile) :
    warningsOf (extractions d cwd (files.filter (!·.fails d cwd))) = [] := by
  have each := warningsOf_extractions d cwd (files.filter (!·.fails d cwd))
  rw [List.filter_filter, List.filter_eq_nil_iff.mpr (by simp)] at each
  generalize warningsOf (extractions d cwd (files.filter (!·.fails d cwd))) = warnings at each
  cases each
  rfl

theorem fails_of_mem_warningsOf {d : Disk} {cwd : List Text} {files : List SourceFile} {warning : Path × Text}
    (warned : warning ∈ warningsOf (extractions d cwd files)) : ∃ f ∈ files, f.fails d cwd ∧ warning.1 = f.path := by
  obtain ⟨_, extracted, reasoned⟩ := List.mem_filterMap.mp warned
  obtain ⟨f, member, rfl⟩ := List.mem_map.mp extracted
  cases result : sitesIn d cwd f.dialect f.path with
  | error reason =>
    rw [extract_of_error result] at reasoned
    cases reasoned
    exact ⟨f, member, f.fails_of_error result, rfl⟩
  | ok sites =>
    rw [extract_of_ok result] at reasoned
    cases reasoned

/-! ### Without the files that fail -/

/-- The disk without the files that fail. -/
def withoutFailing (d : Disk) (cwd : List Text) (dialects : List Dialect) (files : List SourceFile) : Disk :=
  d.without ((failing d cwd dialects files).map (·.path.names))

theorem mem_ordered {dialects : List Dialect} {files : List SourceFile} {f : SourceFile} :
    f ∈ ordered dialects files ↔ f ∈ files ∧ dialects.contains f.dialect := by
  have known : f.dialect ∈ [Dialect.code, .document] := by cases f.dialect <;> decide
  simp only [ordered, Scan.ofDialect, List.mem_flatMap, List.mem_filter, decide_eq_true_eq]
  constructor
  · rintro ⟨_, ⟨_, wanted⟩, member, rfl⟩
    exact ⟨member, wanted⟩
  · rintro ⟨member, wanted⟩
    exact ⟨f.dialect, ⟨known, wanted⟩, member, rfl⟩

theorem mem_failing {d : Disk} {cwd : List Text} {dialects : List Dialect} {files : List SourceFile} {f : SourceFile} :
    f ∈ failing d cwd dialects files ↔ f ∈ files ∧ dialects.contains f.dialect ∧ f.fails d cwd := by
  rw [failing_eq, List.mem_filter, mem_ordered, and_assoc]

section Absent

variable {a : Account} {s : Settings} {d : Disk} {files : List SourceFile}
  (tree : d.IsTree) (distinct : (d.entries.map Prod.fst).Nodup) (working : d.get? a.cwd = some .directory)
  (scanned : ((scanOf s).run d a).2 = .ok files) (dialects : List Dialect)

include tree distinct working scanned

theorem scanned_entry {f : SourceFile} (member : f ∈ files) :
    f.path = .absolute f.path.names ∧ (∃ content, d.get? f.path.names = some (.file content)) ∧
      Dialect.ofFileName? (f.path.names.getLast?.getD []) = some f.dialect :=
  Scan.mem_run_entry (tree.plain (by simp [working])) distinct scanned member

theorem withoutFailing_lacks :
    Disk.Lacks ((failing d a.cwd dialects files).map (·.path.names)) d (withoutFailing d a.cwd dialects files) := by
  refine Disk.without_lacks fun names member => ?_
  obtain ⟨f, failed, rfl⟩ := List.mem_map.mp member
  exact (scanned_entry tree distinct working scanned (mem_failing.mp failed).1).2.1

/-- Files of one path are of one dialect, so that they all fail or none of them does. -/
theorem fails_iff {f : SourceFile} (member : f ∈ files) (wanted : dialects.contains f.dialect) :
    f.path.names ∈ (failing d a.cwd dialects files).map (·.path.names) ↔ f.fails d a.cwd := by
  constructor
  · intro target
    obtain ⟨g, failed, same⟩ := List.mem_map.mp target
    obtain ⟨found, _, failed⟩ := mem_failing.mp failed
    obtain ⟨path, _, dialect⟩ := scanned_entry tree distinct working scanned member
    obtain ⟨path', _, dialect'⟩ := scanned_entry tree distinct working scanned found
    rw [same] at path' dialect'
    rw [SourceFile.fails, path'.trans path.symm, Option.some.inj (dialect'.symm.trans dialect)] at failed
    exact failed
  · intro failed
    exact List.mem_map.mpr ⟨f, mem_failing.mpr ⟨member, wanted, failed⟩, rfl⟩

theorem ordered_remaining :
    ordered dialects (Scan.remaining ((failing d a.cwd dialects files).map (·.path.names)) files) =
      (ordered dialects files).filter (!·.fails d a.cwd) := by
  rw [Scan.remaining, ordered_filter]
  refine List.filter_congr fun f member => ?_
  obtain ⟨present, wanted⟩ := mem_ordered.mp member
  have iff := fails_iff tree distinct working scanned dialects present wanted
  by_cases failed : f.fails d a.cwd
  · simp [failed, iff.mpr failed]
  · simp [failed, mt iff.mp failed]

theorem extractions_withoutFailing :
    extractions (withoutFailing d a.cwd dialects files) a.cwd ((ordered dialects files).filter (!·.fails d a.cwd)) =
      extractions d a.cwd ((ordered dialects files).filter (!·.fails d a.cwd)) := by
  have lacks := withoutFailing_lacks tree distinct working scanned dialects
  refine List.map_congr_left fun f member => ?_
  obtain ⟨member, sound⟩ := List.mem_filter.mp member
  obtain ⟨present, wanted⟩ := mem_ordered.mp member
  obtain ⟨path, ⟨content, entry⟩, _⟩ := scanned_entry tree distinct working scanned present
  have absent : f.path.names ∉ (failing d a.cwd dialects files).map (·.path.names) := by
    rw [fails_iff tree distinct working scanned dialects present wanted]
    simpa using sound
  have read := lacks.keeps.read_eq tree a.cwd (by simp [entry]) absent
  rw [← path] at read
  rw [extract_of_read read]

theorem load_withoutFailing {path : Path} (configured : s.configurationPath = some path) :
    Configuration.load (withoutFailing d a.cwd dialects files) a.cwd path = Configuration.load d a.cwd path := by
  obtain ⟨_, _, last⟩ := configurationPath_last configured a.cwd
  refine Configuration.load_of_lacks (withoutFailing_lacks tree distinct working scanned dialects) fun target => ?_
  obtain ⟨f, failed, same⟩ := List.mem_map.mp target
  have dialect := (scanned_entry tree distinct working scanned (mem_failing.mp failed).1).2.2
  have other : Dialect.ofFileName? "camel-csimple.properties" = none := by decide
  rw [same, last, Option.getD_some, other] at dialect
  cases dialect

/-- A run without the files that fail has the plan of the run with them, warnings apart, or the same fault. -/
theorem plan_withoutFailing :
    plan a s dialects (withoutFailing d a.cwd dialects files) =
      (plan a s dialects d).map fun p => { p with warnings := [] } := by
  have scanned' : ((scanOf s).run (withoutFailing d a.cwd dialects files) a).2 =
      .ok (Scan.remaining ((failing d a.cwd dialects files).map (·.path.names)) files) := by
    rw [withoutFailing, Scan.run_without (withoutFailing_lacks tree distinct working scanned dialects), scanned]
    rfl
  unfold plan
  split
  · rename_i outputDir resourceDir path _ _ configured
    rw [discover, discover, load_withoutFailing tree distinct working scanned dialects configured, scanned', scanned]
    cases Configuration.load d a.cwd path with
    | error fault => rfl
    | ok c =>
      dsimp only [bind, Except.bind, Except.mapError, pure, Except.pure]
      rw [ordered_remaining tree distinct working scanned, extractions_withoutFailing tree distinct working scanned,
        sites_extractions, warningsOf_sound]
      cases unitsOf c ((extractions d a.cwd (ordered dialects files)).flatMap (·.sites)) <;> rfl
  · rfl
  · rfl

/-- No file gives both a site and a warning. -/
theorem origin_ne_warning {site : Site} {warning : Path × Text}
    (found : site ∈ (extractions d a.cwd (ordered dialects files)).flatMap (·.sites))
    (warned : warning ∈ warningsOf (extractions d a.cwd (ordered dialects files))) : site.origin ≠ warning.1 := by
  rw [← sites_extractions] at found
  obtain ⟨_, extracted, inside⟩ := List.mem_flatMap.mp found
  obtain ⟨f, member, rfl⟩ := List.mem_map.mp extracted
  obtain ⟨member, sound⟩ := List.mem_filter.mp member
  obtain ⟨present, wanted⟩ := mem_ordered.mp member
  obtain ⟨g, member', failed, path⟩ := fails_of_mem_warningsOf warned
  obtain ⟨present', wanted'⟩ := mem_ordered.mp member'
  rw [origin_of_mem_extract inside, path]
  intro same
  have target : f.path.names ∈ (failing d a.cwd dialects files).map (·.path.names) :=
    List.mem_map.mpr ⟨g, mem_failing.mpr ⟨present', wanted', failed⟩, congrArg Path.names same.symm⟩
  rw [(fails_iff tree distinct working scanned dialects present wanted).mp target] at sound
  cases sound

end Absent

theorem plan_found {a : Account} {s : Settings} {dialects : List Dialect} {d : Disk} {files : List SourceFile}
    {p : Plan} (scanned : ((scanOf s).run d a).2 = .ok files) (planned : plan a s dialects d = .ok p) :
    p.sites = (extractions d a.cwd (ordered dialects files)).flatMap (·.sites) ∧
      p.warnings = warningsOf (extractions d a.cwd (ordered dialects files)) := by
  unfold plan at planned
  split at planned
  · obtain ⟨⟨c, found⟩, discovered, planned⟩ := Fallible.bind_ok planned
    obtain ⟨_, files', scanned', rfl⟩ := discover_ok discovered
    obtain ⟨units, _, planned⟩ := Fallible.bind_ok planned
    cases scanned.symm.trans scanned'
    cases planned
    exact ⟨rfl, rfl⟩
  · cases planned
  · cases planned

/-! ### Runs -/

/-- A plan that is carried out on a disk is carried out where some of its files are missing. -/
theorem carryOut_of_lacks {targets : List (List Text)} {d d' e : Disk} (lacks : Disk.Lacks targets d d')
    {cwd : List Text} {dryRun : Bool} {p : Plan} {o : Outcome} (done : carryOut cwd dryRun p d = (e, .ok o)) :
    o.sites = p.sites ∧ o.warnings = p.warnings ∧
      ∃ e' o', carryOut cwd dryRun { p with warnings := [] } d' = (e', .ok o') ∧
        o'.sites = o.sites ∧ o'.units = o.units ∧ o'.manifest = o.manifest ∧ o'.warnings = [] := by
  by_cases empty : p.sites = []
  · rw [carryOut_empty cwd dryRun empty] at done
    cases done
    have done' := carryOut_empty cwd dryRun (p := { p with warnings := [] }) empty d'
    exact ⟨empty.symm, rfl, d', _, done', rfl, rfl, rfl, rfl⟩
  · rcases carryOut_cases done with ⟨none, _⟩ | ⟨written, updated, result⟩
    · exact absurd none empty
    obtain ⟨w, sound, rfl⟩ := Fallible.map_ok result.symm
    obtain rfl := Fallible.mapError_ok sound
    obtain ⟨e', v, updated'⟩ := Writer.updateAll_of_lacks lacks (v := .new dryRun) rfl updated
    have done' := carryOut_updated (p := { p with warnings := [] }) empty updated'
    exact ⟨rfl, rfl, e', _, done', rfl, rfl, rfl, rfl⟩

/-- A run fails before it writes exactly if it cannot be planned. -/
theorem run_error_iff {a : Account} {s : Settings} {dialects : List Dialect} {dryRun : Bool} {d : Disk}
    {records : List Record} {fault : RunFault} (early : ∀ w, fault ≠ .write w) :
    ((run ⟨a, none⟩ s dialects dryRun).run.run ⟨d, records⟩).1 = .error fault ↔ plan a s dialects d = .error fault := by
  cases ran : (run ⟨a, none⟩ s dialects dryRun).run.run ⟨d, records⟩ with
  | mk result after =>
    constructor
    · rintro rfl
      rcases run_error ran with ⟨failed, _⟩ | ⟨w, written⟩
      · exact failed
      · exact absurd written (early w)
    · intro failed
      rcases run_cases ran with ⟨other, failed', same, _⟩ | ⟨p, planned, _⟩
      · cases failed.symm.trans failed'
        exact same
      · cases failed.symm.trans planned

/-- A manifest that is named in the outcome is there. -/
theorem carryOut_manifest {d e : Disk} {cwd : List Text} {p : Plan} {o : Outcome}
    (apart : (p.files.map fun x => x.1.target cwd).Nodup) (done : carryOut cwd false p d = (e, .ok o)) {path : Path}
    (named : o.manifest = some path) :
    ∃ text, manifestFile p.resourceDir p.units = some (path, text) ∧ Writer.Holds e cwd path text := by
  rcases carryOut_cases done with ⟨_, _, nothing⟩ | ⟨written, updated, result⟩
  · cases nothing
    cases named
  · obtain ⟨w, sound, rfl⟩ := Fallible.map_ok result.symm
    obtain rfl := Fallible.mapError_ok sound
    obtain ⟨⟨_, text⟩, manifest, rfl⟩ := Option.map_eq_some_iff.mp named
    have held := (Writer.updateAll_keeps rfl apart updated).1
    exact ⟨text, manifest, held _ (List.mem_append_right _ (by simp [manifest]))⟩

/-- A file that fails gives a warning and takes nothing away from what the other files give. -/
theorem run_isolates_failures {a : Account} {s : Settings} {d : Disk} {files : List SourceFile} (tree : d.IsTree)
    (distinct : (d.entries.map Prod.fst).Nodup) (working : d.get? a.cwd = some .directory)
    (scanned : ((scanOf s).run d a).2 = .ok files) (dialects : List Dialect) (dryRun : Bool) (records : List Record) :
    (∀ o d₁ records₁, (run ⟨a, none⟩ s dialects dryRun).run.run ⟨d, records⟩ = (.ok o, ⟨d₁, records₁⟩) →
      List.Forall₂ (fun f warning => warning.1 = f.path ∧ sitesIn d a.cwd f.dialect f.path = .error warning.2)
        (failing d a.cwd dialects files) o.warnings ∧
      (∀ site ∈ o.sites, ∀ warning ∈ o.warnings, site.origin ≠ warning.1) ∧
      ∃ o' d₁' records₁', (run ⟨a, none⟩ s dialects dryRun).run.run ⟨withoutFailing d a.cwd dialects files, records⟩ =
          (.ok o', ⟨d₁', records₁'⟩) ∧
        o'.sites = o.sites ∧ o'.units = o.units ∧ o'.manifest = o.manifest ∧ o'.warnings = [] ∧
        (dryRun = false → ∀ path, o.manifest = some path →
          ∃ bytes, d₁.read a.cwd path = .ok bytes ∧ d₁'.read a.cwd path = .ok bytes)) ∧
    ∀ fault, (∀ w, fault ≠ .write w) →
      (((run ⟨a, none⟩ s dialects dryRun).run.run ⟨d, records⟩).1 = .error fault ↔
        ((run ⟨a, none⟩ s dialects dryRun).run.run ⟨withoutFailing d a.cwd dialects files, records⟩).1 =
          .error fault) := by
  have lacks := withoutFailing_lacks tree distinct working scanned dialects
  have plans := plan_withoutFailing tree distinct working scanned dialects
  constructor
  · intro o d₁ records₁ ran
    rcases run_cases ran with ⟨_, _, failed, _⟩ | ⟨p, planned, done⟩
    · cases failed
    obtain ⟨sites, warnings, d₁', o', done', sameSites, sameUnits, sameManifest, none⟩ := carryOut_of_lacks lacks done
    obtain ⟨found, warned⟩ := plan_found scanned planned
    have planned' : plan a s dialects (withoutFailing d a.cwd dialects files) = .ok { p with warnings := [] } := by
      rw [plans, planned]
      rfl
    obtain ⟨records₁', ran'⟩ := run_of_plan planned' done' records
    rw [sites, warnings, found, warned]
    refine ⟨?_, ?_, o', d₁', records₁', ran', sameSites.trans (sites.trans found), sameUnits, sameManifest, none, ?_⟩
    · rw [failing_eq]
      exact warningsOf_extractions d a.cwd (ordered dialects files)
    · exact fun site inside warning given => origin_ne_warning tree distinct working scanned dialects inside given
    · rintro rfl path named
      obtain ⟨text, manifest, held⟩ := carryOut_manifest (plan_apart planned a.cwd).2 done named
      obtain ⟨text', manifest', held'⟩ :=
        carryOut_manifest (plan_apart planned' a.cwd).2 done' (sameManifest.trans named)
      obtain rfl : text = text' := (Prod.mk.inj (Option.some.inj (manifest.symm.trans manifest'))).2
      obtain ⟨bytes, encoded, read⟩ := held.read
      obtain ⟨bytes', encoded', read'⟩ := held'.read
      obtain rfl : bytes = bytes' := Except.ok.inj (encoded.symm.trans encoded')
      exact ⟨bytes, read, read'⟩
  · intro fault early
    rw [run_error_iff early, run_error_iff early, plans]
    cases plan a s dialects d with
    | error other => exact Iff.rfl
    | ok p => simp [Except.map]

/-- A disk with a document that is cut off and one with a script. -/
def mixedDisk : Disk :=
  ⟨[(["s"], .directory), (["s", "a.xml"], .file "<a".toUTF8.toList), (["t"], .directory),
    (["t", "b.xml"], .file scriptDocument)]⟩

def mixedSettings : Settings := { scriptSettings with sourceRoots := ["/s", "/t"] }

def mixedFiles : List SourceFile :=
  [⟨.absolute ["s", "a.xml"], "a.xml", .document⟩, ⟨.absolute ["t", "b.xml"], "b.xml", .document⟩]

theorem mixed_scanned : ((scanOf mixedSettings).run mixedDisk rootAccount).2 = .ok mixedFiles := by
  have facts : ((scanOf mixedSettings).walk mixedDisk rootAccount ⟨[], []⟩ (scanOf mixedSettings).allRoots
        ⟨[], [], []⟩).2 = none ∧
      ((scanOf mixedSettings).walk mixedDisk rootAccount ⟨[], []⟩ (scanOf mixedSettings).allRoots
        ⟨[], [], []⟩).1.found = mixedFiles := by decide +kernel
  have sorted : Scan.inOrder mixedFiles = mixedFiles := List.mergeSort_of_pairwise (by decide +kernel)
  cases walked : (scanOf mixedSettings).walk mixedDisk rootAccount ⟨[], []⟩ (scanOf mixedSettings).allRoots
      ⟨[], [], []⟩ with
  | mk p fault =>
    rw [walked] at facts
    obtain ⟨rfl, found⟩ := facts
    rw [Scan.run_of_walk rfl walked, found, sorted]

def mixedFound : List Extraction := extractions mixedDisk [] (ordered [.document] mixedFiles)

def mixedPlan : Plan :=
  ⟨.absolute ["o"], .absolute ["o"], mixedFound.flatMap (·.sites),
    (unitsOf ⟨[], []⟩ (mixedFound.flatMap (·.sites))).toOption.getD [], warningsOf mixedFound⟩

theorem mixed_planned : plan rootAccount mixedSettings [.document] mixedDisk = .ok mixedPlan := by
  have inspected : mixedDisk.inspect [] (.absolute ["s", "camel-csimple.properties"]) = .ok none :=
    Fallible.ok_of_toOption (by decide +kernel)
  have compiled : unitsOf ⟨[], []⟩ mixedPlan.sites = .ok mixedPlan.units := by
    have known : (unitsOf ⟨[], []⟩ mixedPlan.sites).toOption.isSome := by decide +kernel
    obtain ⟨units, made⟩ := Option.isSome_iff_exists.mp known
    have same : mixedPlan.units = units := congrArg (Option.getD · []) made
    rw [same, Fallible.ok_of_toOption made]
  have discovered : discover rootAccount mixedSettings [.document] (.absolute ["s", "camel-csimple.properties"])
      mixedDisk = .ok (⟨[], []⟩, mixedFound) := by
    rw [discover, mixed_scanned, show rootAccount.cwd = [] from rfl, Configuration.load_missing inspected]
    rfl
  have configured : mixedSettings.configurationPath = some (.absolute ["s", "camel-csimple.properties"]) := by
    decide +kernel
  unfold plan
  rw [configured]
  change (discover rootAccount mixedSettings [.document] _ mixedDisk >>= _) = _
  rw [discovered]
  change (unitsOf ⟨[], []⟩ mixedPlan.sites >>= _) = _
  rw [compiled]
  rfl

/-- The script beside a document that is cut off gets the first number, with that document or without it. -/
theorem run_isolates_failures_mixed :
    ∃ o d₁ records₁ o' d₁' records₁', rootRun mixedSettings mixedDisk = (.ok o, ⟨d₁, records₁⟩) ∧
      rootRun mixedSettings (mixedDisk.without [["s", "a.xml"]]) = (.ok o', ⟨d₁', records₁'⟩) ∧
      o.warnings.map Prod.fst = [.absolute ["s", "a.xml"]] ∧ o'.warnings = [] ∧
      o.units.map (·.identity) = [syntheticOwner ++ "$$Csimple1"] ∧ o'.units = o.units := by
  have failed : failing mixedDisk [] [.document] mixedFiles = [⟨.absolute ["s", "a.xml"], "a.xml", .document⟩] := by
    decide +kernel
  have removed : withoutFailing mixedDisk [] [.document] mixedFiles = mixedDisk.without [["s", "a.xml"]] := by
    rw [withoutFailing, failed]
    rfl
  have facts : (carryOut [] false mixedPlan mixedDisk).2.toOption.any fun o =>
      o.units.map (·.identity) = [syntheticOwner ++ "$$Csimple1"] := by decide +kernel
  cases done : carryOut [] false mixedPlan mixedDisk with
  | mk d₁ result =>
    rw [done] at facts
    obtain ⟨o, ended, names⟩ := (Option.any_eq_true _ _).mp facts
    obtain rfl : result = .ok o := Fallible.ok_of_toOption ended
    obtain ⟨records₁, ran⟩ := run_of_plan mixed_planned done []
    obtain ⟨isolated, _⟩ := run_isolates_failures (a := rootAccount) (s := mixedSettings) (d := mixedDisk) (by decide)
      (by decide) rfl mixed_scanned [.document] false []
    obtain ⟨warnings, _, o', d₁', records₁', ran', _, units, _, none, _⟩ := isolated o d₁ records₁ ran
    rw [show rootAccount.cwd = [] from rfl, removed] at ran'
    refine ⟨o, d₁, records₁, o', d₁', records₁', ran, ran', ?_, none, of_decide_eq_true names, units⟩
    rw [show rootAccount.cwd = [] from rfl, failed] at warnings
    generalize o.warnings = given at warnings
    obtain _ | ⟨⟨path, _⟩, _ | _⟩ := warnings
    rw [List.map_singleton, path]

end Generation

end RouteScript
