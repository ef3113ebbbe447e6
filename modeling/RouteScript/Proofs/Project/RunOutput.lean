import RouteScript.Proofs.Output.ManifestLines
import RouteScript.Proofs.Project.RunEffect
import RouteScript.Proofs.Unit.Compilation

/-!
# The output of a run

After a run the file of every unit holds the source of that unit, the manifest lists exactly the units of the
run, and every other file is as it was (`run_output`).
-/

namespace RouteScript

/-! ### Where files land -/

theorem Path.target_join (cwd : List Text) (directory : Path) {names : List Text}
    (plain : (".." : Text) ∉ names) :
    (directory.join ⟨0, names⟩).target cwd = directory.target cwd ++ names := by
  have joined : directory.join ⟨0, names⟩ = { directory with names := directory.names ++ names } := rfl
  rw [joined, Path.target, Path.target, Disk.landing_append, Disk.landing_of_not_mem _ plain]
  rfl

namespace Generation

open Run

/-- The units of a plan have different files, and none of them is the manifest. -/
theorem unitFiles_apart {cwd : List Text} {outputDir : Path} {units : List GeneratedUnit}
    (qualified : ∀ u ∈ units, isQualifiedName u.identity) (distinct : (units.map (·.file)).Nodup) :
    ((unitFiles outputDir units).map fun x => x.1.target cwd).Nodup := by
  rw [unitFiles, List.map_map, List.Nodup, List.pairwise_map]
  refine (List.pairwise_map.mp distinct).imp_of_mem ?_
  intro u v member member' different same
  obtain ⟨front, last, file, plain⟩ := classFile_names (qualified u member)
  obtain ⟨front', last', file', plain'⟩ := classFile_names (qualified v member')
  refine different ?_
  have targets : (outputDir.join u.file).target cwd = (outputDir.join v.file).target cwd := same
  rw [GeneratedUnit.file, GeneratedUnit.file, file, file', Path.target_join _ _ plain,
    Path.target_join _ _ plain'] at targets
  rw [GeneratedUnit.file, GeneratedUnit.file, file, file', List.append_cancel_left targets]

theorem manifest_apart {cwd : List Text} {outputDir resourceDir : Path} {u : GeneratedUnit}
    (qualified : isQualifiedName u.identity) :
    (outputDir.join u.file).target cwd ≠ (resourceDir.join Manifest.file).target cwd := by
  obtain ⟨front, last, file, plain⟩ := classFile_names qualified
  have manifest : Manifest.file =
      ⟨0, (["META-INF", "services", "org", "apache", "camel"] : List Text) ++ [("csimple.properties" : Text)]⟩ := by
    decide +kernel
  intro same
  rw [GeneratedUnit.file, file, manifest, Path.target_join _ _ plain, Path.target_join _ _ (by decide),
    ← List.append_assoc, ← List.append_assoc] at same
  have lasts : last ++ ".java" = "csimple.properties" := by
    simpa using (List.append_inj' same rfl).2
  have ended := congrArg List.getLast? lasts
  simp [Text.ofString] at ended

theorem plan_ok {a : Account} {s : Settings} {dialects : List Dialect} {d : Disk} {p : Plan}
    (planned : plan a s dialects d = .ok p) :
    s.outputDir = some p.outputDir ∧ s.outputResourceDir = some p.resourceDir ∧
      ∃ c, compileAll c p.sites = (p.units, none) := by
  unfold plan at planned
  split at planned
  · rename_i outputDir resourceDir configurationPath
    obtain ⟨⟨c, found⟩, _, planned⟩ := Fallible.bind_ok planned
    obtain ⟨units, compiled, planned⟩ := Fallible.bind_ok planned
    cases planned
    refine ⟨by assumption, by assumption, c, ?_⟩
    unfold unitsOf at compiled
    split at compiled
    · rename_i made
      cases compiled
      exact made
    · cases compiled
  · cases planned
  · cases planned

theorem files_apart {cwd : List Text} {p : Plan} (qualified : ∀ u ∈ p.units, isQualifiedName u.identity)
    (distinct : (p.units.map (·.file)).Nodup) : (p.files.map fun x => x.1.target cwd).Nodup := by
  rw [Plan.files, List.map_append]
  refine List.nodup_append.mpr ⟨unitFiles_apart qualified distinct, ?_, ?_⟩
  · cases manifestFile p.resourceDir p.units <;> simp
  · intro target unit target' manifest
    obtain ⟨x, member, rfl⟩ := List.mem_map.mp unit
    obtain ⟨u, present, rfl⟩ := List.mem_map.mp member
    obtain ⟨y, member', rfl⟩ := List.mem_map.mp manifest
    obtain ⟨text, _, rfl⟩ := Option.map_eq_some_iff.mp (Option.mem_toList.mp member')
    exact manifest_apart (qualified u present)

/-- What can be planned has units with proper names, and their files and the manifest are at different places. -/
theorem plan_apart {a : Account} {s : Settings} {dialects : List Dialect} {d : Disk} {p : Plan}
    (planned : plan a s dialects d = .ok p) (cwd : List Text) :
    (∀ u ∈ p.units, isQualifiedName u.identity) ∧ (p.files.map fun x => x.1.target cwd).Nodup := by
  obtain ⟨_, _, c, compiled⟩ := plan_ok planned
  have qualified : ∀ u ∈ p.units, isQualifiedName u.identity := fun u member => ((compileAll_units compiled).2 u member).2
  have distinct := (compileAll_distinct c p.sites).2
  rw [compiled] at distinct
  exact ⟨qualified, files_apart qualified distinct⟩

/-- After a run with sites the disk holds the units of the run and a manifest that lists them, and is otherwise as it
was. -/
theorem run_output {a : Account} {s : Settings} {dialects : List Dialect} {d d' : Disk}
    {records records' : List Record} {o : Outcome}
    (ran : (run ⟨a, none⟩ s dialects false).run.run ⟨d, records⟩ = (.ok o, ⟨d', records'⟩))
    (filled : o.sites ≠ []) :
    ∃ outputDir resourceDir, s.outputDir = some outputDir ∧ s.outputResourceDir = some resourceDir ∧
      (∀ u ∈ o.units, ∃ bytes, u.source.toUtf8 = .ok bytes ∧
        d'.read a.cwd (outputDir.join u.file) = .ok bytes) ∧
      (∃ text bytes listed, text.toUtf8 = .ok bytes ∧
        d'.read a.cwd (resourceDir.join Manifest.file) = .ok bytes ∧
        Manifest.Lists text listed ∧ listed.length = o.sites.length ∧
        listed.Perm (o.units.map (·.identity))) ∧
      ∀ names content,
        (∀ p ∈ resourceDir.join Manifest.file :: o.units.map (outputDir.join ·.file), ∀ e,
          d'.locate a.cwd p ≠ .ok (names, e)) →
        (d'.get? names = some (.file content) ↔ d.get? names = some (.file content)) := by
  obtain ⟨p, w, planned, sameSites, sameUnits, written⟩ := run_ok ran filled
  obtain ⟨output, resources, c, compiled⟩ := plan_ok planned
  obtain ⟨sites, each⟩ := compileAll_units compiled
  have ⟨names, files⟩ := compileAll_distinct c p.sites
  rw [compiled] at names files
  have qualified : ∀ u ∈ p.units, isQualifiedName u.identity := fun u member => (each u member).2
  obtain ⟨held, kept⟩ := Writer.updateAll_keeps rfl (files_apart qualified files) written
  rw [sameSites] at filled ⊢
  rw [sameUnits]
  have listing : p.units.map (·.identity) ≠ [] := by
    intro none
    rw [List.map_eq_nil_iff] at none
    rw [none] at sites
    exact filled sites.symm
  obtain ⟨text, listed, rendered, lists, perm⟩ := Manifest.render_lines listing names (by
    intro name member
    obtain ⟨u, present, rfl⟩ := List.mem_map.mp member
    exact newline_not_mem (qualified u present))
  have heldUnit : ∀ u ∈ p.units, Writer.Holds d' a.cwd (p.outputDir.join u.file) u.source := fun u member =>
    held (p.outputDir.join u.file, u.source) (List.mem_append_left _ (List.mem_map.mpr ⟨u, member, rfl⟩))
  have heldManifest : Writer.Holds d' a.cwd (p.resourceDir.join Manifest.file) text :=
    held (p.resourceDir.join Manifest.file, text) (List.mem_append_right _ (by simp [manifestFile, rendered]))
  refine ⟨p.outputDir, p.resourceDir, output, resources, ?_, ?_, ?_⟩
  · exact fun u member => (heldUnit u member).read
  · obtain ⟨bytes, encoded, read⟩ := heldManifest.read
    refine ⟨text, bytes, listed, encoded, read, lists, ?_, perm⟩
    rw [perm.length_eq, List.length_map, ← sites, List.length_map]
  · intro names content elsewhere
    refine kept.files names ?_ content
    intro target
    obtain ⟨x, member, rfl⟩ := List.mem_map.mp target
    obtain ⟨bytes, _, located⟩ := held x member
    refine elsewhere x.1 ?_ _ located
    rcases List.mem_append.mp member with member | member
    · obtain ⟨u, present, rfl⟩ := List.mem_map.mp member
      exact List.mem_cons_of_mem _ (List.mem_map.mpr ⟨u, present, rfl⟩)
    · obtain ⟨_, _, rfl⟩ := Option.map_eq_some_iff.mp (Option.mem_toList.mp member)
      exact List.mem_cons_self

def scriptDocument : Bytes := "<csimple>x</csimple>".toUTF8.toList

def scriptDisk : Disk := ⟨[(["s"], .directory), (["s", "a.xml"], .file scriptDocument)]⟩

/-- Settings that have the documents below `/s` read and the output written below `/o`. -/
def scriptSettings : Settings :=
  { root := .absolute [], sourceRoots := ["/s"], testSourceRoots := []
    outputDir := some (.absolute ["o"]), outputResourceDir := some (.absolute ["o"])
    resourceDir := some (.absolute ["s"]), includeJava := false, includeXml := true, includeTest := false
    includes := [], excludes := [] }

def scriptRun : Except RunFault Outcome × Progress :=
  (run ⟨⟨[], .absolute [], []⟩, none⟩ scriptSettings [.document] false).run.run ⟨scriptDisk, []⟩

theorem scriptRun_ok :
    ∃ o d' records, scriptRun = (.ok o, ⟨d', records⟩) ∧ o.sites ≠ [] ∧
      o.units.map (·.identity) = [syntheticOwner ++ "$$Csimple1"] := by
  have facts : scriptRun.1.toOption.map (fun o => (o.sites.isEmpty, o.units.map (·.identity))) =
      some (false, [syntheticOwner ++ "$$Csimple1"]) := by decide +kernel
  generalize scriptRun = ran at facts ⊢
  obtain ⟨result, d', records⟩ := ran
  obtain ⟨o, ended, facts⟩ := Option.map_eq_some_iff.mp facts
  obtain ⟨sites, names⟩ := Prod.mk.inj facts
  obtain rfl : result = .ok o := Fallible.ok_of_toOption ended
  exact ⟨o, d', records, rfl, List.isEmpty_eq_false_iff.mp sites, names⟩

/-- The script above gets its class and its line, and the document with it is as it was. -/
theorem run_output_script :
    ∃ o d' records, scriptRun = (.ok o, ⟨d', records⟩) ∧
      (∀ u ∈ o.units, ∃ bytes, u.source.toUtf8 = .ok bytes ∧
        d'.read [] ((Path.absolute ["o"]).join u.file) = .ok bytes) ∧
      (∃ text bytes, text.toUtf8 = .ok bytes ∧
        d'.read [] ((Path.absolute ["o"]).join Manifest.file) = .ok bytes ∧
        Manifest.Lists text [syntheticOwner ++ "$$Csimple1"]) ∧
      d'.get? ["s", "a.xml"] = some (.file scriptDocument) := by
  obtain ⟨o, d', records, ran, filled, names⟩ := scriptRun_ok
  obtain ⟨outputDir, resourceDir, output, resources, units, manifest, others⟩ := run_output ran filled
  cases output
  cases resources
  refine ⟨o, d', records, ran, units, ?_, ?_⟩
  · obtain ⟨text, bytes, listed, encoded, read, lists, _, perm⟩ := manifest
    rw [names] at perm
    rw [List.perm_singleton.mp perm] at lists
    exact ⟨text, bytes, encoded, read, lists⟩
  · refine (others ["s", "a.xml"] scriptDocument ?_).mpr (by decide +kernel)
    intro p member e located
    have there := (Disk.locate_ok located).1
    rcases List.mem_cons.mp member with rfl | member
    · exact absurd there (by decide +kernel)
    · obtain ⟨u, present, rfl⟩ := List.mem_map.mp member
      have name : u.identity ∈ o.units.map (·.identity) := List.mem_map.mpr ⟨u, present, rfl⟩
      rw [names, List.mem_singleton] at name
      rw [GeneratedUnit.file, name] at there
      exact absurd there (by decide +kernel)

end Generation

end RouteScript
