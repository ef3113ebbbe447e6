import RouteScript.Proofs.Output.DryWriting
import RouteScript.Proofs.Project.RunOutput

/-!
# Dry runs

A dry run leaves the disk as it is and comes to the same outcome as the run itself, with the same files listed in
the same order (`dryRun_predicts`). The exception is a path of an output directory that turns back from a directory
which the run makes: to a dry run it leads nowhere, whatever stands where it leads afterwards
(`turningRun_differs`).
-/

namespace RouteScript.Generation

open Run

/-- A file of a plan stands below one of the two output directories, and its path turns back only where that of the
directory does. -/
theorem Plan.mem_files {p : Plan} (qualified : ∀ u ∈ p.units, isQualifiedName u.identity) {x : Path × Text}
    (member : x ∈ p.files) :
    ∃ directory names, (directory = p.outputDir ∨ directory = p.resourceDir) ∧ x.1 = directory.join ⟨0, names⟩ ∧
      (".." : Text) ∉ names := by
  rcases List.mem_append.mp member with unit | manifest
  · obtain ⟨u, present, rfl⟩ := List.mem_map.mp unit
    obtain ⟨front, last, file, plain⟩ := classFile_names (qualified u present)
    exact ⟨p.outputDir, _, Or.inl rfl, congrArg p.outputDir.join file, plain⟩
  · obtain ⟨text, _, rfl⟩ := Option.map_eq_some_iff.mp (Option.mem_toList.mp manifest)
    exact ⟨p.resourceDir, Manifest.file.names, Or.inr rfl, rfl, by decide +kernel⟩

theorem carryOut_unchanged {cwd : List Text} {p : Plan} {d d' : Disk} {result : Except RunFault Outcome}
    (done : carryOut cwd true p d = (d', result)) : d' = d := by
  rcases carryOut_cases done with ⟨_, same, _⟩ | ⟨written, updated, _⟩
  · exact same
  · exact Writer.updateAll_unchanged rfl updated

theorem dryRun_unchanged (a : Account) (s : Settings) (dialects : List Dialect) (before : Progress) :
    ((run ⟨a, none⟩ s dialects true).run.run before).2.disk = before.disk := by
  rcases run_cases rfl with ⟨_, _, _, same⟩ | ⟨p, _, done⟩
  · exact same
  · exact carryOut_unchanged done

/-- A plan that can be carried out is carried out in a dry run with the same outcome. -/
theorem carryOut_dry {cwd : List Text} {p : Plan} {d d' : Disk} {o : Outcome} (tree : d.IsTree)
    (apart : (p.files.map fun x => x.1.target cwd).Nodup)
    (steady : ∀ x ∈ p.files, d.Steady d' (x.1.steps cwd))
    (done : carryOut cwd false p d = (d', .ok o)) : carryOut cwd true p d = (d, .ok { o with dryRun := true }) := by
  by_cases empty : p.sites = []
  · rw [carryOut_empty cwd false empty] at done
    cases done
    exact carryOut_empty cwd true empty d
  · rcases carryOut_cases done with ⟨none, _⟩ | ⟨written, updated, result⟩
    · exact absurd none empty
    · obtain ⟨w, sound, rfl⟩ := Fallible.map_ok result.symm
      obtain rfl := Fallible.mapError_ok sound
      have listed := Writer.updateAll_dry tree (Disk.Keeps.refl [] d) rfl apart steady updated
      exact carryOut_updated (w := w.dry) empty listed

/-- A dry run leaves the disk as it is and comes to the outcome that the run itself would come to. -/
theorem dryRun_predicts (a : Account) (s : Settings) (dialects : List Dialect) (d : Disk) (records : List Record) :
    ((run ⟨a, none⟩ s dialects true).run.run ⟨d, records⟩).2.disk = d ∧
    ∀ o d' records', (run ⟨a, none⟩ s dialects false).run.run ⟨d, records⟩ = (.ok o, ⟨d', records'⟩) → d.IsTree →
      (∀ directory ∈ s.outputDir.toList ++ s.outputResourceDir.toList, d.Steady d' (directory.steps a.cwd)) →
      ∃ records'', (run ⟨a, none⟩ s dialects true).run.run ⟨d, records⟩ =
        (.ok { o with dryRun := true }, ⟨d, records''⟩) := by
  refine ⟨dryRun_unchanged a s dialects ⟨d, records⟩, ?_⟩
  intro o d' records' ran tree steady
  rcases run_cases ran with ⟨_, _, failed, _⟩ | ⟨p, planned, done⟩
  · cases failed
  obtain ⟨qualified, apart⟩ := plan_apart planned a.cwd
  obtain ⟨output, resources, _⟩ := plan_ok planned
  refine run_of_plan planned (carryOut_dry tree apart ?_ done) records
  intro x member
  obtain ⟨directory, names, known, file, plain⟩ := p.mem_files qualified member
  rw [file]
  refine (steady directory ?_).join plain
  rw [output, resources]
  rcases known with rfl | rfl <;> simp

/-- The run over a disk with one script below `/s` and its output below the given names. -/
def outputRun (output : List Text) (d : Disk) (dryRun : Bool) : Except RunFault Outcome × Progress :=
  (run ⟨⟨[], .absolute [], []⟩, none⟩
    { scriptSettings with outputDir := some (.absolute output), outputResourceDir := some (.absolute output) }
    [.document] dryRun).run.run ⟨d, []⟩

theorem outputRun_ok {output : List Text} {d : Disk} {dryRun : Bool} {count : Nat}
    (facts : (outputRun output d dryRun).1.toOption.map (·.written.length) = some count) :
    ∃ o d' records, outputRun output d dryRun = (.ok o, ⟨d', records⟩) ∧ o.written.length = count := by
  generalize outputRun output d dryRun = ran at facts ⊢
  obtain ⟨result, d', records⟩ := ran
  obtain ⟨o, ended, listed⟩ := Option.map_eq_some_iff.mp facts
  obtain rfl : result = .ok o := Fallible.ok_of_toOption ended
  exact ⟨o, d', records, rfl, listed⟩

/-- A path may turn back from a directory that was there before. -/
theorem dryRun_predicts_script :
    ∃ o d' records records', outputRun ["s", "..", "b"] scriptDisk false = (.ok o, ⟨d', records⟩) ∧
      o.written.length = 2 ∧
      outputRun ["s", "..", "b"] scriptDisk true = (.ok { o with dryRun := true }, ⟨scriptDisk, records'⟩) := by
  obtain ⟨o, d', records, ran, listed⟩ :=
    outputRun_ok (show (outputRun ["s", "..", "b"] scriptDisk false).1.toOption.map _ = some 2 by decide +kernel)
  have turns : ∀ step ∈ (Path.absolute ["s", "..", "b"]).steps [], step.2 = ".." → step.1 = [("s" : Text)] := by
    decide
  obtain ⟨records', dried⟩ := (dryRun_predicts _ _ _ _ _).2 o d' records ran (by decide) (by
    intro directory member step stepped created back
    obtain rfl : directory = .absolute ["s", "..", "b"] := by simpa using member
    refine created.1 ?_
    rw [turns step stepped back]
    decide)
  exact ⟨o, d', records, records', ran, listed, dried⟩

/-- A disk with the manifest of its script below `/b`. -/
def turningDisk : Disk :=
  ⟨[(["s"], .directory), (["s", "a.xml"], .file scriptDocument), (["b"], .directory), (["b", "META-INF"], .directory),
    (["b", "META-INF", "services"], .directory), (["b", "META-INF", "services", "org"], .directory),
    (["b", "META-INF", "services", "org", "apache"], .directory),
    (["b", "META-INF", "services", "org", "apache", "camel"], .directory),
    (["b", "META-INF", "services", "org", "apache", "camel", "csimple.properties"], .file
      ("# Generated by camel build tools - do NOT edit this file!\n" ++
        "org.apache.camel.language.csimple.XmlRouteBuilder$$Csimple1\n").toUTF8.toList)]⟩

/-- With `/a/../b` in place of `/b` the run makes the directory `/a` for the class and then finds the manifest as it
should be, but the dry run lists the manifest too. -/
theorem turningRun_differs :
    turningDisk.IsTree ∧ ∃ o o' d' records records',
      outputRun ["a", "..", "b"] turningDisk false = (.ok o, ⟨d', records⟩) ∧ o.written.length = 1 ∧
      outputRun ["a", "..", "b"] turningDisk true = (.ok o', ⟨turningDisk, records'⟩) ∧ o'.written.length = 2 := by
  have facts : turningDisk.IsTree ∧
      (outputRun ["a", "..", "b"] turningDisk false).1.toOption.map (·.written.length) = some 1 ∧
      (outputRun ["a", "..", "b"] turningDisk true).1.toOption.map (·.written.length) = some 2 := by decide +kernel
  obtain ⟨o, d', records, ran, listed⟩ := outputRun_ok facts.2.1
  obtain ⟨o', d'', records', dried, listed'⟩ := outputRun_ok facts.2.2
  obtain rfl : d'' = turningDisk := by
    have unchanged : (outputRun ["a", "..", "b"] turningDisk true).2.disk = turningDisk := dryRun_unchanged _ _ _ _
    rwa [dried] at unchanged
  exact ⟨facts.1, o, o', d', records, records', ran, listed, dried, listed'⟩

end RouteScript.Generation
