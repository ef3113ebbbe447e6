import RouteScript.Proofs.Files.DiskTree
import RouteScript.Proofs.Output.Writing

/-!
# Writing in a dry run

A dry writer compares each file with the disk as it is, where a writer that writes compares it with what the
earlier files have left. On a tree the comparisons agree as long as no path turns back from a directory that was
made for another one (`holds_of_later`), so that both writers list the same files (`updateAll_dry`).
-/

namespace RouteScript.Writer

/-- A file that is not among the targets compares with the disk as it did before the change. -/
theorem holds_of_later {d d' : Disk} (tree : d.IsTree) {targets : List (List Text)}
    (change : Disk.Keeps targets d d') {cwd : List Text} {p : Path} (absent : p.target cwd ∉ targets)
    (steady : Disk.Steady d d' (p.steps cwd)) {bytes : Bytes} {same : Bool}
    (compared : holds d' cwd p bytes = .ok same) : holds d cwd p bytes = .ok same := by
  obtain ⟨found', inspected', equal'⟩ := Fallible.bind_ok compared
  cases inspected : d.inspect cwd p with
  | error fault =>
    obtain ⟨q, rfl, failed⟩ := Disk.inspect_error_iff.mp inspected
    obtain ⟨rfl, named, long⟩ := Disk.locate_nameTooLong_iff.mp failed
    have long' := Disk.follow_nameTooLong change.directories long
    have failed' := Disk.inspect_error_iff.mpr ⟨q, rfl, Disk.locate_nameTooLong_iff.mpr ⟨rfl, named, long'⟩⟩
    rw [inspected'] at failed'
    cases failed'
  | ok found =>
    have agree : found = some (.file bytes) ↔ found' = some (.file bytes) := by
      constructor
      · rintro rfl
        have kept := change.locate (Disk.inspect_eq_some_iff.mp inspected) absent
        exact Except.ok.inj (inspected'.symm.trans (Disk.inspect_eq_some_iff.mpr kept))
      · rintro rfl
        have located' := Disk.inspect_eq_some_iff.mp inspected'
        have now : d'.get? (p.target cwd) = some (.file bytes) := (Disk.locate_ok located').2.resolve_left (by simp)
        have before := (change.files _ absent bytes).mp now
        have located := Disk.locate_of_later tree steady located' before
        exact Except.ok.inj (inspected.symm.trans (Disk.inspect_eq_some_iff.mpr located))
    have equal : (found == some (.file bytes)) = same := by
      rw [← Except.ok.inj equal', Bool.eq_iff_iff, beq_iff_eq, beq_iff_eq]
      exact agree
    rw [holds, inspected, ← equal]
    rfl

theorem update_unchanged {w : Writer} {d d' : Disk} {cwd : List Text} {p : Path} {text : Text}
    {result : Except WriteFault (Writer × Bool)} (dry : w.dryRun = true)
    (updated : w.update d cwd p text = (d', result)) :
    d' = d ∧ ∀ w' changed, result = .ok (w', changed) → w'.dryRun = true := by
  unfold update at updated
  split at updated
  · cases updated
    exact ⟨rfl, fun _ _ => (nomatch ·)⟩
  · split at updated
    · cases updated
      exact ⟨rfl, fun _ _ => (nomatch ·)⟩
    · cases updated
      refine ⟨rfl, ?_⟩
      rintro w' changed ⟨⟩
      exact dry
    · dsimp only at updated
      rw [if_pos dry] at updated
      cases updated
      refine ⟨rfl, ?_⟩
      rintro w' changed ⟨⟩
      exact dry

/-- A dry writer leaves the disk as it is, also when it fails. -/
theorem updateAll_unchanged {w : Writer} {d d' : Disk} {cwd : List Text} {files : List (Path × Text)}
    {result : Except WriteFault Writer} (dry : w.dryRun = true)
    (updated : w.updateAll d cwd files = (d', result)) : d' = d := by
  induction files generalizing w d with
  | nil =>
    cases updated
    rfl
  | cons x files ih =>
    obtain ⟨p, text⟩ := x
    unfold updateAll at updated
    split at updated
    · rename_i fault first
      cases updated
      exact (update_unchanged dry first).1
    · rename_i w₁ changed first
      obtain ⟨rfl, dry₁⟩ := update_unchanged dry first
      exact ih (dry₁ w₁ changed rfl) updated

def dry (w : Writer) : Writer := { w with dryRun := true }

/-- An update lists in a dry run what it lists otherwise, if the file compares in the same way. -/
theorem update_dry {w w' : Writer} {d d₁ d₂ : Disk} {cwd : List Text} {p : Path} {text : Text} {changed : Bool}
    (wet : w.dryRun = false)
    (compares : ∀ bytes same, holds d₁ cwd p bytes = .ok same → holds d cwd p bytes = .ok same)
    (updated : w.update d₁ cwd p text = (d₂, .ok (w', changed))) :
    w.dry.update d cwd p text = (d, .ok (w'.dry, changed)) := by
  unfold update at updated ⊢
  split at updated
  · cases updated
  · rename_i bytes encoded
    split at updated
    · cases updated
    · rename_i compared
      cases updated
      simp only [compares bytes true compared]
    · rename_i compared
      dsimp only at updated
      rw [if_neg (by simp [wet])] at updated
      split at updated
      · cases updated
      · cases updated
        simp only [compares bytes false compared]
        rfl

/-- Files at different places are listed in a dry run as they are when they are written. The disk `d₁` is what
files at the places `done` have left of `d`. -/
theorem updateAll_dry {d d₁ d' : Disk} (tree : d.IsTree) {done : List (List Text)} (change : Disk.Keeps done d d₁)
    {w w' : Writer} {cwd : List Text} {files : List (Path × Text)} (wet : w.dryRun = false)
    (apart : (done ++ files.map fun x => x.1.target cwd).Nodup)
    (steady : ∀ x ∈ files, Disk.Steady d d' (x.1.steps cwd))
    (updated : w.updateAll d₁ cwd files = (d', .ok w')) :
    w.dry.updateAll d cwd files = (d, .ok w'.dry) := by
  induction files generalizing w d₁ done with
  | nil =>
    cases updated
    rfl
  | cons x files ih =>
    obtain ⟨p, text⟩ := x
    rw [List.map_cons, List.append_cons] at apart
    have rest : (files.map fun x => x.1.target cwd).Nodup := (List.nodup_append.mp apart).2.1
    have absent : p.target cwd ∉ done := by
      have first := (List.nodup_append.mp apart).1
      intro member
      exact (List.nodup_append.mp first).2.2 _ member _ List.mem_cons_self rfl
    unfold updateAll at updated
    split at updated
    · cases updated
    · rename_i between w₁ changed first
      obtain ⟨wet₁, _, own⟩ := update_changes wet first
      have later := (updateAll_keeps wet₁ rest updated).2
      have steady₁ : Disk.Steady d d₁ (p.steps cwd) := by
        intro step member created
        have still := later.directories _ (own.keeps.directories _ created.2)
        exact steady (p, text) List.mem_cons_self step member ⟨created.1, still⟩
      have dried := update_dry wet (fun bytes same => holds_of_later tree change absent steady₁) first
      rw [updateAll, dried]
      exact ih (change.trans own.keeps) wet₁ apart (fun x member => steady x (List.mem_cons_of_mem _ member)) updated

end RouteScript.Writer
