import RouteScript.Output.Writer
import RouteScript.Proofs.Files.DiskChange

/-!
# Writing files

A writer brings a file to its content and changes no other file (`update_changes`), so that files at
different places all have their content after the last one was written (`updateAll_changes`).
-/

namespace RouteScript.Writer

/-- The path leads to a file with this text. -/
def Holds (d : Disk) (cwd : List Text) (p : Path) (text : Text) : Prop :=
  ∃ bytes, text.toUtf8 = .ok bytes ∧ d.locate cwd p = .ok (p.target cwd, some (.file bytes))

theorem holds_true {d : Disk} {cwd : List Text} {p : Path} {bytes : Bytes}
    (held : holds d cwd p bytes = .ok true) : ∃ there, d.locate cwd p = .ok (there, some (.file bytes)) := by
  obtain ⟨found, inspected, same⟩ := Fallible.bind_ok held
  have file : found = some (.file bytes) := by simpa using Except.ok.inj same
  subst file
  unfold Disk.inspect at inspected
  split at inspected
  · rename_i there _ located
    cases inspected
    exact ⟨there, located⟩
  · cases inspected
  · cases inspected

theorem writeThrough_changes {d d' : Disk} {cwd : List Text} {p : Path} {bytes : Bytes}
    (written : writeThrough d cwd p bytes = (d', .ok ())) :
    ∃ there, d'.locate cwd p = .ok (there, some (.file bytes)) ∧ Disk.Changes [there] d d' := by
  have above := d.makeDirectories_changes cwd p.parent
  unfold writeThrough at written
  split at written
  · cases written
  · rename_i made directories
    rw [directories] at above
    split at written
    · rename_i after wrote
      cases written
      obtain ⟨there, located, change⟩ := Disk.write_changes wrote
      exact ⟨there, located, above.trans change⟩
    · cases written

/-- What an update does when it writes: the path leads to a file with the text, and no other file is
changed. -/
theorem update_changes {w w' : Writer} {d d' : Disk} {cwd : List Text} {p : Path} {text : Text} {changed : Bool}
    (wet : w.dryRun = false) (updated : w.update d cwd p text = (d', .ok (w', changed))) :
    w'.dryRun = false ∧ Holds d' cwd p text ∧ Disk.Changes [p.target cwd] d d' := by
  unfold update at updated
  split at updated
  · cases updated
  · rename_i bytes encoded
    have holding : ∀ {there : List Text} {e : Disk}, e.locate cwd p = .ok (there, some (.file bytes)) →
        there = p.target cwd ∧ Holds e cwd p text := by
      intro there e located
      obtain rfl := (Disk.locate_ok located).1
      exact ⟨rfl, bytes, encoded, located⟩
    split at updated
    · cases updated
    · rename_i found
      cases updated
      obtain ⟨there, located⟩ := holds_true found
      exact ⟨wet, (holding located).2, .refl⟩
    · dsimp only at updated
      rw [if_neg (by simp [wet])] at updated
      split at updated
      · cases updated
      · rename_i after written
        cases updated
        obtain ⟨there, located, change⟩ := writeThrough_changes written
        obtain ⟨rfl, held⟩ := holding located
        exact ⟨wet, held, change⟩

/-- Brings files to their texts one after another, up to a fault. -/
def updateAll (w : Writer) (d : Disk) (cwd : List Text) : List (Path × Text) → Disk × Except WriteFault Writer
  | [] => (d, .ok w)
  | (p, text) :: rest =>
    match w.update d cwd p text with
    | (d', .error fault) => (d', .error fault)
    | (d', .ok (w', _)) => updateAll w' d' cwd rest

theorem updateAll_append (w : Writer) (d : Disk) (cwd : List Text) (xs ys : List (Path × Text)) :
    w.updateAll d cwd (xs ++ ys) =
      match w.updateAll d cwd xs with
      | (d', .error fault) => (d', .error fault)
      | (d', .ok w') => w'.updateAll d' cwd ys := by
  induction xs generalizing w d with
  | nil => rfl
  | cons x xs ih =>
    simp only [List.cons_append, updateAll]
    split
    · rfl
    · exact ih _ _

theorem Holds.keeps {d d' : Disk} {cwd : List Text} {p : Path} {text : Text} {targets : List (List Text)}
    (held : Holds d cwd p text) (change : Disk.Keeps targets d d') (absent : p.target cwd ∉ targets) :
    Holds d' cwd p text := by
  obtain ⟨bytes, encoded, located⟩ := held
  exact ⟨bytes, encoded, change.locate located absent⟩

/-- Files at different places all have their texts in the end, and no other file is changed. -/
theorem updateAll_changes {w w' : Writer} {d d' : Disk} {cwd : List Text} {files : List (Path × Text)}
    (wet : w.dryRun = false) (apart : (files.map fun x => x.1.target cwd).Nodup)
    (updated : w.updateAll d cwd files = (d', .ok w')) :
    (∀ x ∈ files, Holds d' cwd x.1 x.2) ∧ Disk.Changes (files.map fun x => x.1.target cwd) d d' := by
  induction files generalizing w d with
  | nil =>
    cases updated
    exact ⟨by simp, .refl⟩
  | cons x files ih =>
    obtain ⟨p, text⟩ := x
    unfold updateAll at updated
    split at updated
    · cases updated
    · rename_i between w₁ changed first
      obtain ⟨wet₁, held, change⟩ := update_changes wet first
      obtain ⟨absent, apart⟩ := List.nodup_cons.mp apart
      obtain ⟨all, later⟩ := ih wet₁ apart updated
      refine ⟨?_, change.trans later⟩
      intro x member
      rcases List.mem_cons.mp member with rfl | member
      · exact held.keeps later.keeps absent
      · exact all x member

theorem updateAll_keeps {w w' : Writer} {d d' : Disk} {cwd : List Text} {files : List (Path × Text)}
    (wet : w.dryRun = false) (apart : (files.map fun x => x.1.target cwd).Nodup)
    (updated : w.updateAll d cwd files = (d', .ok w')) :
    (∀ x ∈ files, Holds d' cwd x.1 x.2) ∧ Disk.Keeps (files.map fun x => x.1.target cwd) d d' :=
  (updateAll_changes wet apart updated).imp id Disk.Changes.keeps

theorem Holds.read {d : Disk} {cwd : List Text} {p : Path} {text : Text} (held : Holds d cwd p text) :
    ∃ bytes, text.toUtf8 = .ok bytes ∧ d.read cwd p = .ok bytes := by
  obtain ⟨bytes, encoded, located⟩ := held
  exact ⟨bytes, encoded, Disk.read_of_locate located⟩

end RouteScript.Writer
