import RouteScript.Proofs.Files.MissingFiles
import RouteScript.Proofs.Output.Writing

/-!
# Writing where files are missing

A writer that succeeds on a disk succeeds where some of its files are missing (`updateAll_of_lacks`). There it may have
to write a file that the other disk holds already, so that the two need not list the same files.
-/

namespace RouteScript.Writer

open Disk (Lacks)

section Lacking

variable {targets : List (List Text)} {d d' : Disk} (lacks : Lacks targets d d')

include lacks

/-- A file compares as on the other disk, or it is missing. -/
theorem holds_of_lacks (cwd : List Text) (p : Path) (bytes : Bytes) :
    holds d' cwd p bytes = holds d cwd p bytes ∨ holds d' cwd p bytes = .ok false := by
  rw [holds, holds]
  rcases lacks.inspect cwd p with same | ⟨_, missing, _⟩
  · rw [same]
    exact Or.inl rfl
  · rw [missing]
    exact Or.inr rfl

theorem writeThrough_of_lacks {e : Disk} {cwd : List Text} {p : Path} {bytes : Bytes}
    (written : writeThrough d cwd p bytes = (e, .ok ())) :
    ∃ e', writeThrough d' cwd p bytes = (e', .ok ()) ∧ Lacks targets e e' := by
  unfold writeThrough at written
  split at written
  · cases written
  · rename_i between made
    split at written
    · rename_i after wrote
      cases written
      obtain ⟨between', made', related⟩ := lacks.makeDirectories made
      obtain ⟨e', wrote', related'⟩ := related.write wrote
      refine ⟨e', ?_, related'⟩
      rw [writeThrough, made']
      dsimp only
      rw [wrote']
    · cases written

/-- A missing file is written into the directory that holds it on the other disk. -/
theorem writeThrough_present {cwd : List Text} {p : Path} {bytes : Bytes} (held : holds d cwd p bytes = .ok true) :
    ∃ e', writeThrough d' cwd p bytes = (e', .ok ()) ∧ Lacks targets d e' := by
  obtain ⟨there, located⟩ := holds_true held
  obtain rfl := (Disk.locate_ok located).1
  have parent : d'.isDirectory cwd p.parent = .ok true :=
    (lacks.isDirectory cwd p.parent).trans (Disk.isDirectory_parent located)
  obtain ⟨e', wrote, related⟩ := lacks.write_present located
  refine ⟨e', ?_, related⟩
  rw [writeThrough, Disk.makeDirectories_of_isDirectory parent]
  dsimp only
  rw [wrote]

theorem update_of_lacks {w v w₁ : Writer} {e : Disk} {cwd : List Text} {p : Path} {text : Text} {changed : Bool}
    (mode : v.dryRun = w.dryRun) (updated : w.update d cwd p text = (e, .ok (w₁, changed))) :
    ∃ e' v₁ changed', v.update d' cwd p text = (e', .ok (v₁, changed')) ∧ v₁.dryRun = w₁.dryRun ∧
      Lacks targets e e' := by
  unfold update at updated ⊢
  split at updated
  · cases updated
  · rename_i bytes encoded
    split at updated
    · cases updated
    · -- The text was there. It is still, or its file is missing and is written again.
      rename_i held
      cases updated
      rcases holds_of_lacks lacks cwd p bytes with same | missing
      · rw [same, held]
        exact ⟨d', v, false, rfl, mode, lacks⟩
      · rw [missing]
        dsimp only
        split
        · exact ⟨d', _, true, rfl, mode, lacks⟩
        · obtain ⟨e', written, related⟩ := writeThrough_present lacks held
          rw [written]
          exact ⟨e', _, true, rfl, mode, related⟩
    · rename_i other
      have other' : holds d' cwd p bytes = .ok false := by
        rcases holds_of_lacks lacks cwd p bytes with same | missing
        · rw [same, other]
        · exact missing
      rw [other']
      dsimp only at updated ⊢
      by_cases dry : w.dryRun = true
      · rw [if_pos dry] at updated
        cases updated
        rw [if_pos (mode.trans dry)]
        exact ⟨d', _, true, rfl, mode, lacks⟩
      · rw [if_neg dry] at updated
        rw [if_neg (by rwa [mode])]
        split at updated
        · cases updated
        · rename_i after written
          cases updated
          obtain ⟨e', written', related⟩ := writeThrough_of_lacks lacks written
          rw [written']
          exact ⟨e', _, true, rfl, mode, related⟩

end Lacking

/-- Files that can be brought to their texts on a disk can be where some of its files are missing. -/
theorem updateAll_of_lacks {targets : List (List Text)} {d d' e : Disk} (lacks : Lacks targets d d') {w v w' : Writer}
    {cwd : List Text} {files : List (Path × Text)} (mode : v.dryRun = w.dryRun)
    (updated : w.updateAll d cwd files = (e, .ok w')) : ∃ e' v', v.updateAll d' cwd files = (e', .ok v') := by
  induction files generalizing d d' w v with
  | nil => exact ⟨d', v, rfl⟩
  | cons x files ih =>
    obtain ⟨p, text⟩ := x
    unfold updateAll at updated
    split at updated
    · cases updated
    · rename_i between w₁ changed first
      obtain ⟨between', v₁, changed', first', mode', related⟩ := update_of_lacks lacks mode first
      rw [updateAll, first']
      exact ih related mode' updated

end RouteScript.Writer
