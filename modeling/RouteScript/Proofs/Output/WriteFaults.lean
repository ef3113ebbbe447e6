import RouteScript.Proofs.Files.PathFaults
import RouteScript.Proofs.Output.Writing

/-!
# Why writing fails

A file that is not written has a text without an encoding or a name that the system does not take, or the system
refused to write it (`updateAll_error`).
-/

namespace RouteScript.Writer

/-- Why bringing the file at `p` to the text fails. In a dry run no name is given to the system. -/
inductive Fails (dryRun : Bool) (p : Path) (text : Text) : WriteFault → Prop
  | content (fault : SurrogateFault) (unencodable : text.toUtf8 = .error fault) : Fails dryRun p text (.noContent fault)
  | refusal (fault : FileFault) : Fails dryRun p text (.blocked p fault)
  | name (fault reason : FileFault) (wet : dryRun = false) (unnamed : p.checkName = .error reason) :
      Fails dryRun p text (.noName fault)

theorem writeThrough_isRefusal {d d' : Disk} {cwd : List Text} {p : Path} {bytes : Bytes} {fault : FileFault}
    (named : p.checkName = .ok ()) (failed : writeThrough d cwd p bytes = (d', .error fault)) : fault.IsRefusal := by
  unfold writeThrough at failed
  split at failed
  · rename_i made above
    cases failed
    exact Disk.makeDirectories_isRefusal (Path.checkName_parent named) above
  · split at failed
    · cases failed
    · rename_i wrote
      cases failed
      exact Disk.write_isRefusal named wrote

theorem fails_ofFile {dryRun : Bool} {p : Path} {text : Text} {fault : FileFault}
    (unrefused : ¬fault.IsRefusal → dryRun = false ∧ ∃ reason, p.checkName = .error reason) :
    Fails dryRun p text (.ofFile p fault) := by
  cases fault with
  | refused code q => exact .refusal (.refused code q)
  | nullByte =>
    obtain ⟨wet, reason, unnamed⟩ := unrefused (by simp [FileFault.IsRefusal])
    exact .name .nullByte reason wet unnamed
  | unencodable surrogates =>
    obtain ⟨wet, reason, unnamed⟩ := unrefused (by simp [FileFault.IsRefusal])
    exact .name (.unencodable surrogates) reason wet unnamed

theorem update_error {w : Writer} {d d' : Disk} {cwd : List Text} {p : Path} {text : Text} {fault : WriteFault}
    (failed : w.update d cwd p text = (d', .error fault)) : Fails w.dryRun p text fault := by
  unfold update at failed
  split at failed
  · rename_i surrogates unencodable
    cases failed
    exact .content surrogates unencodable
  · rename_i bytes encoded
    split at failed
    · rename_i refused asked
      cases failed
      refine fails_ofFile fun unrefused => absurd ?_ unrefused
      rcases Fallible.bind_error asked with asked | ⟨_, _, impossible⟩
      · exact ⟨_, _, (Disk.inspect_hasLongName asked).1⟩
      · cases impossible
    · cases failed
    · dsimp only at failed
      split at failed
      · cases failed
      · rename_i wet
        split at failed
        · rename_i after refused written
          cases failed
          refine fails_ofFile fun unrefused => ⟨by simpa using wet, ?_⟩
          cases named : p.checkName with
          | ok _ => exact absurd (writeThrough_isRefusal named written) unrefused
          | error reason => exact ⟨reason, rfl⟩
        · cases failed

end RouteScript.Writer
