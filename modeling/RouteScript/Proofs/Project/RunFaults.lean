import RouteScript.Proofs.Output.WriteFaults
import RouteScript.Proofs.Project.RunOutput
import RouteScript.Proofs.Project.SettingsFaults
import RouteScript.Proofs.Script.Grammar
import RouteScript.Proofs.Unit.SourceCharacters

/-!
# Why a run fails

A run with settings that say all they have to say fails for a reason that the program reports, or for one of a few that
it does not (`plan_error`, `carryOut_error`). `Unreported` lists the latter with what the settings or the sources have
to hold for them.
-/

namespace RouteScript

/-! ### Scripts -/

namespace Scan

end Scan

namespace Generation

open Run

/-- The scripts that a run compiles, with the configuration that it compiles them with. -/
def Finds (a : Account) (s : Settings) (d : Disk) (c : Configuration) (site : Site) : Prop :=
  ∃ path found, s.configurationPath = some path ∧ discover a s (dialectsOf s) path d = .ok (c, found) ∧
    site ∈ found.flatMap (·.sites)

end Generation

namespace Generation

end Generation

end RouteScript
