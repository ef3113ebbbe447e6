import RouteScript.Files.Disk

/-!
# The account

The account that the program runs under: the directory it works in and the home directories that a
path can begin with.
-/

namespace RouteScript

/-- The working directory, the own home directory and those of the users by name. -/
structure Account where
  cwd : List Text
  home : Path
  users : List (Text × Path)
  deriving Repr, Inhabited

/-- Why a home directory is unknown: it is nobody's, or the name cannot be asked for. -/
inductive UnknownHome where
  | nobody
  | unaskable (fault : FileFault)
  deriving DecidableEq, Repr

def UnknownHome.message : UnknownHome → Text
  | .nobody => "Could not determine home directory."
  | .unaskable fault => fault.message

/-- The user whose home directory a path begins with, and the names after it. -/
def Path.home? (p : Path) : Option (Text × List Text) :=
  match p.isAbsolute, p.names with
  | false, (.char '~' :: user) :: rest => some (user, rest)
  | _, _ => none

namespace Account

/-- The users in the lines of a table of users, whose first part is the name and whose sixth is the
home directory. -/
def usersOf (table : List Text) : List (Text × Path) :=
  table.filterMap fun line =>
    match Text.parts (.char ':') line with
    | user :: _ :: _ :: _ :: _ :: home :: _ => some (user, .ofText home)
    | _ => none

/-- The home directory that the first name of a path asks for: the own one after a lone tilde, that
of a user after a tilde with the user's name. -/
def homeOf (a : Account) (user : Text) : Except UnknownHome Path :=
  if user = [] then .ok a.home
  else do
    (Path.checkName ⟨0, [user]⟩).mapError .unaskable
    match a.users.lookup user with
    | some home => return home
    | none => throw .nobody

def expandHome (a : Account) (p : Path) : Except UnknownHome Path :=
  match p.home? with
  | some (user, rest) => do
    let home ← a.homeOf user
    -- A home directory that itself begins with a tilde is none.
    if home.home?.isSome then throw .nobody
    return { home with names := home.names ++ rest }
  | none => .ok p

end Account

end RouteScript
