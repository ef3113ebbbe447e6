import RouteScript.Pattern.Glob
import RouteScript.Pattern.RegexReader

/-!
# File patterns

An entry of an include or exclude list is taken both as a wildcard pattern and, where it is one, as a
regular expression. It also matches its own text.
-/

namespace RouteScript

structure FilePattern where
  raw : Text
  regex : Option Regex
  deriving Inhabited

inductive PatternFault where
  | repetitionTooLarge
  | conflictingOptions
  deriving DecidableEq, Repr

def PatternFault.message : PatternFault → Text
  | .repetitionTooLarge => "the repetition number is too large"
  | .conflictingOptions => "ASCII and UNICODE flags are incompatible"

namespace FilePattern

def ofText (raw : Text) : Except PatternFault FilePattern :=
  match Regex.read raw with
  | .ok r => .ok ⟨raw, some r⟩
  | .error .malformed => .ok ⟨raw, none⟩
  | .error .repetitionTooLarge => .error .repetitionTooLarge
  | .error .conflictingOptions => .error .conflictingOptions

def matchesName (p : FilePattern) (name : Text) : Bool :=
  name = p.raw || Glob.matchesText p.raw name || p.regex.any (·.matchesText name)

def matchesAny (p : FilePattern) (names : List Text) : Bool := names.any p.matchesName

/-- The entries of comma separated lists, without the blanks around them and without blank ones. -/
def entries (lists : List Text) : List Text :=
  (lists.flatMap (Text.parts (.char ','))).map Text.strip |>.filter (· ≠ [])

def compile (lists : List Text) : Except PatternFault (List FilePattern) :=
  (entries lists).mapM ofText

end FilePattern

end RouteScript
