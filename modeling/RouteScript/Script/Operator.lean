import RouteScript.Text.CodePoint

/-!
# Operators of predicates

Each operator has a spelling, the name of the helper that decides it and a flag that says whether the
helper's answer is negated.
-/

namespace RouteScript.Script

inductive Logical where
  | and
  | or
  deriving DecidableEq, Repr

inductive Operator where
  | equal
  | notEqual
  | equalIgnoreCase
  | notEqualIgnoreCase
  | greater
  | greaterOrEqual
  | less
  | lessOrEqual
  | contains
  | notContains
  | containsIgnoreCase
  | notContainsIgnoreCase
  | regex
  | notRegex
  | inList
  | notInList
  | range
  | notRange
  | startsWith
  | startsWithApart
  | notStartsWith
  | endsWith
  | endsWithApart
  | notEndsWith
  | isType
  | isNotType
  deriving DecidableEq, Repr

def Logical.spelling : Logical → Text
  | .and => "&&"
  | .or => "||"

namespace Operator

def spelling : Operator → Text
  | .equal => "=="
  | .notEqual => "!="
  | .equalIgnoreCase => "=~"
  | .notEqualIgnoreCase => "!=~"
  | .greater => ">"
  | .greaterOrEqual => ">="
  | .less => "<"
  | .lessOrEqual => "<="
  | .contains => "contains"
  | .notContains => "!contains"
  | .containsIgnoreCase => "~~"
  | .notContainsIgnoreCase => "!~~"
  | .regex => "regex"
  | .notRegex => "!regex"
  | .inList => "in"
  | .notInList => "!in"
  | .range => "range"
  | .notRange => "!range"
  | .startsWith => "startsWith"
  | .startsWithApart => "starts with"
  | .notStartsWith => "!startsWith"
  | .endsWith => "endsWith"
  | .endsWithApart => "ends with"
  | .notEndsWith => "!endsWith"
  | .isType => "is"
  | .isNotType => "!is"

def helper : Operator → Text
  | .equal => "isEqualTo"
  | .notEqual => "isNotEqualTo"
  | .equalIgnoreCase => "isEqualToIgnoreCase"
  | .notEqualIgnoreCase => "isNotEqualToIgnoreCase"
  | .greater => "isGreaterThan"
  | .greaterOrEqual => "isGreaterThanOrEqualTo"
  | .less => "isLessThan"
  | .lessOrEqual => "isLessThanOrEqualTo"
  | .contains | .notContains => "contains"
  | .containsIgnoreCase | .notContainsIgnoreCase => "containsIgnoreCase"
  | .regex | .notRegex => "regexp"
  | .inList | .notInList => "in"
  | .range | .notRange => "range"
  | .startsWith | .startsWithApart | .notStartsWith => "startsWith"
  | .endsWith | .endsWithApart | .notEndsWith => "endsWith"
  | .isType | .isNotType => "is"

def isNegated : Operator → Bool
  | .notContains | .notContainsIgnoreCase | .notRegex | .notInList | .notRange | .notStartsWith
  | .notEndsWith | .isNotType => true
  -- `!=` and `!=~` have helpers of their own.
  | _ => false

def takesType : Operator → Bool
  | .isType | .isNotType => true
  | _ => false

/-- Operators written in symbols. One that begins another stands after it. -/
def symbols : List Operator :=
  [.notEqualIgnoreCase, .notContainsIgnoreCase, .equal, .equalIgnoreCase, .notEqual, .greaterOrEqual,
    .lessOrEqual, .containsIgnoreCase, .greater, .less]

def words : List Operator :=
  [.notContains, .contains, .notRegex, .regex, .notRange, .range, .notStartsWith, .startsWith,
    .notEndsWith, .endsWith, .notInList, .inList, .isNotType, .isType]

end Operator

end RouteScript.Script
