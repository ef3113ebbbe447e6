import RouteScript.Text.Lines
import RouteScript.Yaml.Value

/-!
# What settings make of values

A setting takes the values that make sense for it and passes over all others.
-/

namespace RouteScript

structure UnwritableInteger where
  deriving DecidableEq, Repr

def UnwritableInteger.message : UnwritableInteger → Text := fun _ =>
  "Exceeds the limit (" ++ Text.ofNat maxIntegerDigits ++
    " digits) for integer string conversion; use sys.set_int_max_str_digits() to increase the limit"

def writeInteger (n : Int) : Except UnwritableInteger Text :=
  if maxIntegerDigits < (Nat.toDigits 10 n.natAbs).length then .error ⟨⟩ else .ok (Text.ofInt n)

namespace SettingValue

open Yaml

def text? : Value → Except UnwritableInteger (Option Text)
  | .text t => .ok (some t)
  | .integer n => (writeInteger n).map some
  | .real x => .ok (some x.toText)
  | _ => .ok none

/-- The text of an item in a list, which can also be a truth value. -/
def itemText? : Value → Except UnwritableInteger (Option Text)
  | .boolean b => .ok (some (if b then "True" else "False"))
  | v => text? v

def boolean? : Value → Option Bool
  | .boolean b => some b
  | .text t =>
    let word := Text.asciiLower t.strip
    if word = "true" ∨ word = "yes" ∨ word = "1" then some true
    else if word = "false" ∨ word = "no" ∨ word = "0" then some false
    else none
  | _ => none

def texts : Value → Except UnwritableInteger (List Text)
  | .text t => .ok [t]
  | .sequence items => return (← items.mapM itemText?).filterMap id
  | .binary bytes => .ok (bytes.map fun b => Text.ofNat b.toNat)
  | _ => .ok []

/-- The parts between commas, without the blanks around them and without empty ones. -/
def commaParts (t : Text) : List Text :=
  ((Text.parts (.char ',') t).map Text.strip).filter (· ≠ [])

def patterns (v : Value) : Except UnwritableInteger (List Text) :=
  return (← texts v).flatMap commaParts

end SettingValue

end RouteScript
