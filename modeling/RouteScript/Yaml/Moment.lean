import RouteScript.Yaml.Cursor

/-!
# Dates and times

A date, or a date with a time of day and perhaps the distance of the place from Greenwich.
-/

namespace RouteScript.Yaml

/-- A time of day and the distance from Greenwich in minutes, west when it is negative. -/
structure TimeOfDay where
  hour : Nat
  minute : Nat
  second : Nat
  offset : Option (Bool × Nat)
  deriving DecidableEq, Repr

/-- A date as it is written, and whether month and day have two digits each. -/
structure Moment where
  year : Nat
  month : Nat
  day : Nat
  isFull : Bool
  time : Option TimeOfDay
  deriving DecidableEq, Repr

namespace Moment

def number? (least most : Nat) (t : Text) : Option (Nat × Nat × Text) :=
  let digits := (t.takeWhile CodePoint.isAsciiDigit).take most
  if digits.length < least then none
  else some (digits.foldl (fun n c => 10 * n + (c.toNat - 0x30)) 0, digits.length,
    t.drop digits.length)

def sign? (c : Char) : Text → Option Text
  | x :: t => if x = .char c then some t else none
  | [] => none

def withoutFraction : Text → Text
  | .char '.' :: t => t.dropWhile CodePoint.isAsciiDigit
  | t => t

def distance? (t : Text) : Option Nat := do
  let (hours, _, t) ← number? 1 2 t
  if t = [] then return 60 * hours
  let (minutes, _, t) ← number? 2 2 (← sign? ':' t)
  if t = [] then return 60 * hours + minutes else failure

def offset? (t : Text) : Option (Option (Bool × Nat)) :=
  if t = [] then some none
  else
    match t.dropWhile isTabOrSpace with
    | [.char 'Z'] => some none
    | .char '-' :: t => (distance? t).map fun n => some (true, n)
    | .char '+' :: t => (distance? t).map fun n => some (false, n)
    | _ => none

def time? (t : Text) : Option TimeOfDay := do
  let t ← match t with
    | .char 'T' :: t | .char 't' :: t => some t
    | _ => if t.head?.any isTabOrSpace then some (t.dropWhile isTabOrSpace) else none
  let (hour, _, t) ← number? 1 2 t
  let (minute, _, t) ← number? 2 2 (← sign? ':' t)
  let (second, _, t) ← number? 2 2 (← sign? ':' t)
  return ⟨hour, minute, second, ← offset? (withoutFraction t)⟩

def ofText? (t : Text) : Option Moment := do
  let (year, _, t) ← number? 4 4 t
  let (month, m, t) ← number? 1 2 (← sign? '-' t)
  let (day, d, t) ← number? 1 2 (← sign? '-' t)
  let isFull := m = 2 && d = 2
  if t = [] then return ⟨year, month, day, isFull, none⟩
  return ⟨year, month, day, isFull, some (← time? t)⟩

def isLeap (year : Nat) : Bool := (year % 4 = 0 && year % 100 ≠ 0) || year % 400 = 0

def daysOf (year month : Nat) : Nat :=
  if month = 2 then (if isLeap year then 29 else 28)
  else if [4, 6, 9, 11].contains month then 30
  else 31

def checkDate (m : Moment) : Except MomentFault Unit :=
  if m.year = 0 then .error (.year m.year)
  else if m.month = 0 || 12 < m.month then .error .month
  else if m.day = 0 || daysOf m.year m.month < m.day then .error .day
  else .ok ()

def checkTime (t : TimeOfDay) : Except MomentFault Unit :=
  if 23 < t.hour then .error .hour
  else if 59 < t.minute then .error .minute
  else if 59 < t.second then .error .second
  else .ok ()

/-- There is such a moment. The distance is looked at first. -/
def check (m : Moment) : Except MomentFault Unit := do
  if let some ⟨_, _, _, some (negative, minutes)⟩ := m.time then
    if 1440 ≤ minutes then throw (.offset negative minutes)
  m.checkDate
  if let some t := m.time then checkTime t

end Moment

end RouteScript.Yaml
