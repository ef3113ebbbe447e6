import RouteScript.Number.Numeral
import RouteScript.Pattern.Regex
import RouteScript.Text.Identifier

/-!
# Reading regular expressions

`Regex.read` reads the text of a regular expression. A text that is none is refused, and so are a
repetition that counts beyond the largest number of rounds and options that contradict each other.
-/

namespace RouteScript

inductive RegexFault where
  | malformed
  | repetitionTooLarge
  | conflictingOptions
  deriving DecidableEq, Repr

namespace Regex

inductive Mark where
  | plain (c : CodePoint)
  | escaped (c : CodePoint)
  deriving DecidableEq, Repr

def marks? : Text → Option (List Mark)
  | [] => some []
  | [c] => if c = .char '\\' then none else some [.plain c]
  | c :: d :: t =>
    if c = .char '\\' then (marks? t).map (.escaped d :: ·) else (marks? (d :: t)).map (.plain c :: ·)

/-- What is left to read and what was found so far: the options of the whole expression, the groups
and their names, the number of groups before the lookbehind that is being read, the groups that
conditions ask for, the letters of the options, and whether a lookbehind has no fixed size and
whether anything is repeated. -/
structure Reading where
  rest : List Mark
  flags : RegexFlags
  groupCount : Nat
  closed : List (Nat × Nat × Nat)
  names : List (Text × Nat)
  lookbehindGroups : Option Nat
  conditions : List Nat
  asked : List CodePoint
  unsized : Bool
  repeats : Bool

abbrev Reader := StateT Reading (Except RegexFault)

namespace Reader

def refuse {α : Type} : Reader α := throw .malformed

def peek : Reader (Option Mark) := return (← get).rest.head?

def next? : Reader (Option Mark) := do
  let s ← get
  set { s with rest := s.rest.tail }
  return s.rest.head?

def next : Reader Mark := do
  match ← next? with
  | some m => return m
  | none => refuse

def accept (c : Char) : Reader Bool := do
  if (← peek) = some (.plain (.char c)) then
    let _ ← next?
    return true
  else return false

def takeWhile (limit : Nat) (p : CodePoint → Bool) : Reader (List CodePoint) := do
  let s ← get
  let taken := (s.rest.take limit).map (fun | .plain c => if p c then some c else none | _ => none)
    |>.takeWhile Option.isSome |>.filterMap id
  set { s with rest := s.rest.drop taken.length }
  return taken

def name (stop : Char) : Reader Text := do
  let s ← get
  let before := s.rest.takeWhile (· ≠ .plain (.char stop))
  if before = [] ∨ before.length = s.rest.length then refuse
  else
    set { s with rest := s.rest.drop (before.length + 1) }
    return before.flatMap fun | .plain c => [c] | .escaped c => [.char '\\', c]

def hexNumber (count : Nat) : Reader Nat := do
  let digits ← takeWhile count fun c => c.hexValue?.isSome
  if digits.length ≠ count then refuse
  else return (digits.filterMap CodePoint.hexValue?).foldl (fun n d => n * 16 + d) 0

def checkReference (index : Nat) : Reader Unit := do
  let s ← get
  if (s.closed.lookup index).isNone then refuse
  else match s.lookbehindGroups with
    | some count => if count ≤ index then refuse
    | none => pure ()

end Reader

open Reader

def single (flags : RegexFlags) (n : Nat) : Regex := .oneOf flags false [.range n n]

def controlEscape? : Char → Option Nat
  | 'a' => some 7
  | 'f' => some 12
  | 'n' => some 10
  | 'r' => some 13
  | 't' => some 9
  | 'v' => some 11
  | '\\' => some 92
  | _ => none

def categoryEscape? : Char → Option ClassItem
  | 'd' => some (.category .digit false)
  | 'D' => some (.category .digit true)
  | 's' => some (.category .blank false)
  | 'S' => some (.category .blank true)
  | 'w' => some (.category .word false)
  | 'W' => some (.category .word true)
  | _ => none

def anchorEscape? : Char → Option Anchor
  | 'A' => some .textStart
  | 'b' => some .boundary
  | 'B' => some .notBoundary
  | 'Z' => some .textEnd
  | _ => none

def numberedEscape (c : Char) : Reader (Option Nat) := do
  match c with
  | 'x' => return some (← hexNumber 2)
  | 'u' => return some (← hexNumber 4)
  | 'U' =>
    let n ← hexNumber 8
    if n < 0x110000 then return some n else refuse
  | _ => return none

def selfEscape (c : CodePoint) : Reader Nat :=
  if c.isAsciiLetter || c.isAsciiDigit then refuse else return c.toNat

def octalNumber (digits : List CodePoint) : Nat :=
  (digits.filterMap CodePoint.octalValue?).foldl (fun n d => n * 8 + d) 0

def isOctal (c : CodePoint) : Bool := c.octalValue?.isSome

def classEscape (c : CodePoint) : Reader ClassItem := do
  match c with
  | .surrogate _ => return .range c.toNat c.toNat
  | .char ch =>
    if ch = 'b' then return .range 8 8
    else if let some n := controlEscape? ch then return .range n n
    else if let some item := categoryEscape? ch then return item
    else if let some n := ← numberedEscape ch then return .range n n
    else if isOctal c then
      let n := octalNumber (c :: (← takeWhile 2 isOctal))
      if n ≤ 255 then return .range n n else refuse
    else
      let n ← selfEscape c
      return .range n n

def digitEscape (flags : RegexFlags) (c : CodePoint) : Reader Regex := do
  let second ← takeWhile 1 CodePoint.isAsciiDigit
  let digits := c :: second
  let third ←
    if digits.length = 2 ∧ digits.all isOctal then takeWhile 1 isOctal else pure []
  if third ≠ [] then
    let n := octalNumber (digits ++ third)
    if n ≤ 255 then return single flags n else refuse
  else
    let index := (digits.map fun d => d.toNat - 0x30).foldl (fun n d => n * 10 + d) 0
    checkReference index
    return .reference flags index

def escape (flags : RegexFlags) (c : CodePoint) : Reader Regex := do
  match c with
  | .surrogate _ => return single flags c.toNat
  | .char ch =>
    if let some place := anchorEscape? ch then return .anchor flags place
    else if let some item := categoryEscape? ch then return .oneOf flags false [item]
    else if let some n := controlEscape? ch then return single flags n
    else if let some n := ← numberedEscape ch then return single flags n
    else if ch = '0' then return single flags (octalNumber (← takeWhile 2 isOctal))
    else if c.isAsciiDigit then digitEscape flags c
    else return single flags (← selfEscape c)

/-! ### Sets -/

def classMember : Mark → Reader ClassItem
  | .plain c => return .range c.toNat c.toNat
  | .escaped c => classEscape c

def classRange : ClassItem → ClassItem → Reader ClassItem
  | .range a _, .range b _ => if b < a then refuse else return .range a b
  | _, _ => refuse

/-- The members up to the closing bracket, which is a member itself when it comes first. -/
def classItems : Nat → List ClassItem → Reader (List ClassItem)
  | 0, _ => refuse
  | fuel + 1, items => do
    let m ← next
    if m = .plain (.char ']') ∧ items ≠ [] then return items
    else
      let first ← classMember m
      if ← accept '-' then
        let m' ← next
        if m' = .plain (.char ']') then return items ++ [first, .range 0x2D 0x2D]
        else
          let last ← classMember m'
          classItems fuel (items ++ [← classRange first last])
      else classItems fuel (items ++ [first])

def readClass (fuel : Nat) (flags : RegexFlags) : Reader Regex := do
  let negated ← accept '^'
  return .oneOf flags negated (← classItems fuel [])

/-! ### Repetition -/

def maxRounds : Nat := 4294967295

def roundCount (digits : List CodePoint) : Reader (Option Nat) :=
  if digits = [] then return none
  else
    let n := (digits.map fun d => d.toNat - 0x30).foldl (fun n d => n * 10 + d) 0
    if maxRounds ≤ n then throw .repetitionTooLarge else return some n

/-- The bounds after an opening brace, or none when it is no repetition and stands for itself. -/
def readBounds : Reader (Option (Nat × Option Nat)) := do
  let s ← get
  let everything := s.rest.length
  if (← peek) = some (.plain (.char '}')) then return none
  else
    let low ← takeWhile everything CodePoint.isAsciiDigit
    let high ← if ← accept ',' then takeWhile everything CodePoint.isAsciiDigit else pure low
    if ← accept '}' then
      let least := (← roundCount low).getD 0
      match ← roundCount high with
      | none => return some (least, none)
      | some most => if most < least then refuse else return some (least, some most)
    else
      set s
      return none

def boundsOf (sign : Char) : Reader (Option (Nat × Option Nat)) :=
  match sign with
  | '?' => return some (0, some 1)
  | '*' => return some (0, none)
  | '+' => return some (1, none)
  | _ => readBounds

def isRepeatable : Regex → Bool
  | .anchor .. | .rounds .. => false
  | _ => true

def readMode : Reader RepeatMode := do
  if ← accept '?' then return .reluctant
  else if ← accept '+' then return .possessive
  else return .greedy

/-! ### Options -/

/-- The option of a letter, as a change of the options. The letter `t` changes nothing, but forbids
repetition. -/
def flagChange? (value : Bool) : CodePoint → Option (RegexFlags → RegexFlags)
  | .char 'i' => some fun f => { f with ignoreCase := value }
  | .char 'm' => some fun f => { f with multiline := value }
  | .char 's' => some fun f => { f with dotAll := value }
  | .char 'x' => some fun f => { f with verbose := value }
  | .char 'a' => some fun f => { f with ascii := value }
  | .char 'u' => some fun f => { f with ascii := f.ascii && !value }
  | .char 't' => some id
  | _ => none

def flagLetters : Nat → Reader (List CodePoint × Mark)
  | 0 => refuse
  | fuel + 1 => do
    let m ← next
    match m with
    | .plain c =>
      if (flagChange? true c).isSome then
        let (more, stop) ← flagLetters fuel
        return (c :: more, stop)
      else return ([], m)
    | .escaped _ => refuse

def changeFlags (value : Bool) (letters : List CodePoint) (f : RegexFlags) : RegexFlags :=
  letters.foldl (fun f c => ((flagChange? value c).getD id) f) f

/-- Options after `(?`: for the whole expression, or the changed options for a group. `first` is the
letter or the minus that was read. -/
def readFlags (fuel : Nat) (first : CodePoint) (flags : RegexFlags) :
    Reader (Option RegexFlags) := do
  let (on, stop) ←
    if first = .char '-' then pure ([], Mark.plain (.char '-'))
    else
      let (more, stop) ← flagLetters fuel
      pure (first :: more, stop)
  if on.contains (.char 'a') && on.contains (.char 'u') then refuse
  else if stop = .plain (.char ')') then
    modify fun s => { s with flags := changeFlags true on s.flags, asked := on ++ s.asked }
    return none
  else if on.contains (.char 't') then refuse
  else if stop = .plain (.char ':') then return some (changeFlags true on flags)
  else if stop = .plain (.char '-') then
    let (off, stop) ← flagLetters fuel
    if off = [] ∨ stop ≠ .plain (.char ':') then refuse
    else if off.any fun c => c = .char 'a' || c = .char 'u' || c = .char 't' || on.contains c then
      refuse
    else return some (changeFlags false off (changeFlags true on flags))
  else refuse

/-! ### Groups -/

def openGroup (groupName : Option Text) : Reader Nat := do
  let s : Reading ← get
  let index := s.groupCount + 1
  match groupName with
  | some n =>
    if (s.names.lookup n).isSome then refuse
    else set { s with groupCount := index, names := (n, index) :: s.names }
  | none => set { s with groupCount := index }
  return index

def closeGroup (index : Nat) (body : Regex) : Reader Unit :=
  modify fun s => { s with closed := (index, body.width s.closed) :: s.closed }

def closeParenthesis : Reader Unit := do
  if ← accept ')' then pure () else refuse

def skipComment : Reader Unit := do
  let s : Reading ← get
  let before := s.rest.takeWhile (· ≠ .plain (.char ')'))
  if before.length = s.rest.length then refuse
  else set { s with rest := s.rest.drop (before.length + 1) }

def skipLine : Reader Unit :=
  modify fun s =>
    { s with rest := s.rest.drop ((s.rest.takeWhile (· ≠ .plain (.char '\n'))).length + 1) }

def groupName (stop : Char) : Reader Text := do
  let n ← name stop
  if Text.isIdentifier n then return n else refuse

/-- Without the underscores that stand between two digits. -/
def ungrouped : Text → Text
  | c :: d :: t =>
    if d = .char '_' ∧ c.isDigit ∧ t.head?.any CodePoint.isDigit then c :: ungrouped t
    else c :: ungrouped (d :: t)
  | t => t

/-- The group that a condition asks for, by its name or by a numeral. -/
def conditionIndex : Reader Nat := do
  let n ← name ')'
  let s : Reading ← get
  if Text.isIdentifier n then
    match s.names.lookup n with
    | some index => return index
    | none => refuse
  else
    match Numeral.integer 10 (ungrouped n) with
    | .ok (.ofNat (index + 1)) =>
      set { s with conditions := (index + 1) :: s.conditions }
      return index + 1
    | _ => refuse

def checkCondition (index : Nat) : Reader Unit := do
  if (← get).lookbehindGroups.isSome then checkReference index

def isVerboseBlank (c : CodePoint) : Bool := inRanges [(0x09, 0x0D), (0x20, 0x20)] c.toNat

def concat (items : List Regex) : Regex := items.foldr .seq .empty

mutual

def alternatives : Nat → Bool → RegexFlags → Bool → Reader Regex
  | 0, _, _, _ => refuse
  | fuel + 1, nested, flags, first => do
    let r ← items fuel (first && !nested) flags []
    if ← accept '|' then
      let whole := (← get).flags
      return .alt r (← alternatives fuel nested (if nested then flags else whole) false)
    else return r

/-- Items one after another; `done` are those before, the last one first. `start` says that options
for the whole expression may come here. -/
def items : Nat → Bool → RegexFlags → List Regex → Reader Regex
  | 0, _, _, _ => refuse
  | fuel + 1, start, flags, done => do
    match ← peek with
    | none => return concat done.reverse
    | some (.escaped c) =>
      let _ ← next?
      let r ← escape flags c
      items fuel start flags (r :: done)
    | some (.plain c) =>
      if c = .char '|' ∨ c = .char ')' then return concat done.reverse
      else
        let _ ← next?
        if flags.verbose && isVerboseBlank c then items fuel start flags done
        else if flags.verbose && c = .char '#' then
          skipLine
          items fuel start flags done
        else
          match c with
          | .char '[' =>
            let r ← readClass fuel flags
            items fuel start flags (r :: done)
          | .char '.' => items fuel start flags (.any flags.dotAll :: done)
          | .char '^' => items fuel start flags (.anchor flags .beginning :: done)
          | .char '$' => items fuel start flags (.anchor flags .ending :: done)
          | .char '(' => parenthesis fuel start flags done
          | .char ch =>
            if ch = '?' ∨ ch = '*' ∨ ch = '+' ∨ ch = '{' then
              match ← boundsOf ch with
              | none => items fuel start flags (single flags c.toNat :: done)
              | some (least, most) =>
                match done with
                | [] => refuse
                | r :: before =>
                  if isRepeatable r then
                    let mode ← readMode
                    modify fun s => { s with repeats := true }
                    items fuel start flags (.rounds least most mode r :: before)
                  else refuse
            else items fuel start flags (single flags c.toNat :: done)
          | c => items fuel start flags (single flags c.toNat :: done)

def parenthesis : Nat → Bool → RegexFlags → List Regex → Reader Regex
  | 0, _, _, _ => refuse
  | fuel + 1, start, flags, done => do
    if ← accept '?' then
      let m ← next
      match m with
      | .escaped _ => refuse
      | .plain (.surrogate _) => refuse
      | .plain (.char ch) =>
        match ch with
        | 'P' =>
          if ← accept '<' then
            let n ← groupName '>'
            let r ← capture fuel flags (some n)
            items fuel start flags (r :: done)
          else if ← accept '=' then
            let n ← groupName ')'
            match (← get).names.lookup n with
            | none => refuse
            | some index =>
              checkReference index
              items fuel start flags (.reference flags index :: done)
          else refuse
        | ':' =>
          let r ← alternatives fuel true flags false
          closeParenthesis
          items fuel start flags (.group none r :: done)
        | '>' =>
          let r ← alternatives fuel true flags false
          closeParenthesis
          items fuel start flags (.atomic r :: done)
        | '#' =>
          skipComment
          items fuel start flags done
        | '=' => do
          let r ← alternatives fuel true flags false
          closeParenthesis
          items fuel start flags (.look none false r :: done)
        | '!' => do
          let r ← alternatives fuel true flags false
          closeParenthesis
          items fuel start flags (.look none true r :: done)
        | '<' =>
          let r ← lookbehind fuel flags
          items fuel start flags (r :: done)
        | '(' =>
          let index ← conditionIndex
          checkCondition index
          let yes ← items fuel false flags []
          let no ← if ← accept '|' then items fuel false flags [] else pure .empty
          closeParenthesis
          items fuel start flags (.choice index yes no :: done)
        | ch =>
          if (flagChange? true (.char ch)).isSome || ch = '-' then
            match ← readFlags fuel (.char ch) flags with
            | none =>
              if start && done.isEmpty then items fuel start (← get).flags done else refuse
            | some inner =>
              let r ← alternatives fuel true inner false
              closeParenthesis
              items fuel start flags (.group none r :: done)
          else refuse
    else
      let r ← capture fuel flags none
      items fuel start flags (r :: done)

def capture : Nat → RegexFlags → Option Text → Reader Regex
  | 0, _, _ => refuse
  | fuel + 1, flags, n => do
    let index ← openGroup n
    let body ← alternatives fuel true flags false
    closeParenthesis
    closeGroup index body
    return .group (some index) body

def lookbehind : Nat → RegexFlags → Reader Regex
  | 0, _ => refuse
  | fuel + 1, flags => do
    let m ← next
    if m ≠ .plain (.char '=') ∧ m ≠ .plain (.char '!') then refuse
    else
      let outer := (← get).lookbehindGroups
      modify fun s => { s with lookbehindGroups := some (outer.getD (s.groupCount + 1)) }
      let body ← alternatives fuel true flags false
      modify fun s => { s with lookbehindGroups := outer }
      closeParenthesis
      let (lo, hi) := body.width (← get).closed
      if lo ≠ hi then modify fun s => { s with unsized := true }
      return .look (some lo) (m = .plain (.char '!')) body

end

def readWhole (fuel : Nat) : Reader Regex := do
  let r ← alternatives fuel false (← get).flags true
  let s ← get
  if s.asked.contains (.char 'a') && s.asked.contains (.char 'u') then throw .conflictingOptions
  else if s.rest ≠ [] ∨ s.unsized ∨ s.conditions.any (s.groupCount < ·) then refuse
  else if s.repeats && s.asked.contains (.char 't') then refuse
  else return r

def read (t : Text) : Except RegexFault Regex :=
  match marks? t with
  | none => .error .malformed
  | some ms =>
    let flags : RegexFlags := ⟨false, false, false, false, false⟩
    (readWhole (4 * ms.length + 8)).run' ⟨ms, flags, 0, [], [], none, [], [], false, false⟩

end Regex

end RouteScript
