import RouteScript.Text.LetterCase
import RouteScript.Text.Lines
import RouteScript.Text.WordCharacter

/-!
# Regular expressions

Regular expressions with groups, references, assertions and greedy, lazy and possessive repetition.
`Regex.run` gives the states that an expression can lead to, the preferred ones first, and
`Regex.matchesText` asks whether it can lead from the beginning of a text to its end.
-/

namespace RouteScript

structure RegexFlags where
  ignoreCase : Bool
  multiline : Bool
  dotAll : Bool
  verbose : Bool
  ascii : Bool
  deriving DecidableEq, Repr, Inhabited

inductive CharCategory where
  | digit
  | blank
  | word
  deriving DecidableEq, Repr

inductive ClassItem where
  | range (first last : Nat)
  | category (kind : CharCategory) (negated : Bool)
  deriving DecidableEq, Repr

inductive Anchor where
  | beginning
  | ending
  | textStart
  | textEnd
  | boundary
  | notBoundary
  deriving DecidableEq, Repr

inductive RepeatMode where
  | greedy
  | reluctant
  | possessive
  deriving DecidableEq, Repr

inductive Regex where
  | empty
  | any (dotAll : Bool)
  | oneOf (flags : RegexFlags) (negated : Bool) (items : List ClassItem)
  | anchor (flags : RegexFlags) (place : Anchor)
  | group (index : Option Nat) (body : Regex)
  | reference (flags : RegexFlags) (index : Nat)
  | look (behind : Option Nat) (negated : Bool) (body : Regex)
  | atomic (body : Regex)
  | rounds (least : Nat) (most : Option Nat) (mode : RepeatMode) (body : Regex)
  | choice (index : Nat) (whenSet whenUnset : Regex)
  | seq (first second : Regex)
  | alt (first second : Regex)
  deriving Repr, Inhabited

namespace CharCategory

def holds (ascii : Bool) (c : CodePoint) : CharCategory → Bool
  | .digit => if ascii then c.isAsciiDigit else c.isDigit
  | .blank => if ascii then inRanges [(0x09, 0x0D), (0x20, 0x20)] c.toNat else c.isBlank
  | .word =>
    if ascii then c.isAsciiDigit || c.isAsciiLetter || c = .char '_' else c.isWord

end CharCategory

def RegexFlags.variants (f : RegexFlags) (c : CodePoint) : List Nat :=
  if !f.ignoreCase then [c.toNat]
  else if f.ascii then
    if c.isAsciiLetter then [c.asciiLower.toNat, c.asciiLower.toNat - 0x20] else [c.toNat]
  else caseVariants c.toNat

def ClassItem.holds (f : RegexFlags) (c : CodePoint) : ClassItem → Bool
  | .range first last => (f.variants c).any fun n => decide (first ≤ n) && decide (n ≤ last)
  | .category kind negated => negated != kind.holds f.ascii c

namespace Regex

/-- How far a match has come and what the groups hold, as index, start and end. -/
structure State where
  position : Nat
  groups : List (Nat × Nat × Nat)
  deriving DecidableEq, Repr

def wordAt (ascii : Bool) (text : Array CodePoint) (i : Nat) : Bool :=
  (text[i]?).any (CharCategory.word.holds ascii)

def atPlace (f : RegexFlags) (text : Array CodePoint) (i : Nat) : Anchor → Bool
  | .beginning => i = 0 || (f.multiline && text[i - 1]? = some (.char '\n'))
  | .ending =>
    i = text.size || (text[i]? = some (.char '\n') && (f.multiline || i + 1 = text.size))
  | .textStart => i = 0
  | .textEnd => i = text.size
  | .boundary => text.size ≠ 0 && ((0 < i && wordAt f.ascii text (i - 1)) != wordAt f.ascii text i)
  | .notBoundary =>
    text.size ≠ 0 && ((0 < i && wordAt f.ascii text (i - 1)) == wordAt f.ascii text i)

def takeOne (text : Array CodePoint) (accept : CodePoint → Bool) (s : State) : List State :=
  match text[s.position]? with
  | some c => if accept c then [{ s with position := s.position + 1 }] else []
  | none => []

def takeAgain (f : RegexFlags) (text : Array CodePoint) (start stop : Nat) (s : State) : List State :=
  let length := stop - start
  let same (k : Nat) : Bool :=
    match text[start + k]?, text[s.position + k]? with
    | some a, some b => (f.variants b).contains a.toNat
    | _, _ => false
  if (List.range length).all same then [{ s with position := s.position + length }] else []

/-- The states after one more round from each of `states`, without those that came no further. -/
def nextRound (round : State → List State) (states : List State) : List State :=
  (states.flatMap fun s => (round s).filter fun s' => s'.position ≠ s.position).eraseDups

/-- The states after exactly `count` rounds. A round that comes no further is not repeated. -/
def exactly (round : State → List State) : Nat → Nat → List State → List State
  | 0, _, states => states
  | _, 0, states => states
  | fuel + 1, count + 1, states =>
    let after := (states.flatMap round).eraseDups
    let stuck := states.flatMap fun s => (round s).filter fun s' => s'.position = s.position
    (exactly round fuel count after ++ stuck).eraseDups

def further (round : State → List State) (most : Option Nat) :
    Nat → Nat → List State → List (List State)
  | 0, _, states => [states]
  | fuel + 1, count, states =>
    if states = [] then []
    else if most = some count then [states]
    else states :: further round most fuel (count + 1) (nextRound round states)

def run (text : Array CodePoint) : Regex → State → List State
  | .empty, s => [s]
  | .any dotAll, s => takeOne text (fun c => dotAll || c ≠ .char '\n') s
  | .oneOf flags negated items, s =>
    takeOne text (fun c => negated != items.any (ClassItem.holds flags c)) s
  | .anchor flags place, s => if atPlace flags text s.position place then [s] else []
  | .group none body, s => run text body s
  | .group (some index) body, s =>
    (run text body s).map fun s' =>
      { s' with groups := (index, s.position, s'.position) :: s'.groups.filter (·.1 ≠ index) }
  | .reference flags index, s =>
    match s.groups.lookup index with
    | some (start, stop) => takeAgain flags text start stop s
    | none => []
  | .look none negated body, s =>
    match run text body s with
    | [] => if negated then [s] else []
    | s' :: _ => if negated then [] else [{ s' with position := s.position }]
  | .look (some width) negated body, s =>
    if s.position < width then (if negated then [s] else [])
    else
      match run text body { s with position := s.position - width } with
      | [] => if negated then [s] else []
      | s' :: _ => if negated then [] else [{ s' with position := s.position }]
  | .atomic body, s => (run text body s).take 1
  | .rounds least most mode body, s =>
    let round := fun s' => run text body s'
    let start := exactly round (text.size + 2) least [s]
    -- The states after each further round. A greedy repetition prefers the last ones.
    let levels := further round (most.map (· - least)) (text.size + 2) 0 start
    match mode with
    | .greedy => levels.reverse.flatten.eraseDups
    | .reluctant => levels.flatten.eraseDups
    | .possessive => levels.reverse.flatten.take 1
  | .choice index whenSet whenUnset, s =>
    if (s.groups.lookup index).isSome then run text whenSet s else run text whenUnset s
  | .seq first second, s => ((run text first s).flatMap fun s' => run text second s').eraseDups
  | .alt first second, s => (run text first s ++ run text second s).eraseDups

def matchesText (r : Regex) (t : Text) : Bool :=
  let text := t.toArray
  (run text r ⟨0, []⟩).any fun s => s.position = text.size

/-- The bound up to which widths are measured. -/
def maxWidth : Nat := 0x10000000000000000

def width (groups : List (Nat × Nat × Nat)) : Regex → Nat × Nat
  | .empty | .anchor .. | .look .. => (0, 0)
  | .any _ | .oneOf .. => (1, 1)
  | .group _ body | .atomic body => width groups body
  | .reference _ index => (groups.lookup index).getD (0, 0)
  | .rounds least most _ body =>
    let (lo, hi) := width groups body
    (min (lo * least) maxWidth,
      match most with
      | some most => min (hi * most) maxWidth
      | none => if hi = 0 then 0 else maxWidth)
  | .choice _ whenSet whenUnset =>
    let (lo, hi) := width groups whenSet
    let (lo', hi') := width groups whenUnset
    (min lo lo', max hi hi')
  | .seq first second =>
    let (lo, hi) := width groups first
    let (lo', hi') := width groups second
    (min (lo + lo') maxWidth, min (hi + hi') maxWidth)
  | .alt first second =>
    let (lo, hi) := width groups first
    let (lo', hi') := width groups second
    (min lo lo', max hi hi')

end Regex

end RouteScript
