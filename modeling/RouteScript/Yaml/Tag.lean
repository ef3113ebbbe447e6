import RouteScript.Yaml.Moment

/-!
# Tags

A tag says what kind of value a node writes. A plain scalar without a tag has the tag that its text
looks like.
-/

namespace RouteScript.Yaml

inductive Tag where
  | null
  | boolean
  | integer
  | real
  | binary
  | moment
  | orderedMap
  | pairs
  | set
  | text
  | sequence
  | mapping
  | merge
  | default
  | other (name : Text)
  deriving DecidableEq, Repr

namespace Tag

def standardFront : Text := "tag:yaml.org,2002:"

def standard : List (Text × Tag) :=
  [("null", .null), ("bool", .boolean), ("int", .integer), ("float", .real), ("binary", .binary),
   ("timestamp", .moment), ("omap", .orderedMap), ("pairs", .pairs), ("set", .set), ("str", .text),
   ("seq", .sequence), ("map", .mapping), ("merge", .merge), ("value", .default)]

def ofName (name : Text) : Tag :=
  ((Text.after? standardFront name).bind fun rest => standard.lookup rest).getD (.other name)

def name : Tag → Text
  | .other name => name
  | tag => standardFront ++ ((standard.find? fun x => x.2 = tag).map Prod.fst).getD []

/-! ### What plain scalars look like -/

def trueWords : List Text := ["yes", "true", "on"]

def falseWords : List Text := ["no", "false", "off"]

def inCase (word : Text) : List Text :=
  let upper (c : CodePoint) : CodePoint := if c.inRange 0x61 0x7A then .ofNat (c.toNat - 0x20) else c
  [word, word.map upper, (word.take 1).map upper ++ word.drop 1]

def isWord (words : List Text) (t : Text) : Bool := words.any fun w => (inCase w).contains t

def unsigned : Text → Text
  | .char '+' :: t | .char '-' :: t => t
  | t => t

def isRun (p : CodePoint → Bool) (t : Text) : Bool := t ≠ [] && t.all p

def isSpacedDigit (c : CodePoint) : Bool := c.isAsciiDigit || c = .char '_'

def isDigits (t : Text) : Bool := t.head?.any CodePoint.isAsciiDigit && t.all isSpacedDigit

def isPositiveDigits (t : Text) : Bool := isDigits t && t.head? ≠ some (.char '0')

/-- A part of a number in base sixty: one digit, or two of which the first is at most five. -/
def isSixtieth (t : Text) : Bool :=
  match t with
  | [d] => d.isAsciiDigit
  | [c, d] => c.inRange 0x30 0x35 && d.isAsciiDigit
  | _ => false

def looksInteger (t : Text) : Bool :=
  let t := unsigned t
  let octal (c : CodePoint) : Bool := c.octalValue?.isSome || c = .char '_'
  let hex (c : CodePoint) : Bool := c.hexValue?.isSome || c = .char '_'
  let binary (c : CodePoint) : Bool := c = .char '0' || c = .char '1' || c = .char '_'
  match t with
  | .char '0' :: .char 'b' :: rest => isRun binary rest
  | .char '0' :: .char 'x' :: rest => isRun hex rest
  | .char '0' :: rest => rest.all octal
  | _ =>
    match Text.parts (.char ':') t with
    | first :: rest => isPositiveDigits first && rest.all isSixtieth
    | [] => false

def looksExponent : Text → Bool
  | [] => true
  | e :: s :: t =>
    e.asciiLower = .char 'e' && (s = .char '+' || s = .char '-') && isRun CodePoint.isAsciiDigit t
  | _ => false

def looksFraction (t : Text) : Bool := looksExponent (t.dropWhile isSpacedDigit)

def looksReal (t : Text) : Bool :=
  let rest := unsigned t
  let named (words : List Text) (t : Text) : Bool := words.contains t
  if named [".inf", ".Inf", ".INF"] rest || named [".nan", ".NaN", ".NAN"] t then true
  else
    match Text.cutFirst? (.char '.') rest with
    | none => false
    | some ([], part) =>
      rest = t && part.head?.any CodePoint.isAsciiDigit && looksFraction part
    | some (whole, part) =>
      match Text.parts (.char ':') whole with
      | [digits] => isDigits digits && looksFraction part
      | digits :: rest => isDigits digits && rest.all isSixtieth && part.all isSpacedDigit
      | [] => false

def looksMoment (t : Text) : Bool := (Moment.ofText? t).any fun m => m.isFull || m.time.isSome

def ofPlain (t : Text) : Tag :=
  if isWord (trueWords ++ falseWords) t then .boolean
  else if looksReal t then .real
  else if looksInteger t then .integer
  else if t = "<<" then .merge
  else if t = [] || t = "~" || isWord ["null"] t then .null
  else if looksMoment t then .moment
  else if t = "=" then .default
  else if t = "!" || t = "&" || t = "*" then .other (standardFront ++ "yaml")
  else .text

end Tag

end RouteScript.Yaml
