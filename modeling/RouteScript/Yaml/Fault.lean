import RouteScript.Number.Numeral

/-!
# What can be wrong with a YAML document

A document is malformed, or it is well formed and writes a value that there is not.
-/

namespace RouteScript.Yaml

inductive FormatFault where
  | unprintable
  | malformed (line : Nat)
  | misplaced
  | severalDocuments
  | directive
  | unknownHandle (handle : Text)
  | unknownAnchor (name : Text)
  | repeatedAnchor (name : Text)
  | unknownTag (tag : Text)
  | wrongKind (tag : Text)
  | collectionKey
  | wrongMerge
  | wrongBinary
  deriving DecidableEq, Repr

def FormatFault.message : FormatFault → Text
  | .unprintable => "unacceptable character"
  | .malformed line => "no token can be read in line " ++ Text.ofNat (line + 1)
  | .misplaced => "a token stands in the wrong place"
  | .severalDocuments => "expected a single document"
  | .directive => "a directive is repeated or asks for another version"
  | .unknownHandle handle => "undefined tag handle " ++ Text.quoted handle
  | .unknownAnchor name => "undefined alias " ++ Text.quoted name
  | .repeatedAnchor name => "duplicate anchor " ++ Text.quoted name
  | .unknownTag tag => "no value has the tag " ++ Text.quoted tag
  | .wrongKind tag => "a node is not of the kind that its tag " ++ Text.quoted tag ++ " asks for"
  | .collectionKey => "a collection cannot be a key"
  | .wrongMerge => "only mappings can be merged"
  | .wrongBinary => "binary data are not in base 64"

inductive MomentFault where
  | year (value : Nat)
  | month
  | day
  | hour
  | minute
  | second
  | offset (negative : Bool) (minutes : Nat)
  deriving DecidableEq, Repr

def spanText (days : Int) (seconds : Nat) : Text :=
  let parts := (if days = 0 then [] else ["days=" ++ Text.ofInt days]) ++
    (if seconds = 0 then [] else ["seconds=" ++ Text.ofNat seconds])
  "datetime.timedelta(" ++ Text.joinWith ", " parts ++ ")"

def MomentFault.message : MomentFault → Text
  | .year value => "year " ++ Text.ofNat value ++ " is out of range"
  | .month => "month must be in 1..12"
  | .day => "day is out of range for month"
  | .hour => "hour must be in 0..23"
  | .minute => "minute must be in 0..59"
  | .second => "second must be in 0..59"
  | .offset negative minutes =>
    let signed : Int := if negative then -(minutes : Int) else minutes
    "offset must be a timedelta strictly between -timedelta(hours=24) and timedelta(hours=24), not " ++
      spanText (signed.fdiv 1440) ((signed.fmod 1440).toNat * 60) ++ "."

/-- Why a well-formed document writes no value. -/
inductive ValueFault where
  | character (value : Nat)
  | numeral (fault : NumeralFault)
  | emptyNumeral
  | oversizedBase
  | truth (t : Text)
  | noMoment
  | moment (fault : MomentFault)
  deriving DecidableEq, Repr

def maxCharacterValue : Nat := 0x7FFFFFFF

def ValueFault.message : ValueFault → Text
  | .character value =>
    if maxCharacterValue < value then "Python int too large to convert to C int"
    else "chr() arg not in range(0x110000)"
  | .numeral fault => fault.message
  | .emptyNumeral => "string index out of range"
  | .oversizedBase => "int too large to convert to float"
  | .truth t => Text.quoted t
  | .noMoment => "'NoneType' object has no attribute 'groupdict'"
  | .moment fault => fault.message

inductive Fault where
  | format (fault : FormatFault)
  | value (fault : ValueFault)
  deriving DecidableEq, Repr

abbrev Reading := Except Fault

end RouteScript.Yaml
