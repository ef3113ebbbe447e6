import RouteScript.Text.CodePoint

/-!
# UTF-8

`Text.toUtf8?` writes a text as bytes and fails exactly at a surrogate. `decodeUtf8` reads bytes and
names the first place that is not well formed, and `decodeUtf8Lossy` puts a replacement character
for each longest piece that could have begun a character.
-/

namespace RouteScript

abbrev Bytes := List UInt8

inductive Utf8Reason where
  | invalidStart
  | invalidContinuation
  | unexpectedEnd
  deriving DecidableEq, Repr

/-- The first place where bytes are not UTF-8: `width` bytes from `position` on, the first `lead`. -/
structure Utf8Fault where
  position : Nat
  width : Nat
  lead : UInt8
  reason : Utf8Reason
  deriving DecidableEq, Repr

/-- A run of `width` surrogates at `position`, the first `offset` above `0xD800`. -/
structure SurrogateFault where
  position : Nat
  width : Nat
  offset : Fin 2048
  deriving DecidableEq, Repr

namespace Utf8

/-- The length of the encoding that a first byte announces and the values its second byte may have. -/
def shape? (b : UInt8) : Option (Nat × Nat × Nat) :=
  let n := b.toNat
  if n < 0x80 then some (1, 0, 0)
  else if n < 0xC2 then none
  else if n < 0xE0 then some (2, 0x80, 0xBF)
  else if n = 0xE0 then some (3, 0xA0, 0xBF)
  else if n = 0xED then some (3, 0x80, 0x9F)
  else if n < 0xF0 then some (3, 0x80, 0xBF)
  else if n = 0xF0 then some (4, 0x90, 0xBF)
  else if n < 0xF4 then some (4, 0x80, 0xBF)
  else if n = 0xF4 then some (4, 0x80, 0x8F)
  else none

def leadBits (b : UInt8) (length : Nat) : Nat :=
  match length with
  | 1 => b.toNat
  | 2 => b.toNat - 0xC0
  | 3 => b.toNat - 0xE0
  | _ => b.toNat - 0xF0

/-- Reads `count` continuation bytes after `seen` bytes, the next of them between `low` and `high`. -/
def continuation (value seen low high : Nat) : Nat → Bytes → Except (Nat × Utf8Reason) Nat
  | 0, _ => .ok value
  | _ + 1, [] => .error (seen, .unexpectedEnd)
  | count + 1, b :: bs =>
    if low ≤ b.toNat ∧ b.toNat ≤ high then
      continuation (value * 64 + (b.toNat - 0x80)) (seen + 1) 0x80 0xBF count bs
    else .error (seen, .invalidContinuation)

/-- The character that `b :: bs` begins with and the number of bytes after `b` that belong to it, or
the width of the malformed piece. -/
def first (b : UInt8) (bs : Bytes) : Except (Nat × Utf8Reason) (CodePoint × Nat) :=
  match shape? b with
  | none => .error (1, .invalidStart)
  | some (length, low, high) => do
    let value ← continuation (leadBits b length) 1 low high (length - 1) bs
    return (CodePoint.ofNat value, length - 1)

def decodeFrom (position : Nat) : Bytes → Except Utf8Fault Text
  | [] => .ok []
  | b :: bs =>
    match first b bs with
    | .error (width, reason) => .error ⟨position, width, b, reason⟩
    | .ok (c, more) => do
      let rest ← decodeFrom (position + 1 + more) (bs.drop more)
      return c :: rest
termination_by bs => bs.length
decreasing_by simp only [List.length_drop, List.length_cons]; omega

def decodeLossy : Bytes → Text
  | [] => []
  | b :: bs =>
    match first b bs with
    | .error (width, _) => .char '�' :: decodeLossy (bs.drop (width - 1))
    | .ok (c, more) => c :: decodeLossy (bs.drop more)
termination_by bs => bs.length
decreasing_by all_goals (simp only [List.length_drop, List.length_cons]; omega)

def surrogateRun (t : Text) : Nat :=
  (t.takeWhile fun | .surrogate _ => true | .char _ => false).length

def encodeFrom (position : Nat) : Text → Except SurrogateFault Bytes
  | [] => .ok []
  | .char c :: t => do
    let rest ← encodeFrom (position + 1) t
    return String.utf8EncodeChar c ++ rest
  | .surrogate offset :: t => .error ⟨position, 1 + surrogateRun t, offset⟩

end Utf8

def decodeUtf8 (bytes : Bytes) : Except Utf8Fault Text := Utf8.decodeFrom 0 bytes

def decodeUtf8Lossy (bytes : Bytes) : Text := Utf8.decodeLossy bytes

def Text.toUtf8 (t : Text) : Except SurrogateFault Bytes := Utf8.encodeFrom 0 t

def Text.hex (width value : Nat) : Text :=
  let digits := (Nat.toDigits 16 value).map CodePoint.char
  List.replicate (width - digits.length) (.char '0') ++ digits

def Utf8Reason.message : Utf8Reason → Text
  | .invalidStart => "invalid start byte"
  | .invalidContinuation => "invalid continuation byte"
  | .unexpectedEnd => "unexpected end of data"

def Utf8Fault.message (f : Utf8Fault) : Text :=
  let place : Text :=
    if f.width = 1 then
      "byte 0x" ++ Text.hex 2 f.lead.toNat ++ " in position " ++ Text.ofNat f.position
    else
      "bytes in position " ++ Text.ofNat f.position ++ "-" ++ Text.ofNat (f.position + f.width - 1)
  "'utf-8' codec can't decode " ++ place ++ ": " ++ f.reason.message

def SurrogateFault.message (f : SurrogateFault) : Text :=
  let place : Text :=
    if f.width = 1 then
      "character '\\u" ++ Text.hex 4 (0xD800 + f.offset.val) ++ "' in position " ++
        Text.ofNat f.position
    else
      "characters in position " ++ Text.ofNat f.position ++ "-" ++
        Text.ofNat (f.position + f.width - 1)
  "'utf-8' codec can't encode " ++ place ++ ": surrogates not allowed"

end RouteScript
