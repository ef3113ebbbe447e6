import RouteScript.Proofs.Fallible
import RouteScript.Text.Utf8

/-!
# Reading back what was encoded

The bytes of a text decode to that text (`decodeUtf8_toUtf8`). The step is `first_encodeChar`: the bytes of a character
are read as that character, whatever bytes follow.
-/

namespace RouteScript

theorem CodePoint.ofNat_toNat_char (c : Char) : CodePoint.ofNat c.toNat = .char c := by
  have valid : c.toNat < 0xD800 ∨ 0xDFFF < c.toNat ∧ c.toNat < 0x110000 := c.valid
  have proper : c.toNat.isValidChar := c.valid
  have same : Char.ofNatAux c.toNat proper = c := Char.ext rfl
  rw [CodePoint.ofNat, CodePoint.ofNat?, dif_neg (by omega), dif_pos proper, same]
  rfl

namespace Utf8

theorem continuation_cons {value seen low high count : Nat} {n : Nat} {bs : Bytes} (small : n < 256)
    (least : low ≤ n) (most : n ≤ high) :
    continuation value seen low high (count + 1) (UInt8.ofNat n :: bs) =
      continuation (value * 64 + (n - 0x80)) (seen + 1) 0x80 0xBF count bs := by
  have byte : (UInt8.ofNat n).toNat = n := UInt8.toNat_ofNat_of_lt' small
  rw [continuation, byte, if_pos ⟨least, most⟩]

/-- The first byte of two tells that there is one more. -/
theorem shape?_two {n : Nat} (least : 0xC2 ≤ n) (most : n < 0xE0) :
    shape? (UInt8.ofNat n) = some (2, 0x80, 0xBF) := by
  have byte : (UInt8.ofNat n).toNat = n := UInt8.toNat_ofNat_of_lt' (by show n < 256; omega)
  rw [shape?, byte]
  simp (disch := omega) only [if_pos, if_neg]

/-- The first byte of three tells that there are two more, and the second keeps out surrogates and characters that
have a shorter encoding. -/
theorem shape?_three {v : Nat} (least : 0x800 ≤ v) (most : v < 0x10000) (proper : v < 0xD800 ∨ 0xDFFF < v) :
    ∃ low high, shape? (UInt8.ofNat (v / 4096 + 0xE0)) = some (3, low, high) ∧
      low ≤ v / 64 % 64 + 0x80 ∧ v / 64 % 64 + 0x80 ≤ high := by
  have byte : (UInt8.ofNat (v / 4096 + 0xE0)).toNat = v / 4096 + 0xE0 :=
    UInt8.toNat_ofNat_of_lt' (by show _ < 256; omega)
  rw [shape?, byte]
  by_cases smallest : v / 4096 = 0
  · refine ⟨0xA0, 0xBF, ?_, by omega, by omega⟩
    simp (disch := omega) only [if_pos, if_neg]
  · by_cases nearSurrogates : v / 4096 = 13
    · refine ⟨0x80, 0x9F, ?_, by omega, by omega⟩
      simp (disch := omega) only [if_pos, if_neg]
    · refine ⟨0x80, 0xBF, ?_, by omega, by omega⟩
      simp (disch := omega) only [if_pos, if_neg]

/-- The first byte of four tells that there are three more, and the second keeps out what is no character. -/
theorem shape?_four {v : Nat} (least : 0x10000 ≤ v) (most : v < 0x110000) :
    ∃ low high, shape? (UInt8.ofNat (v / 262144 + 0xF0)) = some (4, low, high) ∧
      low ≤ v / 4096 % 64 + 0x80 ∧ v / 4096 % 64 + 0x80 ≤ high := by
  have byte : (UInt8.ofNat (v / 262144 + 0xF0)).toNat = v / 262144 + 0xF0 :=
    UInt8.toNat_ofNat_of_lt' (by show _ < 256; omega)
  rw [shape?, byte]
  by_cases smallest : v / 262144 = 0
  · refine ⟨0x90, 0xBF, ?_, by omega, by omega⟩
    simp (disch := omega) only [if_pos, if_neg]
  · by_cases greatest : v / 262144 = 4
    · refine ⟨0x80, 0x8F, ?_, by omega, by omega⟩
      simp (disch := omega) only [if_pos, if_neg]
    · refine ⟨0x80, 0xBF, ?_, by omega, by omega⟩
      simp (disch := omega) only [if_pos, if_neg]

theorem first_of_shape? {b : UInt8} {bs : Bytes} {count low high value : Nat}
    (shape : shape? b = some (count + 1, low, high))
    (read : continuation (leadBits b (count + 1)) 1 low high count bs = .ok value) :
    first b bs = .ok (CodePoint.ofNat value, count) := by
  rw [first, shape]
  dsimp only
  rw [Nat.add_sub_cancel, read]
  rfl

/-- The bytes of a character are read as that character, whatever follows them. -/
theorem first_encodeChar (c : Char) (rest : Bytes) :
    ∃ b more, String.utf8EncodeChar c = b :: more ∧ first b (more ++ rest) = .ok (.char c, more.length) := by
  have valid : c.toNat < 0xD800 ∨ 0xDFFF < c.toNat ∧ c.toNat < 0x110000 := c.valid
  have back := CodePoint.ofNat_toNat_char c
  rw [String.utf8EncodeChar.eq_1, show c.val.toNat = c.toNat from rfl, ← back]
  generalize c.toNat = v at valid
  by_cases one : v ≤ 127
  · have byte : (UInt8.ofNat v).toNat = v := UInt8.toNat_ofNat_of_lt' (by show v < 256; omega)
    have shape : shape? (UInt8.ofNat v) = some (1, 0, 0) := by
      rw [shape?, byte]
      simp (disch := omega) only [if_pos]
    rw [if_pos one]
    exact ⟨UInt8.ofNat v, [], rfl, first_of_shape? shape (congrArg Except.ok byte)⟩
  by_cases two : v ≤ 2047
  · have lead : v / 64 % 32 = v / 64 := by omega
    have byte : (UInt8.ofNat (v / 64 + 192)).toNat = v / 64 + 192 := UInt8.toNat_ofNat_of_lt' (by show _ < 256; omega)
    have bits : leadBits (UInt8.ofNat (v / 64 + 192)) 2 = v / 64 + 192 - 0xC0 := congrArg (· - 0xC0) byte
    have value : (v / 64 + 192 - 0xC0) * 64 + (v % 64 + 128 - 0x80) = v := by omega
    have read : continuation (leadBits (UInt8.ofNat (v / 64 + 192)) 2) 1 0x80 0xBF 1
        (UInt8.ofNat (v % 64 + 128) :: rest) = .ok v := by
      rw [bits, continuation_cons (by omega) (by omega) (by omega), continuation, value]
    rw [if_neg one, if_pos two, lead]
    exact ⟨_, _, rfl, first_of_shape? (shape?_two (by omega) (by omega)) read⟩
  by_cases three : v ≤ 65535
  · obtain ⟨low, high, shape, least, most⟩ := shape?_three (v := v) (by omega) (by omega) (by omega)
    have lead : v / 4096 % 16 = v / 4096 := by omega
    have byte : (UInt8.ofNat (v / 4096 + 224)).toNat = v / 4096 + 224 :=
      UInt8.toNat_ofNat_of_lt' (by show _ < 256; omega)
    have bits : leadBits (UInt8.ofNat (v / 4096 + 224)) 3 = v / 4096 + 224 - 0xE0 := congrArg (· - 0xE0) byte
    have value : ((v / 4096 + 224 - 0xE0) * 64 + (v / 64 % 64 + 128 - 0x80)) * 64 + (v % 64 + 128 - 0x80) = v := by
      omega
    have read : continuation (leadBits (UInt8.ofNat (v / 4096 + 224)) 3) 1 low high 2
        (UInt8.ofNat (v / 64 % 64 + 128) :: UInt8.ofNat (v % 64 + 128) :: rest) = .ok v := by
      rw [bits, continuation_cons (by omega) least most, continuation_cons (by omega) (by omega) (by omega),
        continuation, value]
    rw [if_neg one, if_neg two, if_pos three, lead]
    exact ⟨_, _, rfl, first_of_shape? shape read⟩
  · obtain ⟨low, high, shape, least, most⟩ := shape?_four (v := v) (by omega) (by omega)
    have lead : v / 262144 % 8 = v / 262144 := by omega
    have byte : (UInt8.ofNat (v / 262144 + 240)).toNat = v / 262144 + 240 :=
      UInt8.toNat_ofNat_of_lt' (by show _ < 256; omega)
    have bits : leadBits (UInt8.ofNat (v / 262144 + 240)) 4 = v / 262144 + 240 - 0xF0 := congrArg (· - 0xF0) byte
    have value : (((v / 262144 + 240 - 0xF0) * 64 + (v / 4096 % 64 + 128 - 0x80)) * 64 +
        (v / 64 % 64 + 128 - 0x80)) * 64 + (v % 64 + 128 - 0x80) = v := by omega
    have read : continuation (leadBits (UInt8.ofNat (v / 262144 + 240)) 4) 1 low high 3
        (UInt8.ofNat (v / 4096 % 64 + 128) :: UInt8.ofNat (v / 64 % 64 + 128) :: UInt8.ofNat (v % 64 + 128) :: rest) =
          .ok v := by
      rw [bits, continuation_cons (by omega) least most, continuation_cons (by omega) (by omega) (by omega),
        continuation_cons (by omega) (by omega) (by omega), continuation, value]
    rw [if_neg one, if_neg two, if_neg three, lead]
    exact ⟨_, _, rfl, first_of_shape? shape read⟩

theorem decodeFrom_encodeFrom {t : Text} {bytes : Bytes} {i j : Nat} (encoded : encodeFrom i t = .ok bytes) :
    decodeFrom j bytes = .ok t := by
  induction t generalizing bytes i j with
  | nil =>
    cases encoded
    rw [decodeFrom]
  | cons c t ih =>
    cases c with
    | surrogate offset => cases encoded
    | char c =>
      obtain ⟨rest, later, encoded⟩ := Fallible.bind_ok encoded
      obtain ⟨b, more, bytes, read⟩ := first_encodeChar c rest
      cases encoded
      rw [bytes, List.cons_append, decodeFrom, read]
      dsimp only
      rw [List.drop_left, ih later]
      rfl

end Utf8

theorem decodeUtf8_toUtf8 {t : Text} {bytes : Bytes} (encoded : t.toUtf8 = .ok bytes) : decodeUtf8 bytes = .ok t :=
  Utf8.decodeFrom_encodeFrom encoded

end RouteScript
