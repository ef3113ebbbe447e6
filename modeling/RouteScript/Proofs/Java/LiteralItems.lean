import Mathlib.Data.List.Chain
import RouteScript.Proofs.Java.EscapeSequence
import RouteScript.Proofs.Text.Order

/-!
# Ordinary literals item by item

The inside of an ordinary literal is a row of items: code points that stand for themselves, and escapes. An octal escape
takes as many digits as it can, so no digit may stand behind it that makes it a longer one (`Item.EndsBefore`). Under this
condition the value of the literal is that of its items in order (`literalValue_items`).
-/

namespace RouteScript.Java

/-! ### Items -/

/-- A hexadecimal digit. One from ten on is a letter, perhaps a capital. -/
structure HexDigit where
  value : Fin 16
  capital : Bool

def HexDigit.spelling (d : HexDigit) : CodePoint :=
  .ofNat ((if d.value.val < 10 then 0x30 else if d.capital then 0x37 else 0x57) + d.value.val)

def octalDigit (d : Fin 8) : CodePoint := .ofNat (0x30 + d.val)

/-- The digits of an octal escape, which stands for a number up to 255. -/
inductive OctalDigits where
  | one (a : Fin 8)
  | two (a b : Fin 8)
  | three (a b c : Fin 8) (byte : 64 * a.val + 8 * b.val + c.val ≤ 255)

namespace OctalDigits

def digits : OctalDigits → List (Fin 8)
  | .one a => [a]
  | .two a b => [a, b]
  | .three a b c _ => [a, b, c]

def number : OctalDigits → Nat
  | .one a => a.val
  | .two a b => 8 * a.val + b.val
  | .three a b c _ => 64 * a.val + 8 * b.val + c.val

/-- With one more digit, if that is still an octal escape. -/
def extended? : OctalDigits → Fin 8 → Option OctalDigits
  | .one a, d => some (.two a d)
  | .two a b, d => if byte : 64 * a.val + 8 * b.val + d.val ≤ 255 then some (.three a b d byte) else none
  | .three .., _ => none

end OctalDigits

/-- What the inside of an ordinary literal is made of. -/
inductive Item where
  | bare (c : CodePoint) (ordinary : c ≠ .char '\\' ∧ c ≠ .char '"')
  | sign (c : CodePoint) (known : (signValue? c).isSome)
  /-- A line goes on behind its end, which is LF or, with a return, CR LF. -/
  | lineEnd (returned : Bool)
  /-- A code point by its number: a letter `u`, perhaps more of them, and four digits. -/
  | number (more : Nat) (a b c d : HexDigit)
  | octal (o : OctalDigits)

namespace Item

def spelling : Item → Text
  | .bare c _ => [c]
  | .sign c _ => [.char '\\', c]
  | .lineEnd false => "\\\n"
  | .lineEnd true => "\\\r\n"
  | .number more a b c d =>
    .char '\\' :: (List.replicate (more + 1) (.char 'u') ++ [a.spelling, b.spelling, c.spelling, d.spelling])
  | .octal o => .char '\\' :: o.digits.map octalDigit

def value : Item → Text
  | .bare c _ => [c]
  | .sign c known => [(signValue? c).get known]
  | .lineEnd _ => []
  | .number _ a b c d => [.ofNat (4096 * a.value.val + 256 * b.value.val + 16 * c.value.val + d.value.val)]
  | .octal o => [.ofNat o.number]

/-- `t` does not begin with an octal digit that makes the item a longer one. -/
def EndsBefore : Item → Text → Prop
  | .octal o, t => ∀ d : Fin 8, t.head? = some (octalDigit d) → o.extended? d = none
  | _, _ => True

end Item

def ordinaryLiteral (body : Text) : Text := .char '"' :: body ++ [.char '"']

/-! ### Digits -/

theorem HexDigit.hexValue?_spelling (d : HexDigit) : d.spelling.hexValue? = some d.value.val := by
  have all : ∀ (value : Fin 16) (capital : Bool), (HexDigit.mk value capital).spelling.hexValue? = some value.val := by
    decide
  exact all d.value d.capital

theorem octalValue?_octalDigit (d : Fin 8) : (octalDigit d).octalValue? = some d.val := by
  have all : ∀ d : Fin 8, (octalDigit d).octalValue? = some d.val := by decide
  exact all d

theorem exists_octalDigit {c : CodePoint} {n : Nat} (digit : c.octalValue? = some n) : ∃ d, c = octalDigit d := by
  unfold CodePoint.octalValue? at digit
  split at digit
  · rename_i range
    simp only [CodePoint.inRange, Bool.and_eq_true, decide_eq_true_eq] at range
    refine ⟨⟨c.toNat - 0x30, by omega⟩, CodePoint.toNat_injective ?_⟩
    have all : ∀ d : Fin 8, (octalDigit d).toNat = 0x30 + d.val := by decide
    rw [all]
    dsimp only
    omega
  · cases digit

/-- No octal digit is taken from a text that does not begin with one, or where there is no room. -/
theorem octalRun_eq_nil {room : Nat} {t : Text} (stop : ∀ d, t.head? = some (octalDigit d) → room = 0) :
    octalRun room t = [] := by
  cases t with
  | nil => simp [octalRun]
  | cons c t =>
    refine octalRun_nil ?_ t
    cases digit : c.octalValue? with
    | none => exact Or.inr rfl
    | some n =>
      obtain ⟨d, rfl⟩ := exists_octalDigit digit
      exact Or.inl (stop d rfl)

/-- An escape of octal digits is read to its last digit and no further. -/
theorem OctalDigits.escape?_eq {o : OctalDigits} {t : Text} (ends : (Item.octal o).EndsBefore t) :
    escape? (o.digits.map octalDigit ++ t) = some ([.ofNat o.number], o.digits.length) := by
  cases o with
  | one a =>
    have none : octalRun (if a.val ≤ 3 then 2 else 1) t = [] :=
      octalRun_eq_nil fun d head => absurd (ends d head) (by simp [extended?])
    rw [digits, List.map_singleton, List.singleton_append, escape?_octal (octalValue?_octalDigit a), none]
    rfl
  | two a b =>
    have room : (if a.val ≤ 3 then 2 else 1) = (if a.val ≤ 3 then 1 else 0) + 1 := by split <;> rfl
    have none : octalRun (if a.val ≤ 3 then 1 else 0) t = [] := by
      refine octalRun_eq_nil fun d head => if_neg fun small => ?_
      have long := ends d head
      rw [extended?, dif_pos (by omega)] at long
      cases long
    rw [digits, List.map_cons, List.map_singleton, List.cons_append, List.singleton_append,
      escape?_octal (octalValue?_octalDigit a), room, octalRun_cons (octalValue?_octalDigit b), none]
    simp [octalValue?_octalDigit, number, Nat.mul_comm]
  | three a b c byte =>
    have small : a.val ≤ 3 := by omega
    have none : octalRun 0 t = [] := octalRun_eq_nil fun _ _ => rfl
    simp only [digits, List.map_cons, List.map_nil, List.cons_append, List.nil_append]
    rw [escape?_octal (octalValue?_octalDigit a), if_pos small, octalRun_cons (octalValue?_octalDigit b),
      octalRun_cons (octalValue?_octalDigit c), none]
    have sum : (a.val * 8 + b.val) * 8 + c.val = 64 * a.val + 8 * b.val + c.val := by omega
    simp [octalValue?_octalDigit, number, sum]

/-! ### Rows of items -/

/-- One item is read as its value, and the reading goes on behind it. -/
theorem Item.unescape_append {x : Item} {t : Text} (ends : x.EndsBefore t) :
    unescape (x.spelling ++ t) = x.value ++ unescape t := by
  cases x with
  | bare c ordinary => exact unescape_cons ordinary.1 t
  | sign c known => exact unescape_escape (escape?_sign (Option.some_get known).symm t)
  | lineEnd returned =>
    cases returned with
    | false =>
      change unescape (.char '\\' :: .char '\n' :: t) = unescape t
      rw [unescape, if_pos rfl]
      rfl
    | true =>
      change unescape (.char '\\' :: .char '\r' :: .char '\n' :: t) = unescape t
      rw [unescape, if_pos rfl]
      rfl
  | number more a b c d =>
    have hex : [a.spelling, b.spelling, c.spelling, d.spelling].map CodePoint.hexValue? =
        [a.value.val, b.value.val, c.value.val, d.value.val].map some := by
      simp only [List.map_cons, List.map_nil, HexDigit.hexValue?_spelling]
    have sum : ofDigits 16 [a.value.val, b.value.val, c.value.val, d.value.val] =
        4096 * a.value.val + 256 * b.value.val + 16 * c.value.val + d.value.val := by
      simp only [ofDigits, List.foldl_cons, List.foldl_nil]
      omega
    have behind : (List.replicate (more + 1) (CodePoint.char 'u') ++
        [a.spelling, b.spelling, c.spelling, d.spelling] ++ t).drop (more + 5) = t := List.drop_left' (by simp)
    rw [spelling, List.cons_append, unescape, if_pos rfl, escape?_number more hex rfl]
    simp only [behind, value, sum]
  | octal o =>
    have behind : (o.digits.map octalDigit ++ t).drop o.digits.length = t := List.drop_left' (by simp)
    rw [spelling, List.cons_append, unescape, if_pos rfl, OctalDigits.escape?_eq ends]
    simp only [behind, value]

theorem Item.exists_head (x : Item) : ∃ c rest, x.spelling = c :: rest ∧ c ≠ .char '"' := by
  cases x with
  | bare c ordinary => exact ⟨c, [], rfl, ordinary.2⟩
  | lineEnd returned => cases returned <;> exact ⟨_, _, rfl, by decide⟩
  | _ => exact ⟨.char '\\', _, rfl, by decide⟩

theorem Item.EndsBefore.of_head {x : Item} {s t : Text} (ends : x.EndsBefore s) (same : t.head? = s.head?) :
    x.EndsBefore t := by
  cases x with
  | octal o => exact fun d head => ends d (same ▸ head)
  | _ => trivial

/-- Every item ends where no octal digit stands. -/
theorem Item.endsBefore_of_head (x : Item) {t : Text} (other : ∀ d, t.head? ≠ some (octalDigit d)) : x.EndsBefore t := by
  cases x with
  | octal o => exact fun d head => absurd head (other d)
  | _ => trivial

/-- A row of items is read as its values. The last item has to end before what stands behind the row. -/
theorem unescape_items {items : List Item} {t : Text} (apart : items.IsChain fun x y => x.EndsBefore y.spelling)
    (ends : ∀ x ∈ items.getLast?, x.EndsBefore t) :
    unescape (items.flatMap Item.spelling ++ t) = items.flatMap Item.value ++ unescape t := by
  induction items with
  | nil => rfl
  | cons x items ih =>
    have here : x.EndsBefore (items.flatMap Item.spelling ++ t) := by
      cases items with
      | nil => exact ends x rfl
      | cons y items =>
        obtain ⟨c, rest, spelled, _⟩ := y.exists_head
        refine (List.isChain_cons_cons.mp apart).1.of_head ?_
        rw [List.flatMap_cons, spelled]
        rfl
    have later : ∀ y ∈ items.getLast?, y.EndsBefore t := by
      intro y last
      refine ends y ?_
      rw [List.getLast?_cons, Option.mem_def.mp last]
      rfl
    rw [List.flatMap_cons, List.flatMap_cons, List.append_assoc, Item.unescape_append here, ih apart.tail later,
      List.append_assoc]

/-- A literal whose inside does not begin with a quote is no text block. -/
theorem literalValue_ordinaryLiteral {body : Text} (unquoted : body.head? ≠ some (.char '"')) :
    literalValue (ordinaryLiteral body) = unescape body := by
  have quotes : ("\"\"\"" : Text) = [.char '"', .char '"', .char '"'] := rfl
  have noBlock : Text.startsWith (ordinaryLiteral body) "\"\"\"" = false := by
    rw [Text.startsWith, quotes]
    cases body with
    | nil => rfl
    | cons c body =>
      have other : c ≠ .char '"' := fun same => unquoted (congrArg some same)
      simp [ordinaryLiteral, List.isPrefixOf, other.symm]
  rw [literalValue, noBlock, if_neg (by simp)]
  simp [inside, ordinaryLiteral]

theorem head_items {items : List Item} {t : Text} (unquoted : t.head? ≠ some (.char '"')) :
    (items.flatMap Item.spelling ++ t).head? ≠ some (.char '"') := by
  cases items with
  | nil => exact unquoted
  | cons x items =>
    obtain ⟨c, rest, spelled, other⟩ := x.exists_head
    rw [List.flatMap_cons, spelled]
    exact fun same => other (Option.some.inj same)

/-- The value of an ordinary literal is that of its items in order. -/
theorem literalValue_items {items : List Item} (apart : items.IsChain fun x y => x.EndsBefore y.spelling) :
    literalValue (ordinaryLiteral (items.flatMap Item.spelling)) = items.flatMap Item.value ∧
      ∀ t, literalValue (ordinaryLiteral (items.flatMap Item.spelling ++ .char '\\' :: .char '\\' :: t)) =
        items.flatMap Item.value ++ .char '\\' :: unescape t := by
  constructor
  · have read := unescape_items apart fun x _ => x.endsBefore_of_head (t := []) (by simp)
    rw [List.append_nil, unescape, List.append_nil] at read
    have unquoted : (items.flatMap Item.spelling ++ []).head? ≠ some (.char '"') := head_items (by simp)
    rw [List.append_nil] at unquoted
    rw [literalValue_ordinaryLiteral unquoted, read]
  · intro t
    have digits : ∀ d, CodePoint.char '\\' ≠ octalDigit d := by decide
    have read := unescape_items (t := .char '\\' :: .char '\\' :: t) apart
      fun x _ => x.endsBefore_of_head fun d head => digits d (Option.some.inj head)
    have escaped : escape? (.char '\\' :: t) = some ([.char '\\'], 1) := escape?_sign rfl t
    rw [literalValue_ordinaryLiteral (head_items (by simp)), read, unescape_escape escaped]

/-- An escaped backslash before a letter, a backslash by number before a letter, octal escapes of each length with a digit
behind them that they cannot take, and a line that goes on. -/
def hostileItems : List Item :=
  [.sign (.char '\\') rfl, .bare (.char 'n') (by decide), .number 1 ⟨0, false⟩ ⟨0, false⟩ ⟨5, false⟩ ⟨12, true⟩,
    .bare (.char 'n') (by decide), .octal (.two 4 7), .bare (.char '7') (by decide), .octal (.three 1 0 1 (by decide)),
    .bare (.char '1') (by decide), .octal (.one 0), .bare (.char '8') (by decide), .lineEnd true, .sign (.char '"') rfl]

theorem literalValue_items_hostile :
    hostileItems.IsChain (fun x y => x.EndsBefore y.spelling) ∧
      hostileItems.flatMap Item.spelling = "\\\\n\\uu005Cn\\477\\1011\\08\\\r\n\\\"" ∧
      literalValue "\"\\\\n\\uu005Cn\\477\\1011\\08\\\r\n\\\"\"" = "\\n\\n'7A1\x008\"" ∧
      literalValue "\"\\\\u0041\"" = "\\u0041" := by
  have apart : hostileItems.IsChain fun x y => x.EndsBefore y.spelling := by
    simp only [hostileItems, List.isChain_cons_cons, List.isChain_singleton, Item.EndsBefore, and_true, true_and]
    decide
  have spelled : hostileItems.flatMap Item.spelling = "\\\\n\\uu005Cn\\477\\1011\\08\\\r\n\\\"" := by decide
  have value : hostileItems.flatMap Item.value = "\\n\\n'7A1\x008\"" := by decide
  have whole := (literalValue_items apart).1
  rw [spelled, value] at whole
  have none : ([] : List Item).IsChain fun x y => x.EndsBefore y.spelling := .nil
  have behind := (literalValue_items none).2 "u0041"
  have plain : unescape "u0041" = "u0041" := by decide +kernel
  rw [plain] at behind
  exact ⟨apart, spelled, whole, behind⟩

end RouteScript.Java
