import RouteScript.Proofs.Java.IntegerLiteral
import RouteScript.Proofs.Script.Grammar

/-!
# The value of integers in the code

An integer of a script reaches the code as it was written, and behind it the suffix of a `long` when it is an operand of
a predicate beyond `int`. `integers_kept` says exactly when the code then has the integer that the script wrote:
its digits have to be those of ASCII, a zero must not make it octal, and it has to fit the type.
-/

namespace RouteScript.Script

open Java

def integerOf (numeral : Text) : Int := withSign (numeral.head? = some (.char '-')) (magnitude numeral)

/-- The numeral is a literal of the same value in a type of this many bits. -/
structure IsKept (bits : Nat) (numeral : Text) : Prop where
  ascii : ∀ c ∈ unsigned numeral, c.isAsciiDigit
  decimal : LooksOctal (unsigned numeral) → magnitude numeral < 8
  fits : Fits bits (integerOf numeral)

/-! ### Literals of numerals -/

theorem unsigned_of_isInteger {numeral : Text} (integer : isInteger numeral) :
    unsigned numeral ≠ [] ∧ ∀ c ∈ unsigned numeral, c.isDigit := by
  unfold isInteger at integer
  unfold unsigned
  split at integer <;> simpa using integer

theorem ne_nil_of_isInteger {numeral : Text} (integer : isInteger numeral) : numeral ≠ [] := by
  rintro rfl
  cases integer

theorem integerLiteral?_append {numeral : Text} (filled : numeral ≠ []) (suffix : Text) :
    integerLiteral? (numeral ++ suffix) =
      suffixedLiteral? (numeral.head? = some (.char '-')) (unsigned numeral ++ suffix) := by
  obtain ⟨c, t, rfl⟩ := List.exists_cons_of_ne_nil filled
  by_cases minus : c = .char '-'
  · subst minus
    rfl
  · have read : integerLiteral? (c :: t ++ suffix) = suffixedLiteral? false (c :: t ++ suffix) := by
      unfold integerLiteral?
      split
      · rename_i same
        exact absurd (List.cons.inj same).1 minus
      · rfl
    have whole : unsigned (c :: t) = c :: t := by
      unfold unsigned
      split
      · rename_i same
        exact absurd (List.cons.inj same).1 minus
      · rfl
    simpa [whole, minus] using read

theorem suffixedLiteral?_of_isDigit {t : Text} (digits : ∀ c ∈ t, c.isDigit) (negative : Bool) :
    suffixedLiteral? negative t = digitsLiteral? negative 32 t := by
  unfold suffixedLiteral?
  split
  · rename_i last
    exact absurd (digits _ (List.mem_of_getLast? last)) (by decide)
  · rename_i last
    exact absurd (digits _ (List.mem_of_getLast? last)) (by decide)
  · rfl

theorem suffixedLiteral?_long (t : Text) (negative : Bool) :
    suffixedLiteral? negative (t ++ "L") = digitsLiteral? negative 64 t := by
  have last : (t ++ ("L" : Text)).getLast? = some (.char 'L') := List.getLast?_concat ..
  have front : (t ++ ("L" : Text)).dropLast = t := List.dropLast_concat ..
  rw [suffixedLiteral?, last, front]
  rfl

theorem digitsLiteral?_iff_isKept {numeral : Text} (integer : isInteger numeral) {bits : Nat} (wide : 4 ≤ bits) :
    digitsLiteral? (numeral.head? = some (.char '-')) bits (unsigned numeral) = some (integerOf numeral) ↔
      IsKept bits numeral := by
  have filled := (unsigned_of_isInteger integer).1
  refine (digitsLiteral?_eq_some_iff wide filled).trans ⟨?_, ?_⟩
  · rintro ⟨ascii, decimal, fits⟩
    exact ⟨ascii, decimal, fits⟩
  · rintro ⟨ascii, decimal, fits⟩
    exact ⟨ascii, decimal, fits⟩

theorem integerLiteral?_int {numeral : Text} (integer : isInteger numeral) :
    integerLiteral? numeral = some (integerOf numeral) ↔ IsKept 32 numeral := by
  have digits := (unsigned_of_isInteger integer).2
  have read := integerLiteral?_append (ne_nil_of_isInteger integer) []
  rw [List.append_nil, List.append_nil, suffixedLiteral?_of_isDigit digits] at read
  rw [read]
  exact digitsLiteral?_iff_isKept integer (by omega)

theorem integerLiteral?_long {numeral : Text} (integer : isInteger numeral) :
    integerLiteral? (numeral ++ "L") = some (integerOf numeral) ↔ IsKept 64 numeral := by
  rw [integerLiteral?_append (ne_nil_of_isInteger integer), suffixedLiteral?_long]
  exact digitsLiteral?_iff_isKept integer (by omega)

theorem isKept_iff_of_magnitude_le {numeral : Text} (small : magnitude numeral ≤ maxInt) :
    IsKept 32 numeral ↔ IsKept 64 numeral := by
  have fits : ∀ bits, 32 ≤ bits → Fits bits (integerOf numeral) := by
    intro bits wide
    have power : 2 ^ 31 ≤ 2 ^ (bits - 1) := Nat.pow_le_pow_right (by omega) (by omega)
    have power : (2 : Int) ^ 31 ≤ 2 ^ (bits - 1) := by exact_mod_cast power
    unfold maxInt at small
    unfold Fits integerOf withSign
    split <;> omega
  exact ⟨fun kept => ⟨kept.ascii, kept.decimal, fits 64 (by omega)⟩,
    fun kept => ⟨kept.ascii, kept.decimal, fits 32 (by omega)⟩⟩

theorem numberCode_kept {numeral emitted : Text} (integer : isInteger numeral) (integral : .char '.' ∉ numeral)
    (written : numberCode numeral = .ok emitted) :
    integerLiteral? emitted = some (integerOf numeral) ↔ IsKept 64 numeral := by
  have whole : numeral.contains (.char '.') = false := by simpa using integral
  unfold numberCode at written
  rw [whole] at written
  simp only [Bool.false_eq_true, if_false] at written
  split at written
  · cases written
  · split at written
    · cases written
      exact integerLiteral?_long integer
    · rename_i small
      cases written
      exact (integerLiteral?_int integer).trans (isKept_iff_of_magnitude_le (Nat.le_of_not_lt small))

/-! ### Integers among the tokens -/

theorem isInteger_of_numeral? {t numeral : Text} (read : numeral? t = some numeral) (integral : .char '.' ∉ numeral) :
    isInteger numeral := by
  unfold numeral? at read
  dsimp only at read
  split at read
  · rename_i accepted
    cases read
    have digits : ∀ c ∈ digitRun (t.drop (minusSign t).length), c.isDigit := fun c => isDigit_of_mem_digitRun
    have noFraction : fraction (t.drop ((minusSign t).length + (digitRun (t.drop (minusSign t).length)).length)) = [] := by
      rcases fraction_cases (t.drop ((minusSign t).length + (digitRun (t.drop (minusSign t).length)).length)) with
        none | ⟨_, point, _⟩
      · exact none
      · exact absurd (by simp [point]) integral
    rw [noFraction, List.append_nil]
    generalize digitRun (t.drop (minusSign t).length) = whole at accepted digits
    rcases minusSign_cases t with sign | sign
    · rw [sign, List.nil_append]
      unfold isInteger
      split
      · exact absurd (digits (.char '-') List.mem_cons_self) (by decide)
      · simpa [accepted.1] using digits
    · rw [sign]
      simpa [isInteger, accepted.1] using digits
  · cases read

theorem tokens_isInteger {script : Text} {ts : List PlacedToken} (read : tokens script = .ok ts) {numeral : Text}
    (member : .number numeral ∈ ts.map (·.token)) (integral : .char '.' ∉ numeral) : isInteger numeral := by
  obtain ⟨p, present, number⟩ := List.mem_map.mp member
  obtain ⟨c, u, next⟩ := mem_tokensFrom read present
  rw [number] at next
  exact isInteger_of_numeral? (numeral?_of_nextToken next) integral

/-! ### Where the code has them -/

/-- The argument stands in the code behind a comma, and a comma or the closing parenthesis follows it. -/
def IsArgument (code argument : Text) : Prop :=
  ∃ front back, code = front ++ ", " ++ argument ++ back ∧
    (back.head? = some (.char ',') ∨ back.head? = some (.char ')'))

theorem IsArgument.within {code argument : Text} (inside : IsArgument code argument) (before after : Text) :
    IsArgument (before ++ code ++ after) argument := by
  obtain ⟨front, back, rfl, next⟩ := inside
  refine ⟨before ++ front, back ++ after, by simp, ?_⟩
  cases back with
  | nil => simp at next
  | cons c back => simpa using next

theorem Clause.number_emitted {x : Clause} (accepted : x.IsAccepted) {numeral : Text}
    (present : .number numeral ∈ x.tokens) :
    (Token.number numeral).HasCode ∧ IsArgument x.code (Token.number numeral).code := by
  cases x with
  | alone x =>
    have number : x.1 = .number numeral := by simpa [Clause.tokens, eq_comm] using present
    refine ⟨number ▸ accepted, "toBoolean(exchange", ")", ?_, Or.inr rfl⟩
    simp [Clause.code, number, Text.ofString]
  | compared l op r =>
    simp only [Clause.tokens, List.mem_cons, List.not_mem_nil, or_false, reduceCtorEq, false_or] at present
    rcases present with left | right
    · refine ⟨left ▸ accepted.1, (if op.isNegated then "!" else "") ++ op.helper ++ "(exchange",
        ", " ++ (if op.takesType then r.1.value ++ ".class" else r.1.code) ++ ")", ?_, Or.inl rfl⟩
      simp [Clause.code, ← left, Text.ofString]
    · have code := accepted.2
      rw [← right] at code
      have plain : op.takesType = false := by
        by_contra taken
        rw [if_pos (by simpa using taken)] at code
        exact code
      rw [plain] at code
      refine ⟨code, (if op.isNegated then "!" else "") ++ op.helper ++ "(exchange, " ++ l.1.code, ")", ?_, Or.inr rfl⟩
      simp [Clause.code, plain, ← right, Text.ofString]

theorem Sentence.number_emitted {s : Sentence} (accepted : s.IsAccepted) {numeral : Text}
    (present : .number numeral ∈ s.tokens) :
    (Token.number numeral).HasCode ∧ IsArgument s.code (Token.number numeral).code := by
  have clause : ∃ x : Clause, x.IsAccepted ∧ .number numeral ∈ x.tokens ∧
      x.code ∈ s.first.code :: s.rest.flatMap fun x => [x.1.spelling, x.2.code] := by
    simp only [Sentence.tokens, Sentence.restTokens, List.mem_append, List.mem_flatMap, List.mem_cons, reduceCtorEq,
      false_or] at present
    rcases present with here | ⟨x, member, here⟩
    · exact ⟨s.first, accepted.1, here, List.mem_cons_self⟩
    · exact ⟨x.2, accepted.2 x member, here, List.mem_cons_of_mem _ (List.mem_flatMap.mpr ⟨x, member, by simp⟩)⟩
  obtain ⟨x, accepted, here, member⟩ := clause
  obtain ⟨code, inside⟩ := Clause.number_emitted accepted here
  obtain ⟨before, after, joined⟩ := Text.joinWith_of_mem " " member
  rw [Sentence.code, joined]
  exact ⟨code, inside.within before after⟩

theorem sentence_of_predicateCode {script code : Text} {ts : List PlacedToken} (read : tokens script = .ok ts)
    (compiled : predicateCode script = .ok code) :
    ∃ s : Sentence, s.tokens = ts.map (·.token) ∧ s.IsAccepted ∧ s.code = code := by
  unfold predicateCode at compiled
  rw [read] at compiled
  obtain ⟨_, start, compiled⟩ := Fallible.bind_ok compiled
  cases start
  obtain ⟨pieces, written, compiled⟩ := Fallible.bind_ok compiled
  split at compiled
  · cases compiled
  · rename_i sound
    cases compiled
    obtain ⟨s, derived⟩ := (parse_of ts).sound sound
    have decided := linkedCode_decides (parse_sentence derived).2 fun x member numeral present =>
      tokens_isNumeral read (by rw [← derived]; exact mem_tokens_of_linkedClauses member present)
    obtain ⟨accepted, rfl⟩ := decided.ok_iff.mp written
    exact ⟨s, derived, (linkedClauses_accepted s).mp accepted, (flatten_linkedPieces s).symm⟩

/-- An integer in the code is the integer of the script exactly when it is kept in the bits of its type. -/
theorem integers_kept (script body : Text) :
    (∀ (code numeral : Text) (ts : List PlacedToken), tokens script = .ok ts →
      predicateCode script = .ok code → .number numeral ∈ ts.map (·.token) → .char '.' ∉ numeral →
      ∃ emitted, numberCode numeral = .ok emitted ∧ IsArgument code emitted ∧
        (integerLiteral? emitted = some (integerOf numeral) ↔ IsKept 64 numeral)) ∧
    ∀ (first : Text) (second : Option Text), call? (Text.strip body) = some (.random first second) →
      functionCode body =
        .ok (apply "random" ("exchange" :: second.elim ["0", first] fun last => [first, last])) ∧
      ∀ argument ∈ first :: second.toList,
        (integerLiteral? argument = some (integerOf argument) ↔ IsKept 32 argument) := by
  constructor
  · intro code numeral ts read compiled member integral
    have integer := tokens_isInteger read member integral
    obtain ⟨s, derived, accepted, rfl⟩ := sentence_of_predicateCode read compiled
    have present : .number numeral ∈ s.tokens := by rw [derived]; exact member
    obtain ⟨code, position⟩ := s.number_emitted accepted present
    have written := (numberCode_decides (tokens_isNumeral read member)).ok_iff.mpr ⟨code, rfl⟩
    exact ⟨_, written, position, numberCode_kept integer integral written⟩
  · intro first second called
    have wellFormed := call?_wellFormed called
    refine ⟨?_, ?_⟩
    · unfold functionCode
      dsimp only
      rw [called]
      cases second <;> rfl
    · intro argument member
      refine integerLiteral?_int ?_
      rcases List.mem_cons.mp member with rfl | member
      · exact wellFormed.1
      · exact wellFormed.2 argument (Option.mem_toList.mp member)

/-- A numeral that a zero makes octal and the least `int` in one predicate, and an argument beyond `int`. -/
theorem integers_kept_boundaries :
    (predicateCode "010 == -2147483648" = .ok "isEqualTo(exchange, 010, -2147483648L)" ∧
      IsArgument "isEqualTo(exchange, 010, -2147483648L)" "010" ∧ integerLiteral? "010" = some 8 ∧
      integerOf "010" = 10 ∧ ¬IsKept 64 "010" ∧
      IsArgument "isEqualTo(exchange, 010, -2147483648L)" "-2147483648L" ∧
      integerLiteral? "-2147483648L" = some (-2147483648) ∧ IsKept 64 "-2147483648") ∧
    functionCode "random(3000000000)" = .ok "random(exchange, 0, 3000000000)" ∧
      integerLiteral? "3000000000" = none ∧ ¬IsKept 32 "3000000000" := by
  have read : tokens "010 == -2147483648" =
      .ok [⟨.number "010", 0, 3⟩, ⟨.operator .equal, 4, 2⟩, ⟨.number "-2147483648", 7, 11⟩] :=
    Fallible.ok_of_toOption (by decide +kernel)
  have compiled : predicateCode "010 == -2147483648" = .ok "isEqualTo(exchange, 010, -2147483648L)" :=
    Fallible.ok_of_toOption (by decide +kernel)
  have called : call? (Text.strip "random(3000000000)") = some (.random "3000000000" none) := by decide +kernel
  obtain ⟨_, written, inside, kept⟩ := (integers_kept _ []).1 _ "010" _ read compiled (by decide) (by decide)
  obtain ⟨_, written', inside', kept'⟩ := (integers_kept _ []).1 _ "-2147483648" _ read compiled (by decide) (by decide)
  obtain ⟨code, arguments⟩ := (integers_kept [] _).2 _ _ called
  have octal : numberCode "010" = .ok "010" := Fallible.ok_of_toOption (by decide +kernel)
  have least : numberCode "-2147483648" = .ok "-2147483648L" := Fallible.ok_of_toOption (by decide +kernel)
  cases written.symm.trans octal
  cases written'.symm.trans least
  have values : integerLiteral? "010" = some 8 ∧ integerOf "010" = 10 ∧
      integerLiteral? "-2147483648L" = some (-2147483648) ∧ integerOf "-2147483648" = -2147483648 ∧
      integerLiteral? "3000000000" = none := by decide +kernel
  obtain ⟨eight, ten, same, same', none⟩ := values
  refine ⟨⟨compiled, inside, eight, ten, fun holds => ?_, inside', same, kept'.mp (by rw [same, same'])⟩,
    code.trans (congrArg Except.ok (by decide +kernel)), none, fun holds => ?_⟩
  · have wrong := kept.mpr holds
    rw [eight, ten] at wrong
    cases wrong
  · have wrong := (arguments _ List.mem_cons_self).mpr holds
    rw [none] at wrong
    cases wrong

end RouteScript.Script
