import RouteScript.Proofs.Script.Boundary
import RouteScript.Proofs.Script.Braces
import RouteScript.Proofs.Script.QuotedLiteral

/-!
# Lexemes of predicates

`Lexed` is the lexical grammar of predicates: which text is which token, and what has to stand behind it.
`nextToken` reads exactly these texts (`lexed_of_nextToken`, `Lexed.nextToken_eq`), and it fails only where a
function or a literal is malformed (`nextToken_error`).
-/

namespace RouteScript.Script

def wordPairs : List (Text × Operator) := [("starts", .startsWithApart), ("ends", .endsWithApart)]

/-- No function, literal, logical operator or operator in symbols begins `t`. -/
structure BeginsWord (t : Text) : Prop where
  noFunction : functionOpening? t = none
  noQuote : t.head? ≠ some (.char '\'') ∧ t.head? ≠ some (.char '"')
  noLogical : logical? t = none
  noSymbol : symbol? t = none

instance (t : Text) : Decidable (BeginsWord t) :=
  decidable_of_iff (functionOpening? t = none ∧ (t.head? ≠ some (.char '\'') ∧ t.head? ≠ some (.char '"')) ∧
      logical? t = none ∧ symbol? t = none)
    ⟨fun ⟨noFunction, noQuote, noLogical, noSymbol⟩ => ⟨noFunction, noQuote, noLogical, noSymbol⟩,
      fun begins => ⟨begins.noFunction, begins.noQuote, begins.noLogical, begins.noSymbol⟩⟩

structure IsPlainWord (w : Text) : Prop extends BeginsWord w where
  filled : w ≠ []
  visible : IsVisible w
  noOperator : ∀ op ∈ Operator.words, op.spelling ≠ w
  noNumber : numeral? w = none

/-- `piece` is read as `token` where `rest` stands behind it. -/
inductive Lexed : Text → Text → Token → Prop
  | function {opening inner rest : Text} (known : opening ∈ functionOpenings) (balanced : Balanced inner)
      (filled : Text.strip inner ≠ []) : Lexed (functionText opening inner) rest (.function (Text.strip inner))
  | quoted {quote : CodePoint} {value body rest : Text} (mark : quote = .char '\'' ∨ quote = .char '"')
      (quotes : Quotes quote value body) : Lexed (quote :: (body ++ [quote])) rest (.quoted value)
  | logical (op : Logical) (rest : Text) : Lexed op.spelling rest (.logical op)
  | symbol {op : Operator} {rest : Text} (found : symbol? (op.spelling ++ rest) = some op) :
      Lexed op.spelling rest (.operator op)
  | pair {first gap rest : Text} {op : Operator} (known : (first, op) ∈ wordPairs) (filled : gap ≠ [])
      (blanks : ∀ c ∈ gap, c.isBlank) (boundary : atBoundary rest) :
      Lexed (first ++ gap ++ "with") rest (.operator op)
  | wordOperator {op : Operator} {rest : Text} (known : op ∈ Operator.words) (boundary : atBoundary rest) :
      Lexed op.spelling rest (.operator op)
  | number {numeral rest : Text} (whole : numeral? numeral = some numeral) (boundary : atBoundary rest) :
      Lexed numeral rest (.number numeral)
  | word {w rest : Text} (plain : IsPlainWord w) (boundary : atBoundary rest)
      (single : ∀ pair ∈ wordPairs, wordPair? pair.1 "with" (w ++ rest) = none) : Lexed w rest (.ofWord w)

/-- A function or a literal that is not as it should be begins `t`. -/
inductive Malformed : SyntaxCause → Text → Prop
  | function {cause : SyntaxCause} {t : Text} (malformed : MalformedFunction cause t) : Malformed cause t
  | literal {quote : CodePoint} {t : Text} (mark : quote = .char '\'' ∨ quote = .char '"')
      (never : ∀ value body rest, t = body ++ quote :: rest → ¬Quotes quote value body) :
      Malformed (.unclosedLiteral quote) (quote :: t)

/-! ### Where words begin -/

theorem openings_visible : ∀ opening ∈ functionOpenings, IsVisible opening := by decide +kernel

theorem logicals_visible : ∀ op ∈ [Logical.and, .or], IsVisible op.spelling := by decide +kernel

theorem operators_visible : ∀ op ∈ Operator.symbols ++ Operator.words, IsVisible op.spelling := by decide +kernel

theorem BeginsWord.of_append {t rest : Text} (begins : BeginsWord (t ++ rest)) : BeginsWord t := by
  have longer : ∀ {front : Text}, front <+: t → front <+: t ++ rest := fun inside => inside.trans ⟨rest, rfl⟩
  refine ⟨?_, ?_, ?_, ?_⟩
  · exact find?_none_of_fewer begins.noFunction fun _ _ => longer
  · obtain ⟨single, double⟩ := begins.noQuote
    cases t with
    | nil => simp
    | cons c t => exact ⟨single, double⟩
  · exact find?_none_of_fewer begins.noLogical fun _ _ => longer
  · exact find?_none_of_fewer begins.noSymbol fun _ _ => longer

theorem BeginsWord.append {t rest : Text} (begins : BeginsWord t) (boundary : atBoundary rest) : BeginsWord (t ++ rest) := by
  refine ⟨?_, ?_, ?_, ?_⟩
  · exact find?_none_of_fewer begins.noFunction fun opening known =>
      prefix_of_boundary (openings_visible opening known) boundary
  · exact ⟨mt (head?_boundary boundary (by decide) t).mp begins.noQuote.1,
      mt (head?_boundary boundary (by decide) t).mp begins.noQuote.2⟩
  · exact find?_none_of_fewer begins.noLogical fun op known => prefix_of_boundary (logicals_visible op known) boundary
  · exact find?_none_of_fewer begins.noSymbol fun op known =>
      prefix_of_boundary (operators_visible op (List.mem_append_left _ known)) boundary

theorem BeginsWord.quote_ne {c : CodePoint} {t : Text} (begins : BeginsWord (c :: t)) :
    ¬(c = .char '\'' ∨ c = .char '"') := by
  rintro (rfl | rfl)
  · exact begins.noQuote.1 rfl
  · exact begins.noQuote.2 rfl

section NextToken

variable {index : Nat} {c : CodePoint} {t : Text} (begins : BeginsWord (c :: t))
include begins

theorem nextToken_operator {op : Operator} {width : Nat} (found : wordOperator? (c :: t) = some (op, width)) :
    nextToken index c t = .ok (.operator op, width) := by
  simp only [nextToken, begins.noFunction, begins.quote_ne, begins.noLogical, begins.noSymbol, found, if_false]

theorem nextToken_number {numeral : Text} (noOperator : wordOperator? (c :: t) = none)
    (found : numeral? (c :: t) = some numeral) : nextToken index c t = .ok (.number numeral, numeral.length) := by
  simp only [nextToken, begins.noFunction, begins.quote_ne, begins.noLogical, begins.noSymbol, noOperator, found, if_false]

theorem nextToken_word {w : Text} (noOperator : wordOperator? (c :: t) = none) (noNumber : numeral? (c :: t) = none)
    (whole : (c :: t).takeWhile (!·.isBlank) = w) (filled : w ≠ []) :
    nextToken index c t = .ok (.ofWord w, w.length) := by
  simp only [nextToken, begins.noFunction, begins.quote_ne, begins.noLogical, begins.noSymbol, noOperator, noNumber, whole,
    if_false]

end NextToken

/-! ### Operators in words -/

theorem wordOperator?_eq_some {t : Text} {op : Operator} {width : Nat} (found : wordOperator? t = some (op, width)) :
    (∃ first, (first, op) ∈ wordPairs ∧ wordPair? first "with" t = some width) ∨
      op ∈ Operator.words ∧ ∃ rest, t = op.spelling ++ rest ∧ atBoundary rest ∧ width = op.spelling.length := by
  unfold wordOperator? at found
  cases starts : wordPair? "starts" "with" t with
  | some size =>
    rw [starts] at found
    cases found
    exact Or.inl ⟨"starts", List.mem_cons_self, starts⟩
  | none =>
    cases ends : wordPair? "ends" "with" t with
    | some size =>
      rw [starts, ends] at found
      cases found
      exact Or.inl ⟨"ends", List.mem_cons_of_mem _ List.mem_cons_self, ends⟩
    | none =>
      rw [starts, ends] at found
      obtain ⟨other, read, same⟩ := Option.map_eq_some_iff.mp found
      cases same
      have begins := List.find?_some read
      cases behind : Text.after? op.spelling t with
      | none =>
        rw [behind] at begins
        cases begins
      | some rest =>
        rw [behind] at begins
        exact Or.inr ⟨List.mem_of_find?_eq_some read, rest, Text.after?_eq_some_iff.mp behind, begins, rfl⟩

theorem wordOperator?_eq_none_iff {t : Text} :
    wordOperator? t = none ↔
      (∀ pair ∈ wordPairs, wordPair? pair.1 "with" t = none) ∧
        ∀ op ∈ Operator.words, ¬((Text.after? op.spelling t).map atBoundary).getD false := by
  simp [wordOperator?, wordPairs, and_assoc]

theorem wordPairs_visible : ∀ pair ∈ wordPairs, IsVisible pair.1 := by decide +kernel

theorem words_injective : ∀ op ∈ Operator.words, ∀ op' ∈ Operator.words, op'.spelling = op.spelling → op' = op := by
  decide +kernel

theorem wordOperator?_eq_none {w rest : Text} (visible : IsVisible w) (boundary : atBoundary rest)
    (single : ∀ pair ∈ wordPairs, wordPair? pair.1 "with" (w ++ rest) = none)
    (noOperator : ∀ op ∈ Operator.words, op.spelling ≠ w) : wordOperator? (w ++ rest) = none := by
  refine wordOperator?_eq_none_iff.mpr ⟨single, fun op known found => noOperator op known ?_⟩
  exact (startsWord_iff visible (operators_visible op (List.mem_append_right _ known)) boundary).mp found

theorem wordOperator?_spelling {op : Operator} (known : op ∈ Operator.words) {rest : Text} (boundary : atBoundary rest) :
    wordOperator? (op.spelling ++ rest) = some (op, op.spelling.length) := by
  have visible : ∀ op ∈ Operator.words, IsVisible op.spelling := fun op known =>
    operators_visible op (List.mem_append_right _ known)
  cases found : wordOperator? (op.spelling ++ rest) with
  | none =>
    have missed := (wordOperator?_eq_none_iff.mp found).2 op known
    exact absurd ((startsWord_iff (visible op known) (visible op known) boundary).mpr rfl) missed
  | some result =>
    obtain ⟨op', width⟩ := result
    rcases wordOperator?_eq_some found with ⟨first, pair, paired⟩ | ⟨known', rest', cut, boundary', rfl⟩
    · have other : ∀ pair ∈ wordPairs, ∀ op ∈ Operator.words, pair.1 ≠ op.spelling := by decide
      rw [wordPair?_eq_none (visible op known) (wordPairs_visible _ pair) boundary (other _ pair op known)] at paired
      cases paired
    · have same := (visible_unique (visible op known) (visible op' known') boundary boundary' cut).1
      rw [words_injective op known op' known' same.symm]

theorem wordOperator?_pair {first t : Text} {op : Operator} (known : (first, op) ∈ wordPairs) {width : Nat}
    (found : wordPair? first "with" t = some width) : wordOperator? t = some (op, width) := by
  rcases List.mem_cons.mp known with same | member
  · cases same
    rw [wordOperator?, found]
    rfl
  · cases List.mem_singleton.mp member
    have noStarts : wordPair? "starts" "with" t = none := by
      obtain ⟨gap, tail, rfl, _⟩ := wordPair?_eq_some_iff.mp found
      rfl
    rw [wordOperator?, found, noStarts]
    rfl

/-! ### Numbers -/

theorem head_of_numeral? {t numeral : Text} (read : numeral? t = some numeral) :
    ∃ c u, numeral = c :: u ∧ (c = .char '-' ∨ c.isDigit) := by
  unfold numeral? at read
  dsimp only at read
  split at read
  · rename_i holds
    cases read
    rcases minusSign_cases t with sign | sign
    · cases digits : digitRun (t.drop (minusSign t).length) with
      | nil => exact absurd digits holds.1
      | cons c u =>
        have digit : c.isDigit := isDigit_of_mem_digitRun (by rw [digits]; exact List.mem_cons_self)
        exact ⟨c, _, by rw [sign]; rfl, Or.inr digit⟩
    · exact ⟨.char '-', _, by rw [sign]; rfl, Or.inl rfl⟩
  · cases read

def OffNumber (t : Text) : Prop := t ≠ [] ∧ ∀ c ∈ t.head?, c ≠ .char '-' ∧ ¬c.isDigit

instance (t : Text) : Decidable (OffNumber t) := inferInstanceAs (Decidable (_ ∧ _))

theorem OffNumber.not_begins {spelling t numeral : Text} (off : OffNumber spelling) (read : numeral? t = some numeral) :
    ¬spelling <+: numeral := by
  obtain ⟨c, u, rfl, begins⟩ := head_of_numeral? read
  intro inside
  cases spelling with
  | nil => exact off.1 rfl
  | cons d spelling =>
    obtain ⟨rfl, _⟩ := List.cons_prefix_cons.mp inside
    obtain ⟨noMinus, noDigit⟩ := off.2 d rfl
    exact begins.elim noMinus noDigit

theorem openings_off : ∀ opening ∈ functionOpenings, OffNumber opening := by decide +kernel

theorem logicals_off : ∀ op ∈ [Logical.and, .or], OffNumber op.spelling := by decide +kernel

theorem operators_off : ∀ op ∈ Operator.symbols ++ Operator.words, OffNumber op.spelling := by decide +kernel

theorem wordPairs_off : ∀ pair ∈ wordPairs, OffNumber pair.1 := by decide +kernel

theorem beginsWord_of_numeral {t numeral : Text} (read : numeral? t = some numeral) : BeginsWord numeral := by
  refine ⟨?_, ?_, ?_, ?_⟩
  · exact functionOpening?_eq_none_iff.mpr fun opening known => (openings_off opening known).not_begins read
  · obtain ⟨c, u, rfl, begins⟩ := head_of_numeral? read
    have quotes : ∀ quote ∈ [CodePoint.char '\'', .char '"'], quote ≠ .char '-' ∧ ¬quote.isDigit := by decide
    constructor
    · rintro ⟨⟩
      simp [quotes] at begins
    · rintro ⟨⟩
      simp [quotes] at begins
  · refine List.find?_eq_none.mpr fun op known begins => ?_
    exact (logicals_off op known).not_begins read (Text.startsWith_iff.mp begins)
  · refine List.find?_eq_none.mpr fun op known begins => ?_
    exact (operators_off op (List.mem_append_left _ known)).not_begins read (Text.startsWith_iff.mp begins)

theorem wordOperator?_of_numeral {numeral rest : Text} (whole : numeral? numeral = some numeral)
    (boundary : atBoundary rest) : wordOperator? (numeral ++ rest) = none := by
  have visible := isVisible_of_isNumeral (numeral?_isNumeral whole)
  refine wordOperator?_eq_none visible boundary ?_ ?_
  · intro pair member
    refine wordPair?_eq_none visible (wordPairs_visible pair member) boundary fun same => ?_
    exact (wordPairs_off pair member).not_begins whole (by rw [same])
  · intro op known same
    exact (operators_off op (List.mem_append_right _ known)).not_begins whole (by rw [same])

/-! ### Reading a lexeme -/

theorem symbols_begin : ∀ op ∈ Operator.symbols, ∀ rest : Text,
    functionOpening? (op.spelling ++ rest) = none ∧ logical? (op.spelling ++ rest) = none ∧
      ∃ c t, op.spelling = c :: t ∧ ¬(c = .char '\'' ∨ c = .char '"') := by
  intro op known rest
  cases op
  all_goals first
    | exact absurd known (by decide)
    | exact ⟨rfl, rfl, _, _, rfl, by decide⟩

theorem wordPairs_begin : ∀ pair ∈ wordPairs, BeginsWord pair.1 := by decide +kernel

theorem words_begin : ∀ op ∈ Operator.words, BeginsWord op.spelling := by decide +kernel

theorem Lexed.nextToken_eq {piece rest : Text} {token : Token} (lexed : Lexed piece rest token) (index : Nat)
    {c : CodePoint} {t : Text} (cut : c :: t = piece ++ rest) : nextToken index c t = .ok (token, piece.length) := by
  cases lexed with
  | @function opening inner _ known balanced filled =>
    have begins : opening <+: c :: t := cut ▸ opening_prefix_functionText opening inner rest
    have body : (c :: t).drop opening.length = inner ++ .char '}' :: rest := by
      rw [cut, functionText, List.append_assoc, List.append_assoc, List.drop_left]
      rfl
    have width : opening.length + (inner.length + 1) = (functionText opening inner).length := by simp [functionText]
    rw [nextToken, functionOpening?_of_prefix known begins]
    dsimp only
    rw [body, readFunction_of_balanced index balanced filled, ← width]
    rfl
  | @quoted quote value body _ mark quotes =>
    rw [List.cons_append, List.append_assoc, List.singleton_append, List.cons.injEq] at cut
    obtain ⟨rfl, rfl⟩ := cut
    have noFunction : functionOpening? (c :: (body ++ c :: rest)) = none := by rcases mark with rfl | rfl <;> rfl
    have noBackslash : c ≠ .char '\\' := by rcases mark with rfl | rfl <;> decide
    rw [nextToken, noFunction]
    dsimp only
    rw [if_pos mark, readQuoted_of_quotes noBackslash quotes]
    simp
  | logical op =>
    cases op <;> cases cut <;> rfl
  | @symbol op _ found =>
    obtain ⟨noFunction, noLogical, d, u, spelled, noQuote⟩ := symbols_begin op (List.mem_of_find?_eq_some found) rest
    have same : c = d := by
      rw [spelled] at cut
      exact (List.cons.inj cut).1
    rw [nextToken, cut, noFunction, same]
    simp only [noQuote, noLogical, found, if_false]
  | @pair first gap _ op known filled blanks boundary =>
    have begins := (wordPairs_begin _ known).append (atBoundary_gap filled blanks ("with" ++ rest))
    rw [List.append_assoc, List.append_assoc] at cut
    rw [← cut] at begins
    exact nextToken_operator begins
      (wordOperator?_pair known (wordPair?_eq_some_iff.mpr ⟨gap, rest, cut, filled, blanks, boundary, rfl⟩))
  | @wordOperator op _ known boundary =>
    have begins := (words_begin op known).append boundary
    rw [← cut] at begins
    exact nextToken_operator begins (cut ▸ wordOperator?_spelling known boundary)
  | number whole boundary =>
    have begins := (beginsWord_of_numeral whole).append boundary
    have visible := isVisible_of_isNumeral (numeral?_isNumeral whole)
    rw [← cut] at begins
    refine nextToken_number begins (cut ▸ wordOperator?_of_numeral whole boundary) ?_
    rw [cut, numeral?_boundary boundary visible, whole]
  | word plain boundary single =>
    have begins := plain.toBeginsWord.append boundary
    rw [← cut] at begins
    refine nextToken_word begins ?_ ?_ ?_ plain.filled
    · rw [cut]
      exact wordOperator?_eq_none plain.visible boundary single plain.noOperator
    · rw [cut, numeral?_boundary boundary plain.visible, plain.noNumber]
    · rw [cut, takeWhile_boundary (by simp) boundary]
      exact List.takeWhile_eq_self_iff.mpr fun c member => by simpa using plain.visible c member

theorem beginsWord_of_cons {c : CodePoint} {t : Text} (noFunction : functionOpening? (c :: t) = none)
    (noQuote : ¬(c = .char '\'' ∨ c = .char '"')) (noLogical : logical? (c :: t) = none)
    (noSymbol : symbol? (c :: t) = none) : BeginsWord (c :: t) := by
  refine ⟨noFunction, ⟨?_, ?_⟩, noLogical, noSymbol⟩
  · rintro ⟨⟩
    exact noQuote (Or.inl rfl)
  · rintro ⟨⟩
    exact noQuote (Or.inr rfl)

theorem visible_split (t : Text) :
    ∃ rest, t = t.takeWhile (!·.isBlank) ++ rest ∧ IsVisible (t.takeWhile (!·.isBlank)) ∧ atBoundary rest := by
  refine ⟨t.dropWhile (!·.isBlank), List.takeWhile_append_dropWhile.symm, fun c member => ?_, ?_⟩
  · simpa using List.all_eq_true.mp List.all_takeWhile c member
  · cases behind : t.dropWhile (!·.isBlank) with
    | nil => rfl
    | cons c rest =>
      have stops := List.head?_dropWhile_not (!·.isBlank) t
      rw [behind] at stops
      simpa [atBoundary] using stops

theorem lexed_of_beginsWord {w rest : Text} (begins : BeginsWord (w ++ rest)) (filled : w ≠ []) (visible : IsVisible w)
    (boundary : atBoundary rest) (noOperator : wordOperator? (w ++ rest) = none) (noNumber : numeral? (w ++ rest) = none) :
    Lexed w rest (.ofWord w) := by
  obtain ⟨single, noWord⟩ := wordOperator?_eq_none_iff.mp noOperator
  rw [numeral?_boundary boundary visible] at noNumber
  refine .word ⟨begins.of_append, filled, visible, fun op known same => noWord op known ?_, noNumber⟩ boundary single
  exact (startsWord_iff visible (operators_visible op (List.mem_append_right _ known)) boundary).mpr same

theorem lexed_of_nextToken {index : Nat} {c : CodePoint} {t : Text} {token : Token} {width : Nat}
    (read : nextToken index c t = .ok (token, width)) :
    ∃ piece rest, c :: t = piece ++ rest ∧ width = piece.length ∧ Lexed piece rest token := by
  -- One split for each form, in the order in which they are tried. What none of them takes is a word.
  unfold nextToken at read
  split at read
  · rename_i opening found
    obtain ⟨known, begins⟩ := functionOpening?_eq_some found
    obtain ⟨⟨body, more⟩, closed, read⟩ := Fallible.bind_ok read
    obtain ⟨inner, rest, cut, balanced, rfl, filled, rfl⟩ := readFunction_ok closed
    cases read
    refine ⟨functionText opening inner, rest, ?_, by simp [functionText], .function known balanced filled⟩
    rw [List.prefix_iff_eq_append.mp begins |>.symm, cut]
    simp [functionText]
  rename_i noFunction
  split at read
  · rename_i mark
    split at read
    · rename_i value width closed
      cases read
      obtain ⟨body, rest, rfl, quotes, rfl⟩ := quotes_of_readQuoted closed
      exact ⟨c :: (body ++ [c]), rest, by simp, by simp, .quoted mark quotes⟩
    · cases read
  rename_i noQuote
  split at read
  · rename_i op found
    cases read
    have begins := List.find?_some found
    obtain ⟨rest, cut⟩ := Text.startsWith_iff.mp begins
    exact ⟨op.spelling, rest, cut.symm, rfl, .logical op rest⟩
  rename_i noLogical
  split at read
  · rename_i op found
    cases read
    have begins := List.find?_some found
    obtain ⟨rest, cut⟩ := Text.startsWith_iff.mp begins
    rw [← cut] at found
    exact ⟨op.spelling, rest, cut.symm, rfl, .symbol found⟩
  rename_i noSymbol
  split at read
  · rename_i op width found
    cases read
    rcases wordOperator?_eq_some found with ⟨first, known, paired⟩ | ⟨known, rest, cut, boundary, rfl⟩
    · obtain ⟨gap, tail, cut, filled, blanks, boundary, rfl⟩ := wordPair?_eq_some_iff.mp paired
      exact ⟨_, tail, by rw [cut]; simp, rfl, .pair known filled blanks boundary⟩
    · exact ⟨op.spelling, rest, cut, rfl, .wordOperator known boundary⟩
  rename_i noOperator
  split at read
  · rename_i numeral found
    cases read
    obtain ⟨rest, cut, boundary, whole⟩ := numeral?_eq_some found
    exact ⟨numeral, rest, cut, rfl, .number whole boundary⟩
  rename_i noNumber
  split at read
  · cases read
  · rename_i filled
    cases read
    obtain ⟨rest, cut, visible, boundary⟩ := visible_split (c :: t)
    have begins := beginsWord_of_cons noFunction noQuote (Option.eq_none_iff_forall_ne_some.mpr noLogical)
      (Option.eq_none_iff_forall_ne_some.mpr noSymbol)
    have noOperator' : wordOperator? (c :: t) = none :=
      Option.eq_none_iff_forall_ne_some.mpr (Prod.forall.mpr noOperator)
    have noNumber' : numeral? (c :: t) = none := Option.eq_none_iff_forall_ne_some.mpr noNumber
    rw [cut] at begins noOperator' noNumber'
    exact ⟨_, rest, cut, rfl, lexed_of_beginsWord begins filled visible boundary noOperator' noNumber'⟩

/-- A lexeme is read as before where a boundary stays one, no more spellings begin with it and it makes no pair with a
word behind it. -/
theorem Lexed.of_behind {piece rest rest' : Text} {token : Token} (lexed : Lexed piece rest token)
    (boundary' : atBoundary rest → atBoundary rest')
    (fewer : ∀ front : Text, IsVisible front → front <+: piece ++ rest' → front <+: piece ++ rest)
    (alone : IsVisible piece → atBoundary rest → ∀ pair ∈ wordPairs, wordPair? pair.1 "with" (piece ++ rest) = none →
      wordPair? pair.1 "with" (piece ++ rest') = none) : Lexed piece rest' token := by
  cases lexed with
  | function known balanced filled => exact .function known balanced filled
  | quoted mark quotes => exact .quoted mark quotes
  | logical op => exact .logical op rest'
  | symbol found =>
    exact .symbol (find?_some_of_fewer found ⟨rest', rfl⟩ fun op known =>
      fewer op.spelling (operators_visible op (List.mem_append_left _ known)))
  | pair known filled blanks boundary => exact .pair known filled blanks (boundary' boundary)
  | wordOperator known boundary => exact .wordOperator known (boundary' boundary)
  | number whole boundary => exact .number whole (boundary' boundary)
  | word plain boundary single =>
    exact .word plain (boundary' boundary) fun pair known => alone plain.visible boundary pair known (single pair known)

/-- Reading fails only at a malformed function or literal: a word begins at any other visible code point. -/
theorem nextToken_error {index : Nat} {c : CodePoint} {t : Text} (visible : ¬c.isBlank) {fault : SyntaxFault}
    (failed : nextToken index c t = .error fault) : fault.index = index ∧ Malformed fault.cause (c :: t) := by
  unfold nextToken at failed
  split at failed
  · rename_i opening found
    obtain ⟨known, rest, cut⟩ := functionOpening?_eq_some found
    rcases Fallible.bind_error failed with unread | ⟨_, _, impossible⟩
    · obtain ⟨place, malformed⟩ := readFunction_error known unread
      rw [← cut, List.drop_left, cut] at malformed
      exact ⟨place, .function malformed⟩
    · cases impossible
  · split at failed
    · rename_i mark
      split at failed
      · cases failed
      · rename_i unread
        cases failed
        have noBackslash : c ≠ .char '\\' := by rcases mark with rfl | rfl <;> decide
        exact ⟨rfl, .literal mark ((readQuoted_eq_none_iff noBackslash).mp unread)⟩
    -- Every other form gives a token, and the word that is left has at least `c`.
    · repeat' split at failed
      all_goals try cases failed
      rename_i none
      rw [List.takeWhile_cons, if_pos (by simpa using visible)] at none
      cases none

end RouteScript.Script
