import RouteScript.Proofs.Script.Lexeme

/-!
# Lexemes in a row

A predicate is blanks and lexemes, with blanks behind each lexeme. `tokensFrom` reads a text up to its end or to
the first malformed function or literal (`tokensFrom_layout`), and it reads what is laid out so
(`tokensFrom_laid`). Where blanks are changed but never all removed, the lexemes are read as before
(`IsRead.respaced`).
-/

namespace RouteScript.Script

/-- A token, the text that it is read from and the blanks behind it. -/
structure Lexeme where
  piece : Text
  token : Token
  gap : Text

def laid (back : Text) : List Lexeme → Text
  | [] => back
  | l :: ls => l.piece ++ (l.gap ++ laid back ls)

/-- Each lexeme is read where it stands. -/
inductive IsRead (back : Text) : List Lexeme → Prop
  | nil : IsRead back []
  | cons {l : Lexeme} {ls : List Lexeme} (lexed : Lexed l.piece (l.gap ++ laid back ls) l.token)
      (blanks : ∀ c ∈ l.gap, c.isBlank) (rest : IsRead back ls) : IsRead back (l :: ls)

def placed (index : Nat) : List Lexeme → List PlacedToken
  | [] => []
  | l :: ls => ⟨l.token, index, l.piece.length⟩ :: placed (index + l.piece.length + l.gap.length) ls

theorem laid_append (back : Text) (ls : List Lexeme) : laid back ls = laid [] ls ++ back := by
  induction ls with
  | nil => rfl
  | cons l ls ih => rw [laid, ih, laid, List.append_assoc, List.append_assoc]

theorem map_token_placed (index : Nat) (ls : List Lexeme) : (placed index ls).map (·.token) = ls.map (·.token) := by
  induction ls generalizing index with
  | nil => rfl
  | cons l ls ih => rw [placed, List.map_cons, List.map_cons, ih]

theorem head_of_visible {front : Text} (visible : IsVisible front) (filled : front ≠ []) (more : Text) :
    ∃ c t, front ++ more = c :: t ∧ ¬c.isBlank := by
  cases front with
  | nil => exact absurd rfl filled
  | cons c t => exact ⟨c, t ++ more, rfl, visible c List.mem_cons_self⟩

theorem Lexed.head {piece rest : Text} {token : Token} (lexed : Lexed piece rest token) :
    ∃ c t, piece = c :: t ∧ ¬c.isBlank := by
  have operator : ∀ op ∈ Operator.symbols ++ Operator.words, ∃ c t, op.spelling = c :: t ∧ ¬c.isBlank := by
    intro op known
    simpa using head_of_visible (operators_visible op known) (operators_off op known).1 []
  cases lexed with
  | function known =>
    rw [functionText, List.append_assoc]
    exact head_of_visible (openings_visible _ known) (openings_off _ known).1 _
  | @quoted quote value body _ mark =>
    refine ⟨quote, body ++ [quote], rfl, ?_⟩
    rcases mark with rfl | rfl <;> decide
  | logical op => cases op <;> exact ⟨_, _, rfl, by decide⟩
  | symbol found => exact operator _ (List.mem_append_left _ (List.mem_of_find?_eq_some found))
  | pair known =>
    rw [List.append_assoc]
    exact head_of_visible (wordPairs_visible _ known) (wordPairs_off _ known).1 _
  | wordOperator known => exact operator _ (List.mem_append_right _ known)
  | number whole =>
    have filled : piece ≠ [] := by
      obtain ⟨c, t, cut, _⟩ := head_of_numeral? whole
      simp [cut]
    simpa using head_of_visible (isVisible_of_isNumeral (numeral?_isNumeral whole)) filled []
  | word plain => simpa using head_of_visible plain.visible plain.filled []

theorem Lexed.boundary_of_head {piece rest : Text} {token : Token} (lexed : Lexed piece rest token)
    (head : piece.head? = some (.char 'w')) : IsVisible piece ∧ atBoundary rest := by
  cases lexed with
  | function known =>
    rcases List.mem_cons.mp known with rfl | member
    · cases head
    · cases List.mem_singleton.mp member
      cases head
  | quoted mark =>
    rcases mark with rfl | rfl <;> cases head
  | logical op => cases op <;> cases head
  | symbol found =>
    have other : ∀ op ∈ Operator.symbols, op.spelling.head? ≠ some (.char 'w') := by decide
    exact absurd head (other _ (List.mem_of_find?_eq_some found))
  | pair known =>
    rcases List.mem_cons.mp known with same | member
    · cases same
      cases head
    · cases List.mem_singleton.mp member
      cases head
  | wordOperator known boundary => exact ⟨operators_visible _ (List.mem_append_right _ known), boundary⟩
  | number whole boundary => exact ⟨isVisible_of_isNumeral (numeral?_isNumeral whole), boundary⟩
  | word plain boundary => exact ⟨plain.visible, boundary⟩

theorem tokensFrom_blanks (index : Nat) {gap : Text} (blanks : ∀ c ∈ gap, c.isBlank) (t : Text) :
    tokensFrom index (gap ++ t) = tokensFrom (index + gap.length) t := by
  induction gap generalizing index with
  | nil => rfl
  | cons c gap ih =>
    have blanks' : ∀ d ∈ gap, d.isBlank := fun d member => blanks d (List.mem_cons_of_mem c member)
    rw [List.cons_append, tokensFrom, if_pos (blanks c List.mem_cons_self), ih (index + 1) blanks', List.length_cons]
    congr 1
    omega

theorem tokensFrom_laid (index : Nat) {ls : List Lexeme} (read : IsRead [] ls) :
    tokensFrom index (laid [] ls) = .ok (placed index ls) := by
  induction read generalizing index with
  | nil => rw [laid, tokensFrom, placed]
  | @cons l ls lexed blanks _ ih =>
    obtain ⟨c, t, head, visible⟩ := lexed.head
    have next := lexed.nextToken_eq index (c := c) (t := t ++ (l.gap ++ laid [] ls)) (by rw [head]; rfl)
    have size : t.length + 1 = l.piece.length := by rw [head, List.length_cons]
    rw [laid, head, List.cons_append, tokensFrom, if_neg visible, next]
    show (tokensFrom _ _ >>= _) = _
    rw [← size, Nat.add_sub_cancel, List.drop_left, tokensFrom_blanks _ blanks, ih, placed, size]
    rfl

/-- A text is read up to its end or to something malformed. -/
theorem tokensFrom_layout (index : Nat) (t : Text) :
    ∃ first ls back, t = first ++ laid back ls ∧ (∀ c ∈ first, c.isBlank) ∧ IsRead back ls ∧
      (back = [] ∧ tokensFrom index t = .ok (placed (index + first.length) ls) ∨
        ∃ fault, tokensFrom index t = .error fault ∧ fault.index + back.length = index + t.length ∧
          Malformed fault.cause back) := by
  fun_induction tokensFrom index t with
  | case1 index => exact ⟨[], [], [], rfl, by simp, .nil, Or.inl ⟨rfl, rfl⟩⟩
  | case2 index c t blank ih =>
    obtain ⟨first, ls, back, rfl, blanks, read, outcome⟩ := ih
    refine ⟨c :: first, ls, back, rfl, ?_, read, ?_⟩
    · exact List.forall_mem_cons.mpr ⟨blank, blanks⟩
    · rcases outcome with ⟨rfl, done⟩ | ⟨fault, failed, place, malformed⟩
      · exact Or.inl ⟨rfl, by rw [done, List.length_cons, Nat.add_assoc, Nat.add_comm 1]⟩
      · refine Or.inr ⟨fault, failed, ?_, malformed⟩
        rw [List.length_cons]
        omega
  | case3 index c t visible ih =>
    cases next : nextToken index c t with
    | error fault =>
      obtain ⟨place, malformed⟩ := nextToken_error visible next
      exact ⟨[], [], c :: t, rfl, by simp, .nil, Or.inr ⟨fault, rfl, by rw [place], malformed⟩⟩
    | ok result =>
      obtain ⟨token, width⟩ := result
      obtain ⟨piece, rest, cut, rfl, lexed⟩ := lexed_of_nextToken next
      obtain ⟨d, u, head, _⟩ := lexed.head
      have behind : t.drop (piece.length - 1) = rest := by
        rw [head, List.cons_append, List.cons.injEq] at cut
        rw [cut.2, head, List.length_cons, Nat.add_sub_cancel, List.drop_left]
      obtain ⟨gap, ls, back, whole, blanks, read, outcome⟩ := ih piece.length
      rw [behind] at whole outcome
      subst whole
      refine ⟨[], ⟨piece, token, gap⟩ :: ls, back, cut, by simp, .cons lexed blanks read, ?_⟩
      rcases outcome with ⟨rfl, done⟩ | ⟨fault, failed, place, malformed⟩
      · refine Or.inl ⟨rfl, ?_⟩
        show (tokensFrom (index + piece.length) (t.drop (piece.length - 1)) >>= _) = _
        rw [behind, done]
        rfl
      · refine Or.inr ⟨fault, ?_, ?_, malformed⟩
        · show (tokensFrom (index + piece.length) (t.drop (piece.length - 1)) >>= _) = _
          rw [behind, failed]
          rfl
        · rw [cut, List.length_append]
          omega

/-! ### Changing the blanks -/

/-- The same lexemes with other blanks behind them. Where another lexeme follows, blanks that were there are not all
removed. -/
inductive Respaced : List Lexeme → List Lexeme → Prop
  | nil : Respaced [] []
  | cons {piece gap gap' : Text} {token : Token} {ls ls' : List Lexeme} (blanks : ∀ c ∈ gap', c.isBlank)
      (kept : gap' = [] → ls = [] ∨ gap = []) (rest : Respaced ls ls') :
      Respaced (⟨piece, token, gap⟩ :: ls) (⟨piece, token, gap'⟩ :: ls')

theorem Respaced.map_token {ls ls' : List Lexeme} (respaced : Respaced ls ls') :
    ls'.map (·.token) = ls.map (·.token) := by
  induction respaced with
  | nil => rfl
  | cons _ _ _ ih => rw [List.map_cons, List.map_cons, ih]

theorem blanks_unique {gap gap' t t' : Text} (blanks : ∀ c ∈ gap, c.isBlank) (blanks' : ∀ c ∈ gap', c.isBlank)
    (visible : ¬atBoundary t) (visible' : ¬atBoundary t') (same : gap ++ t = gap' ++ t') : gap = gap' ∧ t = t' := by
  have run : ∀ {gap t : Text}, (∀ c ∈ gap, c.isBlank) → ¬atBoundary t → (gap ++ t).takeWhile CodePoint.isBlank = gap := by
    intro gap t blanks visible
    cases t with
    | nil => exact absurd rfl visible
    | cons c t =>
      have stops : ¬c.isBlank := visible
      rw [List.takeWhile_append_of_pos blanks, List.takeWhile_cons, if_neg stops, List.append_nil]
  have first : gap = gap' := by rw [← run blanks visible, same, run blanks' visible']
  subst first
  exact ⟨rfl, List.append_cancel_left same⟩

theorem IsRead.not_boundary {back : Text} {ls : List Lexeme} (read : IsRead back ls) (filled : ls ≠ []) :
    ¬atBoundary (laid back ls) := by
  cases read with
  | nil => exact absurd rfl filled
  | cons lexed =>
    obtain ⟨c, t, head, visible⟩ := lexed.head
    rw [laid, head]
    exact visible

theorem Respaced.prefix_laid {ls ls' : List Lexeme} (respaced : Respaced ls ls') {back front x : Text}
    (visible : IsVisible front) (begins : front <+: x ++ laid [] ls') : front <+: x ++ laid back ls := by
  induction respaced generalizing x with
  | nil =>
    rw [laid, List.append_nil] at begins
    exact begins.trans ⟨_, rfl⟩
  | @cons piece gap gap' token ls ls' blanks kept rest ih =>
    have enough : front <+: x ++ piece → front <+: x ++ laid back (⟨piece, token, gap⟩ :: ls) := fun inside =>
      inside.trans ⟨gap ++ laid back ls, by simp [laid]⟩
    by_cases empty : gap' = []
    · subst empty
      rcases kept rfl with rfl | rfl
      · cases rest
        exact enough (by simpa [laid] using begins)
      · simp only [laid, List.nil_append, ← List.append_assoc] at begins ⊢
        exact ih begins
    · refine enough (prefix_of_boundary visible (atBoundary_gap empty blanks (laid [] ls')) ?_)
      simpa [laid] using begins

theorem wordPair?_of_respaced {back : Text} {ls ls' : List Lexeme} (respaced : Respaced ls ls') (read : IsRead back ls)
    (read' : IsRead [] ls') {first piece gap gap' : Text} (blanks : ∀ c ∈ gap, c.isBlank)
    (blanks' : ∀ c ∈ gap', c.isBlank) (visible : IsVisible piece) (isFirst : IsVisible first)
    (boundary : atBoundary (gap ++ laid back ls)) (boundary' : atBoundary (gap' ++ laid [] ls'))
    (single : wordPair? first "with" (piece ++ (gap ++ laid back ls)) = none) :
    wordPair? first "with" (piece ++ (gap' ++ laid [] ls')) = none := by
  rw [Option.eq_none_iff_forall_ne_some]
  intro width found
  obtain ⟨blank, tail, whole, filled, blanks'', behind, _⟩ := wordPair?_eq_some_iff.mp found
  obtain ⟨rfl, cut⟩ := visible_unique visible isFirst boundary' (atBoundary_gap filled blanks'' _) whole
  have word : ¬atBoundary ("with" ++ tail) := show ¬(CodePoint.char 'w').isBlank by decide
  cases respaced with
  | nil =>
    have inside : CodePoint.char 'w' ∈ gap' := by
      rw [laid, List.append_nil] at cut
      rw [cut]
      exact List.mem_append_right _ List.mem_cons_self
    exact absurd (blanks' _ inside) (by decide)
  | @cons next gap₂ gap₂' token ls ls' _ _ _ =>
    obtain ⟨rfl, follows⟩ := blanks_unique blanks' blanks'' (read'.not_boundary (by simp)) word cut
    have apart : gap ≠ [] := by
      rintro rfl
      exact read.not_boundary (by simp) boundary
    -- The next lexeme begins as `with` does, so it is that word, and it was so with the old blanks.
    cases read' with
    | cons lexed' =>
      cases read with
      | cons lexed =>
        have head : next.head? = some (.char 'w') := by
          obtain ⟨c, t, rfl, _⟩ := lexed.head
          exact congrArg List.head? follows
        obtain ⟨visible', ends'⟩ := lexed'.boundary_of_head head
        have isWith : IsVisible "with" := by decide
        obtain ⟨rfl, _⟩ := visible_unique visible' isWith ends' behind follows
        obtain ⟨_, ends⟩ := lexed.boundary_of_head head
        have pair : wordPair? piece "with" (piece ++ (gap ++ ("with" ++ (gap₂ ++ laid back ls)))) = some _ :=
          wordPair?_eq_some_iff.mpr ⟨gap, gap₂ ++ laid back ls, rfl, apart, blanks, ends, rfl⟩
        rw [laid, pair] at single
        cases single

/-- Lexemes are read as before with other blanks behind them. -/
theorem IsRead.respaced {back : Text} {ls ls' : List Lexeme} (read : IsRead back ls) (respaced : Respaced ls ls') :
    IsRead [] ls' := by
  induction respaced with
  | nil => exact .nil
  | @cons piece gap gap' token ls ls' blanks' kept respaced ih =>
    cases read with
    | cons lexed blanks rest =>
      have read' := ih rest
      have boundary' : atBoundary (gap ++ laid back ls) → atBoundary (gap' ++ laid [] ls') := by
        intro boundary
        by_cases empty : gap' = []
        · subst empty
          by_cases none : ls = []
          · subst none
            cases respaced
            rfl
          · obtain rfl := (kept rfl).resolve_left none
            exact absurd boundary (rest.not_boundary none)
        · exact atBoundary_gap empty blanks' _
      refine .cons (lexed.of_behind boundary' ?_ ?_) blanks' read'
      · intro front visible begins
        exact (Respaced.cons blanks' kept respaced).prefix_laid (x := []) visible begins
      · intro visible boundary pair known single
        exact wordPair?_of_respaced respaced rest read' blanks blanks' visible (wordPairs_visible pair known) boundary
          (boundary' boundary) single

theorem IsRead.respaced_self {back : Text} {ls : List Lexeme} (read : IsRead back ls) : Respaced ls ls := by
  induction read with
  | nil => exact .nil
  | cons lexed blanks _ ih => exact .cons blanks Or.inr ih

theorem tokens_front {first back : Text} {ls : List Lexeme} (blanks : ∀ c ∈ first, c.isBlank) (read : IsRead back ls) :
    tokens (first ++ laid [] ls) = .ok (placed first.length ls) := by
  rw [tokens, tokensFrom_blanks 0 blanks, Nat.zero_add, tokensFrom_laid _ (read.respaced read.respaced_self)]

end RouteScript.Script
