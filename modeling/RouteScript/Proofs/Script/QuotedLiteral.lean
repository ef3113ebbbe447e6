import RouteScript.Script.Token

/-!
# Quoted literals

`Quotes` says which value is written by the text between two quotes, and `readQuoted` reads it up to the
first quote that is not escaped (`quotes_of_readQuoted`, `readQuoted_of_quotes`).
-/

namespace RouteScript.Script

/-- `body` writes `value` between two of `quote`. A backslash escapes a quote behind it, also the closing one, and
stands for itself otherwise. -/
inductive Quotes (quote : CodePoint) : Text → Text → Prop
  | nil : Quotes quote [] []
  | escaped {value body : Text} (rest : Quotes quote value body) :
      Quotes quote (quote :: value) (.char '\\' :: quote :: body)
  | plain {c : CodePoint} {value body : Text} (other : c ≠ quote) (continued : c = .char '\\' → body ≠ [])
      (rest : Quotes quote value body) : Quotes quote (c :: value) (c :: body)

theorem Quotes.head_ne {quote : CodePoint} (mark : quote ≠ .char '\\') {value body : Text} {c : CodePoint}
    (quotes : Quotes quote value (c :: body)) : c ≠ quote := by
  cases quotes with
  | escaped => exact mark.symm
  | plain other => exact other

theorem readQuoted_of_quotes {quote : CodePoint} (mark : quote ≠ .char '\\') {value body : Text}
    (quotes : Quotes quote value body) (rest : Text) :
    readQuoted quote (body ++ quote :: rest) = some (value, body.length + 1) := by
  induction quotes with
  | nil => cases rest <;> simp [readQuoted, mark]
  | escaped _ ih => simp [readQuoted, ih]
  | @plain c value body other continued quotes ih =>
    cases body with
    | nil =>
      have noBackslash : c ≠ .char '\\' := fun same => continued same rfl
      rw [List.nil_append] at ih
      simp [readQuoted, noBackslash, other, ih]
    | cons d body =>
      have next : d ≠ quote := quotes.head_ne mark
      rw [List.cons_append] at ih
      simp [readQuoted, next, other, ih]

theorem quotes_of_readQuoted {quote : CodePoint} {t value : Text} {width : Nat}
    (read : readQuoted quote t = some (value, width)) :
    ∃ body rest, t = body ++ quote :: rest ∧ Quotes quote value body ∧ width = body.length + 1 := by
  fun_induction readQuoted quote t generalizing value width with
  | case1 => cases read
  | case2 =>
    cases read
    exact ⟨[], [], rfl, .nil, rfl⟩
  | case3 => cases read
  | case4 c d t escape ih =>
    obtain ⟨rfl, rfl⟩ := escape
    obtain ⟨⟨more, size⟩, later, same⟩ := Option.map_eq_some_iff.mp read
    cases same
    obtain ⟨body, rest, rfl, quotes, rfl⟩ := ih later
    exact ⟨.char '\\' :: d :: body, rest, rfl, .escaped quotes, rfl⟩
  | case5 =>
    cases read
    exact ⟨[], _, rfl, .nil, rfl⟩
  | case6 c d t noEscape other ih =>
    obtain ⟨⟨more, size⟩, later, same⟩ := Option.map_eq_some_iff.mp read
    cases same
    obtain ⟨body, rest, cut, quotes, rfl⟩ := ih later
    refine ⟨c :: body, rest, by rw [cut, List.cons_append], .plain other ?_ quotes, rfl⟩
    rintro rfl rfl
    cases cut
    exact noEscape ⟨rfl, rfl⟩

theorem readQuoted_eq_none_iff {quote : CodePoint} (mark : quote ≠ .char '\\') {t : Text} :
    readQuoted quote t = none ↔ ∀ value body rest, t = body ++ quote :: rest → ¬Quotes quote value body := by
  rw [Option.eq_none_iff_forall_ne_some]
  constructor
  · rintro none value body rest rfl quotes
    exact none _ (readQuoted_of_quotes mark quotes rest)
  · rintro none ⟨value, width⟩ read
    obtain ⟨body, rest, cut, quotes, _⟩ := quotes_of_readQuoted read
    exact none value body rest cut quotes

end RouteScript.Script
