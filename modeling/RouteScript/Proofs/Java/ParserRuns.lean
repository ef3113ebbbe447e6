import RouteScript.Java.Parser

/-!
# What parsers take

A parser that succeeded took tokens, and its parts took theirs one behind another (`bind_some`, `orElse_some`, `many_some`).
A parser whose first token is another one fails, and the next alternative is tried. `Gives` is what all results of a parser
have in common, whatever it took.
-/

namespace RouteScript.Java.Parser

variable {α β : Type}

/-! ### Sequence and choice -/

theorem run_bind (p : Parser α) (f : α → Parser β) (ts : List Token) :
    (p >>= f) ts = (p ts).bind fun x => f x.1 x.2 := rfl

theorem run_orElse (p q : Parser α) (ts : List Token) : (p <|> q) ts = (p ts <|> q ts) := rfl

theorem bind_some {p : Parser α} {f : α → Parser β} {ts rest : List Token} {b : β} (read : (p >>= f) ts = some (b, rest)) :
    ∃ a mid, p ts = some (a, mid) ∧ f a mid = some (b, rest) := by
  obtain ⟨⟨a, mid⟩, first, second⟩ := Option.bind_eq_some_iff.mp read
  exact ⟨a, mid, first, second⟩

theorem bind_of_some {p : Parser α} {f : α → Parser β} {ts mid : List Token} {a : α} (first : p ts = some (a, mid)) :
    (p >>= f) ts = f a mid := by
  rw [run_bind, first, Option.bind_some]

theorem bind_of_none {p : Parser α} {f : α → Parser β} {ts : List Token} (first : p ts = none) : (p >>= f) ts = none := by
  rw [run_bind, first, Option.bind_none]

theorem orElse_some {p q : Parser α} {ts : List Token} {x : α × List Token} (read : (p <|> q) ts = some x) :
    p ts = some x ∨ p ts = none ∧ q ts = some x := by
  rw [run_orElse] at read
  cases first : p ts with
  | none =>
    rw [first] at read
    exact Or.inr ⟨rfl, read⟩
  | some y =>
    rw [first] at read
    exact Or.inl read

theorem orElse_of_some {p : Parser α} {ts : List Token} {x : α × List Token} (first : p ts = some x) (q : Parser α) :
    (p <|> q) ts = some x := by
  rw [run_orElse, first]
  rfl

theorem orElse_of_none {p : Parser α} {ts : List Token} (first : p ts = none) (q : Parser α) : (p <|> q) ts = q ts := by
  rw [run_orElse, first]
  rfl

theorem not_none_of_read {p : Parser α} {ts : List Token} {x : α × List Token} (read : p ts = some x) : p ts ≠ none := by
  rw [read]
  exact Option.some_ne_none x

theorem taken_false {p : Parser Unit} {ts rest : List Token} (read : taken p ts = some (false, rest)) : rest = ts := by
  rcases orElse_some read with read | ⟨_, same⟩
  · obtain ⟨_, _, _, same⟩ := bind_some read
    cases same
  · cases same
    rfl

theorem taken_of_none {p : Parser Unit} {ts : List Token} (failed : p ts = none) : taken p ts = some (false, ts) :=
  orElse_of_none (bind_of_none failed) _

theorem look_some {n : Nat} {p : Token → Bool} {ts rest : List Token} {b : Bool} (read : look n p ts = some (b, rest)) :
    rest = ts := by
  cases read
  rfl

/-! ### Single tokens -/

theorem isSymbol_iff {s : Text} {t : Token} : isSymbol s t = true ↔ t.kind = .symbol ∧ t.text = s := by
  simp [isSymbol]

/-- The next token is another one, or there is none. -/
def HeadNot (p : Token → Bool) (ts : List Token) : Prop := ∀ t ∈ ts.head?, p t = false

theorem HeadNot.imp {p q : Token → Bool} {ts : List Token} (other : HeadNot p ts) (narrow : ∀ t, p t = false → q t = false) :
    HeadNot q ts :=
  fun t head => narrow t (other t head)

theorem headNot_of_symbol {p : Token → Bool} {s : Text} {t : Token} (isSign : isSymbol s t = true) (ts : List Token)
    (other : ∀ start, p ⟨.symbol, s, start⟩ = false) : HeadNot p (t :: ts) := by
  rintro _ ⟨⟩
  obtain ⟨kind, text, start⟩ := t
  obtain ⟨rfl, rfl⟩ := isSymbol_iff.mp isSign
  exact other start

theorem tokenIf_some {p : Token → Bool} {ts rest : List Token} {t : Token} (read : tokenIf p ts = some (t, rest)) :
    ts = t :: rest ∧ p t = true := by
  unfold tokenIf at read
  split at read
  · split at read
    · rename_i admitted
      cases read
      exact ⟨rfl, admitted⟩
    · cases read
  · cases read

theorem tokenIf_cons {p : Token → Bool} {t : Token} (admitted : p t = true) (ts : List Token) :
    tokenIf p (t :: ts) = some (t, ts) := by
  unfold tokenIf
  exact if_pos admitted

theorem tokenIf_none {p : Token → Bool} {ts : List Token} (other : HeadNot p ts) : tokenIf p ts = none := by
  unfold tokenIf
  split
  · rename_i t rest
    rw [other t rfl]
    rfl
  · rfl

theorem symbol_some {s : Text} {ts rest : List Token} {u : Unit} (read : symbol s ts = some (u, rest)) :
    ∃ t, ts = t :: rest ∧ isSymbol s t = true := by
  obtain ⟨t, mid, taken, same⟩ := bind_some read
  cases same
  exact ⟨t, tokenIf_some taken⟩

theorem symbol_cons {s : Text} {t : Token} (admitted : isSymbol s t = true) (ts : List Token) :
    symbol s (t :: ts) = some ((), ts) :=
  bind_of_some (tokenIf_cons admitted ts)

theorem symbol_none {s : Text} {ts : List Token} (other : HeadNot (isSymbol s) ts) : symbol s ts = none :=
  bind_of_none (tokenIf_none other)

theorem word_none {w : Text} {ts : List Token} (other : HeadNot (isWord w) ts) : word w ts = none :=
  bind_of_none (tokenIf_none other)

theorem between_some {before after : Text} {p : Parser α} {ts rest : List Token} {a : α}
    (read : between before after p ts = some (a, rest)) :
    ∃ o c mid, ts = o :: mid ∧ isSymbol before o = true ∧ p mid = some (a, c :: rest) ∧ isSymbol after c = true := by
  obtain ⟨_, mid, first, read⟩ := bind_some read
  obtain ⟨a', mid', second, read⟩ := bind_some read
  obtain ⟨_, mid'', third, same⟩ := bind_some read
  cases same
  obtain ⟨o, rfl, opens⟩ := symbol_some first
  obtain ⟨c, rfl, closes⟩ := symbol_some third
  exact ⟨o, c, mid, rfl, opens, second, closes⟩

theorem between_of_some {before after : Text} {p : Parser α} {o c : Token} {ts rest : List Token} {a : α}
    (opens : isSymbol before o = true) (inside : p ts = some (a, c :: rest)) (closes : isSymbol after c = true) :
    between before after p (o :: ts) = some (a, rest) := by
  unfold between
  rw [bind_of_some (symbol_cons opens ts), bind_of_some inside, bind_of_some (symbol_cons closes rest)]
  rfl

/-- What stands between is not taken, or not up to the token that closes it. -/
theorem between_none {before after : Text} {p : Parser α} {ts : List Token}
    (unread : ∀ o mid, ts = o :: mid → isSymbol before o = true → ∀ a rest, p mid = some (a, rest) →
      HeadNot (isSymbol after) rest) : between before after p ts = none := by
  rw [Option.eq_none_iff_forall_ne_some]
  rintro ⟨a, rest⟩ read
  obtain ⟨o, c, mid, same, opens, inside, closes⟩ := between_some read
  have other := unread o mid same opens a (c :: rest) inside c rfl
  rw [closes] at other
  cases other

/-! ### Repetition -/

theorem iterate_of_none {p : α → Parser α} {a : α} {ts : List Token} (stop : p a ts = none) : iterate p a ts = (a, ts) := by
  rw [iterate]
  simp only [stop]

theorem iterate_of_some {p : α → Parser α} {a b : α} {ts rest : List Token} (step : p a ts = some (b, rest))
    (shorter : rest.length < ts.length) : iterate p a ts = iterate p b rest := by
  rw [iterate]
  simp only [step, shorter, if_true]

/-- `p` was run again and again: what it gave, and what was left at last. -/
inductive Repeats (p : Parser (List α)) : List Token → List α → List Token → Prop
  | stop (ts : List Token) : Repeats p ts [] ts
  | step {ts mid rest : List Token} {xs ys : List α} (first : p ts = some (xs, mid)) (later : Repeats p mid ys rest) :
      Repeats p ts (xs ++ ys) rest

theorem iterate_append_repeats (p : Parser (List α)) (before : List α) (ts : List Token) :
    ∃ xs, (iterate (fun before => do return before ++ (← p)) before ts).1 = before ++ xs ∧
      Repeats p ts xs (iterate (fun before => do return before ++ (← p)) before ts).2 := by
  fun_induction iterate (fun before => do return before ++ (← p)) before ts with
  | case1 before ts => exact ⟨[], by simp, .stop ts⟩
  | case2 before ts b rest step shorter ih =>
    obtain ⟨xs, mid, first, same⟩ := bind_some step
    cases same
    obtain ⟨ys, whole, later⟩ := ih
    exact ⟨xs ++ ys, by rw [whole, List.append_assoc], .step first later⟩
  | case3 before ts => exact ⟨[], by simp, .stop ts⟩

theorem many_some {p : Parser (List α)} {ts rest : List Token} {xs : List α} (read : many p ts = some (xs, rest)) :
    Repeats p ts xs rest := by
  obtain ⟨ys, whole, repeats⟩ := iterate_append_repeats p [] ts
  unfold many repeated at read
  rw [Option.some.inj read] at whole repeats
  cases whole
  exact repeats

theorem many_of_none {p : Parser (List α)} {ts : List Token} (stop : p ts = none) : many p ts = some ([], ts) := by
  unfold many repeated
  rw [iterate_of_none (bind_of_none stop)]

/-! ### Results -/

/-- Every result of the parser is of this kind. -/
def Gives (p : Parser α) (P : α → Prop) : Prop := ∀ ts a rest, p ts = some (a, rest) → P a

theorem gives_pure {P : α → Prop} {a : α} (holds : P a) : Gives (pure a) P := by
  intro ts b rest read
  cases read
  exact holds

theorem gives_failure (P : α → Prop) : Gives failure P := by
  intro ts a rest read
  cases read

theorem gives_bind (p : Parser α) {f : α → Parser β} {P : β → Prop} (later : ∀ a, Gives (f a) P) : Gives (p >>= f) P := by
  intro ts b rest read
  obtain ⟨a, mid, _, read⟩ := bind_some read
  exact later a mid b rest read

theorem Gives.orElse {p q : Parser α} {P : α → Prop} (first : Gives p P) (second : Gives q P) : Gives (p <|> q) P := by
  intro ts a rest read
  rcases orElse_some read with read | ⟨_, read⟩
  · exact first ts a rest read
  · exact second ts a rest read

theorem gives_check {P : α → Prop} {c : Prop} [Decidable c] {f : Unit → Parser α} (later : Gives (f ()) P) :
    Gives (if c then failure >>= f else f ()) P := by
  split
  · exact gives_bind _ fun _ => later
  · exact later

theorem holds_of_read {p : Parser α} {P : α → Prop} {ts rest : List Token} {a : α} (read : p ts = some (a, rest))
    (gives : Gives p P) : P a :=
  gives ts a rest read

/-- Where every step gives a value of a kind, the last value is of this kind or there was no step. -/
theorem iterate_gives {p : α → Parser α} {P : α → Prop} (step : ∀ a, Gives (p a) P) (a : α) (ts : List Token) :
    iterate p a ts = (a, ts) ∨ P (iterate p a ts).1 := by
  fun_induction iterate p a ts with
  | case1 a ts => exact Or.inl rfl
  | case2 a ts b rest read shorter ih =>
    rcases ih with same | holds
    · rw [same]
      exact Or.inr (step a ts b rest read)
    · exact Or.inr holds
  | case3 a ts => exact Or.inl rfl

end RouteScript.Java.Parser
