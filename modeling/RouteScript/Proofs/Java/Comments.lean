import RouteScript.Java.Token

/-!
# Comments

Blanks and comments between tokens are passed over: the tokens behind them are the same as without them, but for the offset
(`tokensFrom_gap`).
-/

namespace RouteScript.Java

/-- Blanks and comments in any number. -/
inductive Gap : Text → Prop where
  | nil : Gap []
  | blank {c : CodePoint} {g : Text} (blank : isGap c = true) (more : Gap g) : Gap (c :: g)
  | line {body g : Text} (oneLine : ∀ c ∈ body, (c ≠ .char '\n' && !isNull c) = true) (more : Gap g) :
      Gap (.char '/' :: .char '/' :: (body ++ .char '\n' :: g))
  | block {body g : Text} (plain : ∀ c ∈ body, isNull c = false) (unclosed : ¬[.char '*', .char '/'] <:+: body) (more : Gap g) :
      Gap (.char '/' :: .char '*' :: (body ++ .char '*' :: .char '/' :: g))

theorem tokensFrom_skip {c : CodePoint} {t : Text} {n : Nat} (skipped : firstToken (c :: t) = some (none, n + 1)) (offset : Nat) :
    tokensFrom offset (c :: t) = tokensFrom (offset + n + 1) (t.drop n) := by
  rw [tokensFrom]
  simp only [skipped, Nat.add_sub_cancel]

theorem firstToken_blank {c : CodePoint} (blank : isGap c = true) (t : Text) : firstToken (c :: t) = some (none, 1) := by
  unfold firstToken
  split
  case h_1 same => cases same
  case h_6 same =>
    cases same
    rw [if_pos blank]
  all_goals
    rename_i same
    cases same
    exact absurd blank (by decide)

theorem tokensFrom_blank {c : CodePoint} (blank : isGap c = true) (offset : Nat) (t : Text) :
    tokensFrom offset (c :: t) = tokensFrom (offset + 1) t :=
  tokensFrom_skip (n := 0) (firstToken_blank blank t) offset

theorem tokensFrom_line {body : Text} (oneLine : ∀ c ∈ body, (c ≠ .char '\n' && !isNull c) = true) (offset : Nat) (t : Text) :
    tokensFrom offset (.char '/' :: .char '/' :: (body ++ .char '\n' :: t)) = tokensFrom (offset + body.length + 3) t := by
  have length : lineCommentLength (body ++ .char '\n' :: t) = body.length := by
    rw [lineCommentLength, List.takeWhile_append_of_pos oneLine, List.takeWhile_cons_of_neg (by simp), List.append_nil]
  have comment : firstToken (.char '/' :: .char '/' :: (body ++ .char '\n' :: t)) = some (none, body.length + 1 + 1) := by
    rw [firstToken, length, Nat.add_comm]
  rw [tokensFrom_skip comment, List.drop_succ_cons, List.drop_left, tokensFrom_blank (by decide)]
  rfl

theorem blockCommentLength?_body {body : Text} (plain : ∀ c ∈ body, isNull c = false)
    (unclosed : ¬[.char '*', .char '/'] <:+: body) (t : Text) :
    blockCommentLength? (body ++ .char '*' :: .char '/' :: t) = some (body.length + 2) := by
  induction body with
  | nil => rfl
  | cons c body ih =>
    have later := ih (fun d member => plain d (List.mem_cons_of_mem _ member))
      fun inside => unclosed (inside.trans (List.suffix_cons c body).isInfix)
    rw [List.cons_append]
    unfold blockCommentLength?
    split
    · rename_i closed
      exfalso
      cases body with
      | nil => simp at closed
      | cons d body =>
        simp only [List.cons_append, List.cons.injEq] at closed
        obtain ⟨rfl, rfl, _⟩ := closed
        exact unclosed ⟨[], body, rfl⟩
    · rename_i same
      cases same
      rw [plain c List.mem_cons_self, later]
      rfl
    · rename_i same
      cases same

theorem tokensFrom_block {body : Text} (plain : ∀ c ∈ body, isNull c = false) (unclosed : ¬[.char '*', .char '/'] <:+: body)
    (offset : Nat) (t : Text) :
    tokensFrom offset (.char '/' :: .char '*' :: (body ++ .char '*' :: .char '/' :: t)) =
      tokensFrom (offset + body.length + 4) t := by
  have noGap : isGap (.char '/') = false := by decide
  have noWord : isWordStart (.char '/') = false := by decide
  have comment : firstToken (.char '/' :: .char '*' :: (body ++ .char '*' :: .char '/' :: t)) =
      some (none, body.length + 2 + 1 + 1) := by
    rw [firstToken]
    · simp [noGap, noWord, blockCommentLength?_body plain unclosed t]
      omega
    all_goals simp
  rw [tokensFrom_skip comment, List.drop_succ_cons, ← List.drop_drop, List.drop_left]
  rfl

/-- No token begins in blanks or comments. -/
theorem tokensFrom_gap {gap : Text} (skipped : Gap gap) (offset : Nat) (t : Text) :
    tokensFrom offset (gap ++ t) = tokensFrom (offset + gap.length) t := by
  induction skipped generalizing offset with
  | nil => rfl
  | @blank c g blank _ ih =>
    rw [List.cons_append, tokensFrom_blank blank, ih]
    congr 1
    simp only [List.length_cons]
    omega
  | @line body g oneLine _ ih =>
    rw [List.cons_append, List.cons_append, List.append_assoc, List.cons_append, tokensFrom_line oneLine, ih]
    congr 1
    simp only [List.length_cons, List.length_append]
    omega
  | @block body g plain unclosed _ ih =>
    rw [List.cons_append, List.cons_append, List.append_assoc, List.cons_append, List.cons_append,
      tokensFrom_block plain unclosed, ih]
    congr 1
    simp only [List.length_cons, List.length_append]
    omega

end RouteScript.Java
