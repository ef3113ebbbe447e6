import RouteScript.Java.Literal

/-!
# Writing a literal and reading it back

`stringLiteral` writes any text as an ordinary literal on one line (`stringLiteral_isOrdinary`), and
`literalValue` reads the same text from it (`literalValue_stringLiteral`).
-/

namespace RouteScript.Java

/-- The inside of an ordinary literal. No quote and no line end stands bare in it, and a backslash takes the
code point behind it along, so that the quote behind the inside is the one that closes. -/
inductive IsInside : Text → Prop
  | nil : IsInside []
  | bare {c : CodePoint} {t : Text}
      (ordinary : c ∉ ([.char '"', .char '\\', .char '\n', .char '\r'] : List CodePoint)) (rest : IsInside t) :
      IsInside (c :: t)
  | escape {c : CodePoint} {t : Text} (ordinary : c ∉ ([.char '\n', .char '\r'] : List CodePoint))
      (rest : IsInside t) : IsInside (.char '\\' :: c :: t)

/-- An ordinary literal on one line: a quote, an inside and a quote. -/
def IsOrdinary (literal : Text) : Prop := ∃ body, literal = .char '"' :: body ++ [.char '"'] ∧ IsInside body

theorem IsInside.not_mem {t : Text} (inside : IsInside t) : .char '\n' ∉ t ∧ .char '\r' ∉ t := by
  induction inside with
  | nil => simp
  | bare ordinary _ ih => simp_all [eq_comm]
  | escape ordinary _ ih => simp_all [eq_comm]

theorem escaped_isInside (c : CodePoint) {t : Text} (rest : IsInside t) : IsInside (escaped c ++ t) := by
  unfold escaped
  repeat' split
  iterate 7 exact .escape (by decide) rest
  exact .bare (by simp_all) rest

theorem flatMap_escaped_isInside (t : Text) : IsInside (t.flatMap escaped) := by
  induction t with
  | nil => exact .nil
  | cons c t ih =>
    rw [List.flatMap_cons]
    exact escaped_isInside c ih

theorem stringLiteral_isOrdinary (t : Text) : IsOrdinary (stringLiteral t) :=
  ⟨t.flatMap escaped, rfl, flatMap_escaped_isInside t⟩

theorem stringLiteral_not_mem (t : Text) : .char '\n' ∉ stringLiteral t ∧ .char '\r' ∉ stringLiteral t := by
  have ⟨feed, carriage⟩ := (flatMap_escaped_isInside t).not_mem
  simp [stringLiteral, feed, carriage]

/-- The second quote of a literal closes it or is escaped, so no literal begins like a text block. -/
theorem stringLiteral_not_textBlock (t : Text) : Text.startsWith (stringLiteral t) "\"\"\"" = false := by
  have quotes : ("\"\"\"" : Text) = [.char '"', .char '"', .char '"'] := rfl
  rw [Text.startsWith, quotes]
  have inside := flatMap_escaped_isInside t
  rw [stringLiteral]
  generalize t.flatMap escaped = body at inside
  cases inside with
  | nil => rfl
  | bare ordinary rest =>
    simp only [List.mem_cons, not_or] at ordinary
    simp [List.isPrefixOf, Ne.symm ordinary.1]
  | escape ordinary rest => rfl

theorem unescape_cons {c : CodePoint} (other : c ≠ .char '\\') (t : Text) : unescape (c :: t) = c :: unescape t := by
  rw [unescape, if_neg other]

theorem unescape_escape {c d : CodePoint} {t : Text} (known : escape? (c :: t) = some ([d], 1)) :
    unescape (.char '\\' :: c :: t) = d :: unescape t := by
  rw [unescape, if_pos rfl, known]
  rfl

/-- The spelling of a code point is read as that code point, whatever stands behind it. -/
theorem unescape_escaped (c : CodePoint) (t : Text) : unescape (escaped c ++ t) = c :: unescape t := by
  unfold escaped
  repeat' split
  iterate 7
    subst c
    exact unescape_escape rfl
  exact unescape_cons (by assumption) t

theorem unescape_flatMap_escaped (t : Text) : unescape (t.flatMap escaped) = t := by
  induction t with
  | nil => rw [List.flatMap_nil, unescape]
  | cons c t ih => rw [List.flatMap_cons, unescape_escaped, ih]

theorem inside_stringLiteral (t : Text) : inside 1 (stringLiteral t) = t.flatMap escaped := by
  simp [inside, stringLiteral]

theorem literalValue_stringLiteral (t : Text) : literalValue (stringLiteral t) = t := by
  rw [literalValue, stringLiteral_not_textBlock, if_neg (by simp), inside_stringLiteral, unescape_flatMap_escaped]

end RouteScript.Java
