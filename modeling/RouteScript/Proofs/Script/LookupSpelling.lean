import RouteScript.Proofs.Script.CallTable
import RouteScript.Proofs.Text.Lines

/-!
# Lookups in three spellings

`name.key`, `name[key]` and `name:key` ask for the same thing. The blanks around a function are stripped with its body,
which takes the blanks at the end of the key with it in two of the spellings, and the key loses its own blanks in all of
them (`unquote_stripRight`). Only the lookup's own entry of the table applies to such a body, whatever the key looks
like.
-/

namespace RouteScript.Script

open Java (stringLiteral)

def IsQuoted (t key : Text) : Prop := ∃ quote, (quote = .char '\'' ∨ quote = .char '"') ∧ t = quote :: (key ++ [quote])

/-- `key` is `k` without the blanks and then without one pair of quotes around it. -/
inductive IsKeyOf (k : Text) : Text → Prop
  | quoted {key : Text} (quoted : IsQuoted (Text.strip k) key) : IsKeyOf k key
  | plain (unquoted : ∀ key, ¬IsQuoted (Text.strip k) key) : IsKeyOf k (Text.strip k)

theorem unquote_quoted {k key : Text} (quoted : IsQuoted (Text.strip k) key) : unquote k = key := by
  obtain ⟨quote, mark, whole⟩ := quoted
  have filled : key ++ [quote] ≠ [] := by simp
  obtain ⟨c, rest, more⟩ := List.exists_cons_of_ne_nil filled
  have last : (quote :: (key ++ [quote])).getLast? = some quote := by
    rw [← List.cons_append, List.getLast?_concat]
  rw [unquote, whole, more]
  dsimp only
  rw [← more, if_pos ⟨mark, last⟩, Java.inside]
  simp

theorem unquote_plain {k : Text} (unquoted : ∀ key, ¬IsQuoted (Text.strip k) key) : unquote k = Text.strip k := by
  unfold unquote
  dsimp only
  split
  · rename_i quote c rest whole
    refine if_neg ?_
    rintro ⟨mark, last⟩
    obtain ⟨front, cut⟩ := List.getLast?_eq_some_iff.mp last
    cases front with
    | nil =>
      rw [whole] at cut
      cases cut
    | cons d front =>
      have same : d = quote := by
        rw [whole] at cut
        exact (List.cons.inj cut).1.symm
      rw [same] at cut
      exact unquoted front ⟨quote, mark, cut⟩
  · rfl

theorem unquote_isKeyOf (k : Text) : IsKeyOf k (unquote k) := by
  by_cases quoted : ∃ key, IsQuoted (Text.strip k) key
  · obtain ⟨key, quoted⟩ := quoted
    rw [unquote_quoted quoted]
    exact .quoted quoted
  · rw [not_exists] at quoted
    rw [unquote_plain quoted]
    exact .plain quoted

/-! ### Blanks around a key -/

theorem unquote_stripRight (k : Text) : unquote (Text.stripRight k) = unquote k := by
  rw [unquote, unquote, Text.strip_stripRight]

theorem names_visible (source : Lookup) (s : Spelling) :
    ∀ name ∈ source.names, (∀ c ∈ name ++ s.opening, ¬c.isBlank) ∧ name ++ s.opening ≠ [] := by
  cases source <;> cases s <;> decide +kernel

/-- Of the three spellings only brackets keep the blanks at the end of the key from being stripped with the body. -/
theorem stripRight_closing (s : Spelling) (k : Text) :
    Text.stripRight (k ++ s.closing) = k ++ s.closing ∨ Text.stripRight (k ++ s.closing) = Text.stripRight k ++ s.closing := by
  cases s with
  | brackets => exact Or.inl (Text.stripRight_concat k (by decide))
  | point | colon =>
    refine Or.inr ?_
    rw [Spelling.closing, List.append_nil, List.append_nil]

theorem isOneLine_iff {t : Text} : isOneLine t ↔ .char '\n' ∉ t := by simp [isOneLine]

theorem writes_strip {source : Lookup} {name : Text} (known : name ∈ source.names) (s : Spelling) {k : Text}
    (visible : ¬Text.isBlank k) (oneLine : .char '\n' ∉ k) :
    ∃ key, s.Writes name key (Text.strip (name ++ s.opening ++ k ++ s.closing)) ∧ unquote key = unquote k := by
  obtain ⟨front, filled⟩ := names_visible source s name known
  have whole : Text.strip (name ++ s.opening ++ k ++ s.closing) = name ++ s.opening ++ Text.stripRight (k ++ s.closing) := by
    rw [List.append_assoc _ k, Text.strip_visible_append front filled]
  have kept : Text.stripRight k ≠ [] := Text.stripRight_ne_nil visible
  rw [whole]
  rcases stripRight_closing s k with same | same <;> rw [same, ← List.append_assoc]
  · refine ⟨k, ⟨rfl, ?_, isOneLine_iff.mpr oneLine⟩, rfl⟩
    rintro rfl
    exact kept rfl
  · have oneLine' : .char '\n' ∉ Text.stripRight k := fun member => oneLine ((Text.stripRight_isPrefix k).subset member)
    exact ⟨Text.stripRight k, ⟨rfl, kept, isOneLine_iff.mpr oneLine'⟩, unquote_stripRight k⟩

/-- The three spellings of a lookup mean the same, under each of its names. -/
theorem lookup_spellings {source : Lookup} {name : Text} (known : name ∈ source.names) {k : Text}
    (visible : ¬Text.isBlank k) (oneLine : .char '\n' ∉ k) :
    IsKeyOf k (unquote k) ∧ ∀ s : Spelling, functionCode (name ++ s.opening ++ k ++ s.closing) =
      .ok (source.target.1 ++ "(" ++ source.target.2 ++ ", " ++ stringLiteral (unquote k) ++ ")") := by
  refine ⟨unquote_isKeyOf k, fun s => ?_⟩
  obtain ⟨key, writes, same⟩ := writes_strip known s visible oneLine
  have applies : (Entry.spelled source s).call? (Text.strip (name ++ s.opening ++ k ++ s.closing)) =
      some (.lookup source (unquote k)) :=
    spelled?_eq_some_iff.mpr ⟨name, known, key, writes, by rw [same]⟩
  have call : call? (Text.strip (name ++ s.opening ++ k ++ s.closing)) = some (.lookup source (unquote k)) :=
    call?_eq_some_iff.mpr ⟨_, List.mem_append_right _ (spelled_mem source s), applies⟩
  rw [functionCode, call]
  simp [Call.strayChain?, Call.code, apply, Text.joinWith]

/-- The key holds what begins and ends the other spellings, and has blanks and quotes around it. -/
theorem lookup_spellings_hostile :
    let code : Text := "header(message, \"a.b:[0],(c)]\")"
    functionCode "in.headers. 'a.b:[0],(c)]' " = .ok code ∧ functionCode "in.headers[ 'a.b:[0],(c)]' ]" = .ok code ∧
      functionCode "in.headers: 'a.b:[0],(c)]' " = .ok code := by
  let name : Text := "in.headers"
  let k : Text := " 'a.b:[0],(c)]' "
  have same := (@lookup_spellings .header name (by decide) k (by decide) (by decide)).2
  have texts :
      Lookup.header.target.1 ++ "(" ++ Lookup.header.target.2 ++ ", " ++ stringLiteral (unquote k) ++ ")" =
          "header(message, \"a.b:[0],(c)]\")" ∧
        name ++ Spelling.point.opening ++ k ++ Spelling.point.closing = "in.headers. 'a.b:[0],(c)]' " ∧
        name ++ Spelling.brackets.opening ++ k ++ Spelling.brackets.closing = "in.headers[ 'a.b:[0],(c)]' ]" ∧
        name ++ Spelling.colon.opening ++ k ++ Spelling.colon.closing = "in.headers: 'a.b:[0],(c)]' " := by
    decide +kernel
  obtain ⟨code, point, brackets, colon⟩ := texts
  rw [code] at same
  rw [← point, ← brackets, ← colon]
  exact ⟨same .point, same .brackets, same .colon⟩

end RouteScript.Script
