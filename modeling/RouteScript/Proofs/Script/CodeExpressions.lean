import RouteScript.Proofs.Script.CallCode
import RouteScript.Proofs.Script.Grouping
import RouteScript.Proofs.Script.Tiling
import RouteScript.Proofs.Script.TokenSpans
import RouteScript.Unit.Source

/-!
# What the code of scripts is made of

The code of a predicate is a row of expressions and logical operators, and the code of a value is a sum of expressions
(`scriptCode_expressions`). So a property of all code is shown for expressions, by induction on `IsExpression`.
-/

namespace RouteScript.Script

open Java

/-! ### Tokens -/

/-- The operand was read from the script. Where it is a function, its chain is allowed. -/
def Token.IsReadFrom (script : Text) (chained : Prop) : Token → Prop
  | .function body => body ⊆ script ∧ (carriesChain body → chained)
  | .number numeral => numeral ⊆ script ∧ IsNumeral numeral
  | .quoted value | .word value => value ⊆ script
  | .boolean _ | .null => True
  | .operator _ | .logical _ => False

theorem Quotes.subset {quote : CodePoint} {value body : Text} (quotes : Quotes quote value body) : value ⊆ body := by
  induction quotes with
  | nil => exact List.nil_subset _
  | escaped _ ih => exact List.subset_cons_of_subset _ (List.cons_subset_cons _ ih)
  | plain _ _ _ ih => exact List.cons_subset_cons _ ih

theorem strip_subset_functionText (opening inner : Text) : Text.strip inner ⊆ functionText opening inner := by
  intro c member
  simp [functionText, Text.strip_subset inner member]

theorem Lexed.isReadFrom {script piece rest : Text} {token : Token} {chained : Prop} (lexed : Lexed piece rest token)
    (part : piece ⊆ script) (operand : token.isOperand)
    (allow : ∀ body, token.body? = some body → carriesChain body → chained) : token.IsReadFrom script chained := by
  cases lexed with
  | @function opening inner => exact ⟨List.Subset.trans (strip_subset_functionText opening inner) part, allow _ rfl⟩
  | @quoted quote value body _ _ quotes =>
    have inner : body ⊆ quote :: (body ++ [quote]) := List.subset_cons_of_subset _ (List.subset_append_left _ _)
    exact List.Subset.trans quotes.subset (List.Subset.trans inner part)
  | number whole => exact ⟨part, numeral?_isNumeral whole⟩
  | word =>
    unfold Token.ofWord
    repeat' split
    all_goals trivial
  | _ => cases operand

theorem operands_isReadFrom {script : Text} {ts : List PlacedToken} {chained : Prop} (read : tokens script = .ok ts)
    (allow : ∀ t ∈ ts, ∀ body, t.token.body? = some body → carriesChain body → chained) :
    ∀ x ∈ (parse ts).comparisons, ∀ o ∈ x.2.operands, o.token.IsReadFrom script chained := by
  intro x member o present
  obtain ⟨t, found, operand⟩ := parse_operands ts x member o present
  rw [(operand?_eq_some operand).1]
  have inside : t.slice script ⊆ script := List.Subset.trans (List.take_subset _ _) (List.drop_subset _ _)
  exact ((spans_of_tokens read).lexed t found).isReadFrom inside (isOperand_of_operand? operand) (allow t found)

/-! ### Comparisons -/

variable {script code : Text} {chained : Prop}

theorem numberCode_isExpression {numeral : Text} (compiled : numberCode numeral = .ok code) (piece : numeral ⊆ script)
    (shape : IsNumeral numeral) : IsExpression script chained code := by
  have plain : IsExpression script chained (numeral ++ []) := .number shape piece (Or.inl rfl)
  rw [List.append_nil] at plain
  unfold numberCode at compiled
  repeat' split at compiled
  all_goals cases compiled
  · exact plain
  · exact .number shape piece (Or.inr rfl)
  · exact plain

theorem Operand.code_isExpression {o : Operand} (compiled : o.code = .ok code)
    (source : o.token.IsReadFrom script chained) : IsExpression script chained code := by
  obtain ⟨token, index⟩ := o
  cases token with
  | function body =>
    have function : functionCode body = .ok code := Fallible.mapError_ok compiled
    exact (functionCode_isExpression function).mono source.1 source.2
  | number numeral => exact numberCode_isExpression compiled source.1 source.2
  | boolean value =>
    have known : ∀ value, (Token.boolean value).value ∈ fixedCode := by decide
    cases compiled
    exact .fixed (known value)
  | null =>
    have known : Token.null.value ∈ fixedCode := by decide
    cases compiled
    exact .fixed known
  | quoted value | word value =>
    cases compiled
    exact .literal source
  | operator op | logical op => exact source.elim

theorem not_mem_of_isName {c : CodePoint} (outside : isNameStart c = false ∧ isNamePart c = false) {t : Text}
    (name : isName t) : c ∉ t := by
  cases t with
  | nil => simp
  | cons first t =>
    obtain ⟨begins, goesOn⟩ := Bool.and_eq_true_iff.mp name
    intro member
    rcases List.mem_cons.mp member with rfl | member
    · rw [outside.1] at begins
      cases begins
    · have part := List.all_eq_true.mp goesOn c member
      rw [outside.2] at part
      cases part

theorem mem_dropBrackets {c : CodePoint} {t : Text} (member : c ∈ t) :
    c ∈ dropBrackets t ∨ c = .char ']' ∨ c = .char '[' := by
  fun_induction dropBrackets t with
  | case1 t ih =>
    rcases List.mem_cons.mp member with rfl | member
    · exact Or.inr (Or.inl rfl)
    rcases List.mem_cons.mp member with rfl | member
    · exact Or.inr (Or.inr rfl)
    · exact ih member
  | case2 t => exact Or.inl member

theorem isTypeName_of_isDottedName {t : Text} (name : isDottedName t) : isTypeName t := by
  have absent : .char ']' ∉ t := by
    intro member
    rcases Text.mem_parts (.char '.') member with point | ⟨part, present, inside⟩
    · exact absurd point (by decide)
    · exact not_mem_of_isName (by decide) (List.all_eq_true.mp name part present) inside
  have same : dropBrackets t.reverse = t.reverse := by
    unfold dropBrackets
    split
    · rename_i rest reversed
      exact absurd (List.mem_reverse.mp (by rw [reversed]; simp)) absent
    · rfl
  rw [isTypeName, same, List.reverse_reverse]
  exact name

theorem Operand.typeCode_isExpression {o : Operand} (compiled : o.typeCode = .ok code)
    (source : o.token.IsReadFrom script chained) : IsExpression script chained code := by
  have literal {name : Text} (accepted : isTypeOperand name) (piece : name ⊆ script) :
      IsExpression script chained (name ++ ".class") := by
    rcases Bool.or_eq_true_iff.mp accepted with dotted | ended
    · exact .ofType (isTypeName_of_isDottedName dotted) piece
    · obtain ⟨ended, dotted⟩ := Bool.and_eq_true_iff.mp ended
      obtain ⟨before, rfl⟩ := List.getLast?_eq_some_iff.mp (of_decide_eq_true ended)
      rw [List.dropLast_concat] at dotted
      exact .classLiteral (isTypeName_of_isDottedName dotted) (List.Subset.trans (List.subset_append_left _ _) piece) (Or.inr rfl)
  unfold Operand.typeCode at compiled
  dsimp only at compiled
  repeat' split at compiled
  all_goals cases compiled
  all_goals
    rename_i named accepted
    rw [named] at source
    exact literal accepted source

theorem Operator.isHelper (op : Operator) : IsHelper op.helper := by
  cases op <;> exact ⟨by decide, Text.noSurrogate_ofString _⟩

theorem Comparison.code_isExpression {c : Comparison} (compiled : c.code = .ok code)
    (sources : ∀ o ∈ c.operands, o.token.IsReadFrom script chained) : IsExpression script chained code := by
  have exchange : IsExpression script chained "exchange" := .fixed (by decide)
  obtain ⟨left, right⟩ := c
  have leftSource := sources left List.mem_cons_self
  cases right with
  | none =>
    unfold Comparison.code at compiled
    dsimp only at compiled
    split at compiled
    · rename_i value boolean
      cases compiled
      rw [boolean]
      cases value <;> exact .fixed (by decide)
    · obtain ⟨l, first, compiled⟩ := Fallible.bind_ok compiled
      cases compiled
      refine .call ⟨by decide, Text.noSurrogate_ofString _⟩ ?_
      simp only [List.forall_mem_cons]
      exact ⟨exchange, left.code_isExpression first leftSource, by simp⟩
  | some comparison =>
    obtain ⟨op, right⟩ := comparison
    have rightSource := sources right (by simp [Comparison.operands])
    obtain ⟨l, first, compiled⟩ := Fallible.bind_ok compiled
    have written : ∀ r, IsExpression script chained r → IsExpression script chained
        (if op.isNegated then .char '!' :: apply op.helper ["exchange", l, r] else apply op.helper ["exchange", l, r]) := by
      intro r rightCode
      have call : IsExpression script chained (apply op.helper ["exchange", l, r]) := by
        refine .call op.isHelper ?_
        simp only [List.forall_mem_cons]
        exact ⟨exchange, left.code_isExpression first leftSource, rightCode, by simp⟩
      split
      · exact .negation call
      · exact call
    dsimp only at compiled
    split at compiled
    · obtain ⟨r, second, compiled⟩ := Fallible.bind_ok compiled
      cases compiled
      exact written r (right.typeCode_isExpression second rightSource)
    · obtain ⟨r, second, compiled⟩ := Fallible.bind_ok compiled
      cases compiled
      exact written r (right.code_isExpression second rightSource)

theorem predicateCode_ok (compiled : predicateCode script = .ok code) :
    ∃ ts pieces, tokens script = .ok ts ∧ (parse ts).fault = none ∧
      (parse ts).comparisons.mapM (fun (link, c) => linkedCode link c) = .ok pieces ∧
      code = Text.joinWith " " pieces.flatten := by
  obtain ⟨ts, read, compiled⟩ := Fallible.bind_ok compiled
  obtain ⟨pieces, written, compiled⟩ := Fallible.bind_ok compiled
  split at compiled
  · cases compiled
  · rename_i sound
    cases compiled
    exact ⟨ts, pieces, Fallible.mapError_ok read, sound, written, rfl⟩

/-! ### Templates -/

theorem startWithString_mem {parts : List Part} {part : Part} (member : part ∈ startWithString parts) :
    part = .literal [] ∨ part ∈ parts := by
  unfold startWithString at member
  split at member
  · exact List.mem_cons.mp member
  · exact Or.inr member

def Segment.body? : Segment → Option Text
  | .function body => some body
  | .text _ => none

theorem PlacedSegment.part_cases {s : PlacedSegment} {part : Part} (made : s.part = .ok part) :
    (∃ t, s.segment = .text t ∧ part = .literal t) ∨
    ∃ body code, s.segment = .function body ∧ part = .call code ∧ functionCode body = .ok code := by
  unfold PlacedSegment.part at made
  split at made
  · rename_i t text
    cases made
    exact Or.inl ⟨t, text, rfl⟩
  · rename_i body function
    obtain ⟨code, written, rfl⟩ := Fallible.map_ok (Fallible.mapError_ok made)
    exact Or.inr ⟨body, code, function, rfl, written⟩

theorem valueParts_isExpression {placed : List PlacedSegment} {parts : List Part}
    (compiled : valueParts script = .ok parts) (read : segments script = .ok placed)
    (allow : ∀ s ∈ placed, ∀ body, s.segment.body? = some body → carriesChain body → chained) :
    ∀ part ∈ parts, IsExpression script chained part.code := by
  have tiled := segmented script
  rw [read] at tiled
  rw [valueParts, read] at compiled
  dsimp only [bind, Except.bind] at compiled
  split at compiled
  · cases compiled
  · obtain ⟨made, mapped, compiled⟩ := Fallible.bind_ok compiled
    cases compiled
    intro part member
    rcases startWithString_mem member with rfl | member
    · exact .literal (List.nil_subset _)
    · obtain ⟨s, present, made⟩ := Fallible.mem_of_mapM_ok mapped member
      have written := tiled.2.1 s present
      have inside : s.slice script ⊆ script := List.Subset.trans (List.take_subset _ _) (List.drop_subset _ _)
      obtain ⟨t, text, rfl⟩ | ⟨body, code, function, rfl, compiled⟩ := PlacedSegment.part_cases made
      · rw [text] at written
        cases written
        exact .literal inside
      · rw [function] at written
        have body? : s.segment.body? = some body := by rw [function]; rfl
        generalize s.slice script = piece at written inside
        cases written with
        | @function opening inner =>
          have piece := List.Subset.trans (strip_subset_functionText opening inner) inside
          exact (functionCode_isExpression compiled).mono piece (allow s present _ body?)

/-- The code of a script is expressions and logical operators with blanks or plus signs between them. -/
theorem scriptCode_expressions {kind : UsageKind} (compiled : scriptCode kind script = .ok code) :
    ∃ sep pieces, (sep = " " ∨ sep = " + ") ∧ code = Text.joinWith sep pieces ∧
      ∀ piece ∈ pieces, (∃ op : Logical, piece = op.spelling) ∨ IsExpression script True piece := by
  cases kind with
  | predicate =>
    obtain ⟨ts, pieces, read, _, written, rfl⟩ := predicateCode_ok compiled
    refine ⟨" ", pieces.flatten, Or.inl rfl, rfl, fun piece member => ?_⟩
    obtain ⟨linked, present, inside⟩ := List.mem_flatten.mp member
    obtain ⟨⟨link, c⟩, source, made⟩ := Fallible.mem_of_mapM_ok written present
    obtain ⟨code, compiled, made⟩ := Fallible.bind_ok made
    cases made
    rcases List.mem_append.mp inside with spelled | own
    · obtain ⟨op, _, rfl⟩ := Option.map_eq_some_iff.mp (Option.mem_toList.mp spelled)
      exact Or.inl ⟨op, rfl⟩
    · obtain rfl := List.mem_singleton.mp own
      exact Or.inr (c.code_isExpression compiled
        (operands_isReadFrom read (fun _ _ _ _ _ => trivial) (link, c) source))
  | value =>
    obtain ⟨parts, made, joined⟩ := Fallible.bind_ok (Fallible.mapError_ok compiled)
    cases joined
    obtain ⟨placed, read, _⟩ := Fallible.bind_ok made
    refine ⟨" + ", parts.map Part.code, Or.inr rfl, rfl, fun piece member => ?_⟩
    obtain ⟨part, present, rfl⟩ := List.mem_map.mp member
    exact Or.inr (valueParts_isExpression made read (fun _ _ _ _ _ => trivial) part present)

end RouteScript.Script
