import RouteScript.Proofs.Java.Nesting
import RouteScript.Proofs.Script.CodeExpressions

/-!
# Scripts do not shape the code

The text of a script cannot change the structure of its code (`scriptCode_structure`). The code of a
script whose functions carry no chain closes every literal and parenthesis it opens and holds no
delimiter outside literals. What joins the pieces of the code at its top is only what joins the pieces
of the script.
-/

namespace RouteScript.Script

open Java

/-! ### Operators at the top of code -/

/-- The logical operators outside literals and parentheses, for code that is read in the state `n`. -/
def linksFrom (n : Nesting) : Text → List Logical
  | [] => []
  | c :: t => (if n = .start then (logical? (c :: t)).toList else []) ++ linksFrom (n.step c) t

def links (code : Text) : List Logical := linksFrom .start code

theorem logical?_of_not_mem {c : CodePoint} (other : c ∉ joints) (t : Text) :
    logical? (c :: t) = none := by
  simp only [joints, List.mem_cons, List.not_mem_nil, or_false, not_or] at other
  simp [logical?, Text.startsWith, Logical.spelling, Text.ofString, Ne.symm other.1, Ne.symm other.2.1]

theorem logical?_append_blank (c : CodePoint) (s t : Text) :
    logical? (c :: (s ++ .char ' ' :: t)) = logical? (c :: s) := by
  cases s with
  | nil => simp [logical?, Text.startsWith, Logical.spelling, Text.ofString]
  | cons d s => rfl

theorem linksFrom_append_blank (n : Nesting) (s t : Text) :
    linksFrom n (s ++ .char ' ' :: t) = linksFrom n s ++ linksFrom (n.after s) (.char ' ' :: t) := by
  induction s generalizing n with
  | nil => rfl
  | cons c s ih =>
    simp only [List.cons_append, linksFrom, logical?_append_blank, ih, List.append_assoc]
    rfl

theorem links_joinWith {ts : List Text} (closed : ∀ t ∈ ts, Nesting.start.after t = .start) :
    links (Text.joinWith " " ts) = ts.flatMap links := by
  induction ts with
  | nil => rfl
  | cons t ts ih =>
    by_cases last : ts = []
    · subst last
      simp [Text.joinWith]
    · have joined : Text.joinWith " " (t :: ts) = t ++ .char ' ' :: Text.joinWith " " ts := by
        rw [Text.joinWith_cons _ _ last]
        simp [Text.ofString]
      have blank : linksFrom .start (.char ' ' :: Text.joinWith " " ts) = links (Text.joinWith " " ts) := by
        rw [linksFrom, logical?_of_not_mem (by decide)]
        rfl
      rw [joined, links, linksFrom_append_blank, closed t List.mem_cons_self, blank,
        ih fun u member => closed u (List.mem_cons_of_mem _ member)]
      rfl

theorem links_of_isOperand {t : Text} (operand : IsOperand t) : links t = [] := by
  have none : ∀ (n : Nesting) (t : Text), (∀ x ∈ n.trace t, x.1 = .start → x.2 ∉ joints) →
      linksFrom n t = [] := by
    intro n t calm
    induction t generalizing n with
    | nil => rfl
    | cons c t ih =>
      have here := calm (n, c) List.mem_cons_self
      rw [linksFrom, ih _ fun x member => calm x (List.mem_cons_of_mem _ member)]
      split
      · rename_i top
        rw [logical?_of_not_mem (here top)]
        rfl
      · rfl
  exact none .start t operand.2

theorem links_spelling (op : Logical) : links op.spelling = [op] := by
  cases op <;> rfl

/-! ### Expressions are operands -/

theorem isPlain_of_isNamePart {c : CodePoint} (part : isNamePart c) : isPlain c :=
  isPlain_of_class (p := isNamePart) (by decide) part

theorem isPlain_of_isDigit {c : CodePoint} (digit : c.isDigit) : isPlain c :=
  isPlain_of_class (p := CodePoint.isDigit) (by decide) digit

theorem isPlain_of_isName {t : Text} (name : isName t) : ∀ c ∈ t, isPlain c := by
  cases t with
  | nil => simp
  | cons first t =>
    obtain ⟨begins, goesOn⟩ := Bool.and_eq_true_iff.mp name
    intro c member
    rcases List.mem_cons.mp member with rfl | member
    · exact isPlain_of_class (p := isNameStart) (by decide) begins
    · exact isPlain_of_isNamePart (List.all_eq_true.mp goesOn c member)

theorem isPlain_of_isDottedName {t : Text} (name : isDottedName t) : ∀ c ∈ t, isPlain c := by
  intro c member
  rcases Text.mem_parts (.char '.') member with rfl | ⟨part, present, inside⟩
  · decide
  · exact isPlain_of_isName (List.all_eq_true.mp name part present) c inside

theorem isPlain_of_isTypeName {t : Text} (name : isTypeName t) : ∀ c ∈ t, isPlain c := by
  intro c member
  rcases mem_dropBrackets (List.mem_reverse.mpr member) with inside | rfl | rfl
  · exact isPlain_of_isDottedName name c (List.mem_reverse.mpr inside)
  · decide
  · decide

theorem isPlain_of_isNumeral {t : Text} (shape : IsNumeral t) : ∀ c ∈ t, isPlain c := by
  obtain ⟨sign, whole, part, rfl, signed, digits, fraction⟩ := shape
  intro c member
  rcases List.mem_append.mp member with member | member
  · rcases List.mem_append.mp member with member | member
    · rcases signed with rfl | rfl
      · cases member
      · obtain rfl := List.mem_singleton.mp member
        decide
    · exact isPlain_of_isDigit (digits c member)
  · rcases fraction with rfl | ⟨places, rfl, places'⟩
    · cases member
    · rcases List.mem_cons.mp member with rfl | member
      · decide
      · exact isPlain_of_isDigit (places' c member)

theorem apply_isOperand {helper : Text} {arguments : List Text} (plain : ∀ c ∈ helper, isPlain c)
    (contained : ∀ t ∈ arguments, IsContained t) : IsOperand (apply helper arguments) := by
  have joined : IsContained (Text.joinWith ", " arguments) :=
    isContained_joinWith (by decide) contained
  have call : apply helper arguments =
      helper ++ (.char '(' :: Text.joinWith ", " arguments ++ [.char ')']) := by
    simp [apply, Text.ofString]
  rw [call]
  exact (isOperand_of_isPlain plain).append (isOperand_of_parentheses joined)

/-- Without a chain the script shapes no expression. -/
theorem IsExpression.isOperand {script code : Text} (expression : IsExpression script False code) : IsOperand code := by
  induction expression with
  | @fixed code known =>
    have all : ∀ code ∈ fixedCode, IsOperand code := by decide +kernel
    exact all code known
  | literal => exact stringLiteral_isOperand _
  | number shape _ known =>
    refine (isOperand_of_isPlain (isPlain_of_isNumeral shape)).append ?_
    rcases known with rfl | rfl <;> decide
  | classLiteral named _ known =>
    refine ((isOperand_of_isPlain (isPlain_of_isTypeName named)).append ?_).append (by decide)
    rcases known with rfl | rfl <;> decide
  | call named _ ih => exact apply_isOperand (isPlain_of_isName named.1) fun t member => (ih t member).1
  | negation _ ih => exact IsOperand.append (s := [.char '!']) (by decide) ih
  | chain allowed => exact allowed.elim

/-! ### The code of a predicate -/

theorem pieces_links {xs : List (Option Logical × Comparison)} {pieces : List (List Text)}
    (compiled : xs.mapM (fun (link, c) => linkedCode link c) = .ok pieces)
    (operands : ∀ x ∈ xs, ∀ code, x.2.code = .ok code → IsOperand code) :
    (∀ piece ∈ pieces.flatten, IsContained piece) ∧ pieces.flatten.flatMap links = xs.filterMap Prod.fst := by
  induction xs generalizing pieces with
  | nil =>
    cases compiled
    exact ⟨by simp, rfl⟩
  | cons x xs ih =>
    obtain ⟨link, c⟩ := x
    obtain ⟨first, rest, here, later, rfl⟩ := Fallible.mapM_cons_ok compiled
    obtain ⟨code, written, here⟩ := Fallible.bind_ok here
    cases here
    obtain ⟨contained, linked⟩ := ih later fun x member => operands x (List.mem_cons_of_mem _ member)
    have operand := operands (link, c) List.mem_cons_self code written
    constructor
    · simp only [List.flatten_cons, List.mem_append, List.mem_singleton]
      rintro piece ((member | rfl) | member)
      · obtain ⟨op, _, rfl⟩ := Option.map_eq_some_iff.mp (Option.mem_toList.mp member)
        cases op <;> decide
      · exact operand.1
      · exact contained piece member
    · simp only [List.flatten_cons, List.flatMap_append, linked]
      cases link with
      | none => simp [links_of_isOperand operand]
      | some op => simp [links_of_isOperand operand, links_spelling]

theorem filterMap_link?_linkedTokens {xs : List (Option Logical × Comparison)}
    (proper : ∀ x ∈ xs, x.2.IsProper) :
    (xs.flatMap linkedTokens).filterMap Token.link? = xs.filterMap Prod.fst := by
  induction xs with
  | nil => rfl
  | cons x xs ih =>
    obtain ⟨link, c⟩ := x
    have none : c.tokens.filterMap Token.link? = [] :=
      List.filterMap_eq_nil_iff.mpr (proper (link, c) List.mem_cons_self)
    rw [List.flatMap_cons, List.filterMap_append, ih fun y member => proper y (List.mem_cons_of_mem _ member)]
    cases link with
    | none => simp [linkedTokens, none]
    | some op => simp [linkedTokens, none, Token.link?]

theorem predicateCode_structure {script code : Text} {ts : List PlacedToken}
    (compiled : predicateCode script = .ok code) (read : tokens script = .ok ts)
    (unchained : ∀ t ∈ ts, ∀ body, t.token.body? = some body → carriesChain body = false) :
    IsContained code ∧ links code = ts.filterMap (·.token.link?) := by
  obtain ⟨_, pieces, read', sound, written, rfl⟩ := predicateCode_ok compiled
  cases read.symm.trans read'
  have sources : ∀ x ∈ (parse ts).comparisons, ∀ o ∈ x.2.operands, o.token.IsReadFrom script False :=
    operands_isReadFrom read fun t member body function carries => by simp [unchained t member body function] at carries
  obtain ⟨covered, proper⟩ := parse_covers ts sound
  have ⟨contained, linked⟩ := pieces_links written fun x member _ compiled =>
    (x.2.code_isExpression compiled (sources x member)).isOperand
  refine ⟨isContained_joinWith (by decide) contained, ?_⟩
  calc links (Text.joinWith " " pieces.flatten)
    _ = pieces.flatten.flatMap links := links_joinWith fun piece member => (contained piece member).1
    _ = (parse ts).comparisons.filterMap Prod.fst := linked
    _ = ((parse ts).comparisons.flatMap linkedTokens).filterMap Token.link? :=
      (filterMap_link?_linkedTokens proper).symm
    _ = ts.filterMap (·.token.link?) := by rw [covered, List.filterMap_map]; rfl

/-! ### The code of a value -/

/-- A `+` stands in the code between `front` and `back`, outside literals and parentheses. -/
def PlusBetween (code front back : Text) : Prop :=
  code = front ++ .char '+' :: back ∧ Nesting.start.after front = .start

theorem not_plusBetween_of_isOperand {t front back : Text} (operand : IsOperand t) :
    ¬PlusBetween t front back := by
  rintro ⟨rfl, top⟩
  have joint := operand.2 (.start, .char '+') (Nesting.mem_trace.mpr ⟨front, back, rfl, top.symm⟩) rfl
  exact joint (by decide)

theorem plusBetween_append {t rest front back : Text} (operand : IsOperand t) :
    PlusBetween (t ++ " + " ++ rest) front back ↔
      (front = t ++ " " ∧ back = " " ++ rest) ∨
      ∃ before, front = t ++ " + " ++ before ∧ PlusBetween rest before back := by
  have plus : (" + " : Text) = [.char ' ', .char '+', .char ' '] := rfl
  have skipped : ∀ before, Nesting.start.after (t ++ " + " ++ before) = Nesting.start.after before := by
    intro before
    rw [Nesting.after_append, Nesting.after_append, operand.1.1]
    rfl
  constructor
  · rintro ⟨divided, top⟩
    rw [List.append_assoc] at divided
    rcases List.append_eq_append_iff.mp divided with ⟨gap, rfl, tail⟩ | ⟨gap, rfl, tail⟩
    · -- The operand is read whole, and the `+` is that of the separator or a later one.
      rw [plus] at tail
      match gap, tail with
      | [_], tail =>
        cases tail
        exact Or.inl ⟨rfl, rfl⟩
      | _ :: _ :: _ :: before, tail =>
        cases tail
        refine Or.inr ⟨before, by rw [plus]; simp, rfl, ?_⟩
        rw [← skipped before, plus]
        simpa using top
    · match gap, tail with
      | _ :: gap, tail =>
        cases tail
        exact absurd ⟨rfl, top⟩ (not_plusBetween_of_isOperand operand)
  · rintro (⟨rfl, rfl⟩ | ⟨before, rfl, rfl, top⟩)
    · refine ⟨by simp [Text.ofString], ?_⟩
      rw [Nesting.after_append, operand.1.1]
      rfl
    · exact ⟨by simp, by rw [skipped, top]⟩

/-- The `+` at the top of a sum of operands are those between its operands. -/
theorem plusBetween_joinWith {ts : List Text} (operands : ∀ t ∈ ts, IsOperand t) {front back : Text} :
    PlusBetween (Text.joinWith " + " ts) front back ↔
      ∃ ls rs, ls ≠ [] ∧ rs ≠ [] ∧ ts = ls ++ rs ∧
        front = Text.joinWith " + " ls ++ " " ∧ back = " " ++ Text.joinWith " + " rs := by
  induction ts generalizing front with
  | nil =>
    constructor
    · rintro ⟨divided, _⟩
      simp [Text.joinWith] at divided
    · rintro ⟨ls, rs, filled, _, empty, _⟩
      exact absurd (List.append_eq_nil_iff.mp empty.symm).1 filled
  | cons t ts ih =>
    have operand := operands t List.mem_cons_self
    replace ih := @ih fun u member => operands u (List.mem_cons_of_mem _ member)
    by_cases last : ts = []
    · subst last
      constructor
      · exact fun between => absurd between (not_plusBetween_of_isOperand operand)
      · rintro ⟨ls, rs, filled, filled', whole, _⟩
        have single := congrArg List.length whole
        have left := List.length_pos_iff.mpr filled
        have right := List.length_pos_iff.mpr filled'
        rw [List.length_singleton, List.length_append] at single
        omega
    · rw [Text.joinWith_cons _ _ last, plusBetween_append operand]
      constructor
      · rintro (⟨rfl, rfl⟩ | ⟨before, rfl, between⟩)
        · exact ⟨[t], ts, by simp, last, rfl, by simp [Text.joinWith], rfl⟩
        · obtain ⟨ls, rs, filled, filled', rfl, rfl, rfl⟩ := ih.mp between
          exact ⟨t :: ls, rs, by simp, filled', rfl, by simp [Text.joinWith_cons _ _ filled], rfl⟩
      · rintro ⟨ls, rs, filled, filled', whole, rfl, rfl⟩
        cases ls with
        | nil => exact absurd rfl filled
        | cons u ls =>
          cases whole
          cases ls with
          | nil => exact Or.inl ⟨by simp [Text.joinWith], rfl⟩
          | cons v ls =>
            refine Or.inr ⟨Text.joinWith " + " (v :: ls) ++ " ", ?_, ih.mpr ⟨v :: ls, rs, by simp, filled', rfl, rfl, rfl⟩⟩
            rw [Text.joinWith_cons _ _ (by simp), List.append_assoc]

theorem valueCode_structure {script code : Text} {placed : List PlacedSegment}
    (compiled : valueCode script = .ok code) (read : segments script = .ok placed)
    (unchained : ∀ s ∈ placed, ∀ body, s.segment.body? = some body → carriesChain body = false) :
    ∃ parts, valueParts script = .ok parts ∧ code = Text.joinWith " + " (parts.map Part.code) ∧
      ∀ part ∈ parts, IsOperand part.code := by
  obtain ⟨parts, made, compiled⟩ := Fallible.bind_ok compiled
  cases compiled
  have expressions : ∀ part ∈ parts, IsExpression script False part.code :=
    valueParts_isExpression made read fun s member body function carries => by
      simp [unchained s member body function] at carries
  exact ⟨parts, made, rfl, fun part member => (expressions part member).isOperand⟩

/-! ### Scripts -/

def functionBodies (kind : UsageKind) (script : Text) : List Text :=
  match kind with
  | .predicate => ((tokens script).toOption.getD []).filterMap (·.token.body?)
  | .value => ((segments script).toOption.getD []).filterMap (·.segment.body?)

/-- The text of a script cannot change the structure of its code. -/
theorem scriptCode_structure {kind : UsageKind} {script code : Text}
    (compiled : scriptCode kind script = .ok code)
    (unchained : ∀ body ∈ functionBodies kind script, carriesChain body = false) :
    IsContained code ∧
      match kind with
      | .predicate => ∃ ts, tokens script = .ok ts ∧ links code = ts.filterMap (·.token.link?)
      | .value => ∃ parts, valueParts script = .ok parts ∧ code = Text.joinWith " + " (parts.map Part.code) ∧
          ∀ front back, PlusBetween code front back ↔
            ∃ ls rs, ls ≠ [] ∧ rs ≠ [] ∧ parts = ls ++ rs ∧
              front = Text.joinWith " + " (ls.map Part.code) ++ " " ∧
              back = " " ++ Text.joinWith " + " (rs.map Part.code) := by
  cases kind with
  | predicate =>
    obtain ⟨ts, read, _⟩ := Fallible.bind_ok compiled
    replace read := Fallible.mapError_ok read
    have ⟨contained, linked⟩ := predicateCode_structure compiled read (by
      intro t member body function
      exact unchained body (by simpa [functionBodies, read, Except.toOption] using ⟨t, member, function⟩))
    exact ⟨contained, ts, read, linked⟩
  | value =>
    replace compiled := Fallible.mapError_ok compiled
    obtain ⟨parts, made, _⟩ := Fallible.bind_ok compiled
    obtain ⟨placed, read, _⟩ := Fallible.bind_ok made
    obtain ⟨parts, made, rfl, operands⟩ := valueCode_structure compiled read (by
      intro s member body function
      exact unchained body (by simpa [functionBodies, read, Except.toOption] using ⟨s, member, function⟩))
    have operands' : ∀ t ∈ parts.map Part.code, IsOperand t := by simpa using operands
    refine ⟨isContained_joinWith (by decide) fun t member => (operands' t member).1, parts, made, rfl, ?_⟩
    intro front back
    rw [plusBetween_joinWith operands']
    constructor
    · rintro ⟨ls, rs, filled, filled', whole, rfl, rfl⟩
      obtain ⟨ls, rs, rfl, rfl, rfl⟩ := List.map_eq_append_iff.mp whole
      exact ⟨ls, rs, by simpa using filled, by simpa using filled', rfl, rfl, rfl⟩
    · rintro ⟨ls, rs, filled, filled', rfl, rfl, rfl⟩
      exact ⟨ls.map Part.code, rs.map Part.code, by simpa using filled, by simpa using filled', by simp, rfl, rfl⟩

/-- Quotes, operators, delimiters and parentheses of these two scripts stay inside the literals. -/
theorem scriptCode_structure_hostile :
    (scriptCode .predicate "$\x7bheader.a\x7d == '\") && ; (' || false" =
        .ok "isEqualTo(exchange, header(message, \"a\"), \"\\\") && ; (\") || false" ∧
      ∃ ts, tokens "$\x7bheader.a\x7d == '\") && ; (' || false" = .ok ts ∧
        links "isEqualTo(exchange, header(message, \"a\"), \"\\\") && ; (\") || false" =
          ts.filterMap (·.token.link?)) ∧
    (scriptCode .value "1 + \"($\x7bbody\x7d" = .ok "\"1 + \\\"(\" + body" ∧
      IsContained "\"1 + \\\"(\" + body" ∧
      PlusBetween "\"1 + \\\"(\" + body" "\"1 + \\\"(\" " " body") := by
  have predicate : scriptCode .predicate "$\x7bheader.a\x7d == '\") && ; (' || false" =
      .ok "isEqualTo(exchange, header(message, \"a\"), \"\\\") && ; (\") || false" :=
    Fallible.ok_of_toOption (by decide +kernel)
  have value : scriptCode .value "1 + \"($\x7bbody\x7d" = .ok "\"1 + \\\"(\" + body" :=
    Fallible.ok_of_toOption (by decide +kernel)
  have two : valueParts "1 + \"($\x7bbody\x7d" = .ok [.literal "1 + \"(", .call "body"] :=
    Fallible.ok_of_toOption (by decide +kernel)
  obtain ⟨_, joined⟩ := scriptCode_structure predicate (by decide +kernel)
  obtain ⟨contained, parts, made, _, pluses⟩ := scriptCode_structure value (by decide +kernel)
  cases made.symm.trans two
  refine ⟨⟨predicate, joined⟩, value, contained, (pluses _ _).mpr ?_⟩
  exact ⟨[.literal "1 + \"("], [.call "body"], by simp, by simp, rfl, by decide, by decide⟩

end RouteScript.Script
