import RouteScript.Proofs.Java.LiteralText
import RouteScript.Proofs.Script.CodeStructure

/-!
# What the code of a value script evaluates to

Java's `+` concatenates where one of its operands is a string and calculates otherwise, and a sum is worked out from
the left. The code of a value script evaluates to what the template says: the value of its only function, or the
texts and the functions' values one after another as a string (`valueCode_meaning`).
-/

namespace RouteScript

namespace Java

/-- A value at run time: a string, or anything else, such as a number or `null`. -/
inductive Value (α : Type) where
  | string (t : Text)
  | other (a : α)
  deriving DecidableEq, Repr

/-- What `+` knows of the values that are no strings: how each is written in a string, and the sum of two, where
they have one. -/
structure Arithmetic (α : Type) where
  written : α → Text
  sum? : α → α → Option α

namespace Value

variable {α : Type} (m : Arithmetic α)

def isString : Value α → Bool
  | string _ => true
  | other _ => false

def written : Value α → Text
  | string t => t
  | other a => m.written a

/-- The value of `x + y`, if there is one. -/
def plus : Value α → Value α → Option (Value α)
  | other a, other b => (m.sum? a b).map other
  | x, y => some (string (x.written m ++ y.written m))

/-- The value of a sum that is worked out from the left, `x` being the value of what stands before. -/
def sumFrom (x : Value α) : List (Value α) → Option (Value α)
  | [] => some x
  | y :: rest => (plus m x y).bind fun z => sumFrom z rest

/-- The pairs of values that `+` is applied to on the way. -/
def additionsFrom (x : Value α) : List (Value α) → List (Value α × Value α)
  | [] => []
  | y :: rest => (x, y) :: ((plus m x y).map fun z => additionsFrom z rest).getD []

def sum : List (Value α) → Option (Value α)
  | [] => none
  | x :: rest => sumFrom m x rest

def additions : List (Value α) → List (Value α × Value α)
  | [] => []
  | x :: rest => additionsFrom m x rest

theorem string_plus (t : Text) (x : Value α) : plus m (string t) x = some (string (t ++ x.written m)) := by
  cases x <;> rfl

/-- Behind a string everything is concatenated. -/
theorem sumFrom_string (t : Text) (xs : List (Value α)) :
    sumFrom m (string t) xs = some (string (t ++ xs.flatMap (written m))) := by
  induction xs generalizing t with
  | nil => rw [sumFrom, List.flatMap_nil, List.append_nil]
  | cons x xs ih => rw [sumFrom, string_plus, Option.bind_some, ih, List.flatMap_cons, List.append_assoc]

theorem additionsFrom_string (t : Text) (xs : List (Value α)) :
    ∀ pair ∈ additionsFrom m (string t) xs, pair.1.isString := by
  induction xs generalizing t with
  | nil => simp [additionsFrom]
  | cons x xs ih =>
    rw [additionsFrom, string_plus]
    intro pair member
    rcases List.mem_cons.mp member with rfl | later
    · rfl
    · exact ih _ pair later

end Value

end Java

namespace Script

open Java

variable {α : Type}

/-! ### Evaluation -/

def isLiteral (operand : Text) : Bool := operand.head? = some (.char '"')

/-- The values of operands from left to right. A literal has the value it is read as, and `call n code` is what the
code of a function comes to as the `n`-th to be run. -/
def operandValues (call : Nat → Text → Value α) (n : Nat) : List Text → List (Value α)
  | [] => []
  | operand :: rest =>
    if isLiteral operand then .string (literalValue operand) :: operandValues call n rest
    else call n operand :: operandValues call (n + 1) rest

/-- The string that a template stands for: its texts, and the values of its functions as they are written. -/
def concatenation (m : Arithmetic α) (call : Nat → Text → Value α) (n : Nat) :
    List Segment → Except SyntaxCause Text
  | [] => return []
  | .text t :: rest => return t ++ (← concatenation m call n rest)
  | .function body :: rest => do
    let code ← functionCode body
    return (call n code).written m ++ (← concatenation m call (n + 1) rest)

/-- The value that a template stands for: that of its only function, or else a string. -/
def templateValue (m : Arithmetic α) (call : Nat → Text → Value α) : List Segment → Except SyntaxCause (Value α)
  | [.function body] => return call 0 (← functionCode body)
  | template => return .string (← concatenation m call 0 template)

/-! ### Operands -/

theorem isLiteral_stringLiteral (t : Text) : isLiteral (stringLiteral t) := by
  simp [isLiteral, stringLiteral]

theorem isLiteral_apply {helper : Text} (named : isName helper) (arguments : List Text) (chain : Text) :
    isLiteral (apply helper arguments ++ chain) = false := by
  cases helper with
  | nil => cases named
  | cons c helper =>
    have quote := not_mem_of_isName (c := .char '"') (by decide) named
    have other : c ≠ .char '"' := fun same => quote (by simp [same])
    simpa [isLiteral, apply] using other

theorem functionCode_not_isLiteral {body code : Text} (compiled : functionCode body = .ok code) :
    isLiteral code = false := by
  obtain ⟨call, read, rfl⟩ := functionCode_ok compiled
  obtain known | ⟨helper, arguments, named, _, same⟩ := Call.code_cases (call?_isReadFrom read)
  · have table : ∀ code ∈ constants.map Prod.snd, isLiteral code = false := by decide
    exact table _ known
  · rw [same, isLiteral_apply named.1]

/-- The operands of a template are its functions in order, and between them literals. -/
theorem operands_functions {placed : List PlacedSegment} {parts : List Part}
    (made : placed.mapM PlacedSegment.part = .ok parts) :
    ((placed.map (·.segment)).filterMap Segment.body?).mapM functionCode =
        .ok ((parts.map Part.code).filter fun operand => !isLiteral operand) ∧
      ∀ operand ∈ parts.map Part.code, isLiteral operand → IsOrdinary operand := by
  induction placed generalizing parts with
  | nil =>
    cases made
    exact ⟨rfl, by simp⟩
  | cons s placed ih =>
    obtain ⟨part, rest, first, later, rfl⟩ := Fallible.mapM_cons_ok made
    obtain ⟨functions, literals⟩ := ih later
    rw [List.map_cons, List.map_cons]
    rcases s.part_cases first with ⟨t, text, rfl⟩ | ⟨body, code, function, rfl, written⟩
    · refine ⟨?_, ?_⟩
      · rw [text, List.filterMap_cons_none rfl, List.filter_cons_of_neg (by simp [Part.code, isLiteral_stringLiteral])]
        exact functions
      · intro operand member
        rcases List.mem_cons.mp member with rfl | member
        · exact fun _ => stringLiteral_isOrdinary t
        · exact literals operand member
    · have plain : isLiteral code = false := functionCode_not_isLiteral written
      have body? : (Segment.function body).body? = some body := rfl
      refine ⟨?_, ?_⟩
      · rw [function, List.filterMap_cons_some body?, List.filter_cons_of_pos (by simp [Part.code, plain]),
          List.mapM_cons, written, functions]
        rfl
      · intro operand member literal
        rcases List.mem_cons.mp member with same | member
        · rw [same, Part.code, plain] at literal
          cases literal
        · exact literals operand member literal

theorem filter_startWithString (parts : List Part) :
    ((startWithString parts).map Part.code).filter (fun operand => !isLiteral operand) =
      (parts.map Part.code).filter fun operand => !isLiteral operand := by
  unfold startWithString
  split
  · have literal : isLiteral (Part.literal []).code := isLiteral_stringLiteral []
    rw [List.map_cons, List.filter_cons_of_neg (by simp [literal])]
  · rfl

theorem operandValues_literal (call : Nat → Text → Value α) (n : Nat) (t : Text) (operands : List Text) :
    operandValues call n (stringLiteral t :: operands) = .string t :: operandValues call n operands := by
  rw [operandValues, if_pos (isLiteral_stringLiteral t), literalValue_stringLiteral]

theorem operandValues_call (call : Nat → Text → Value α) (n : Nat) {body code : Text}
    (compiled : functionCode body = .ok code) (operands : List Text) :
    operandValues call n (code :: operands) = call n code :: operandValues call (n + 1) operands := by
  rw [operandValues, if_neg (by simp [functionCode_not_isLiteral compiled])]

/-- Written one after another, the values of the operands are the string that the template stands for. -/
theorem concatenation_operands (m : Arithmetic α) (call : Nat → Text → Value α) (n : Nat)
    {placed : List PlacedSegment} {parts : List Part} (made : placed.mapM PlacedSegment.part = .ok parts) :
    concatenation m call n (placed.map (·.segment)) =
      .ok ((operandValues call n (parts.map Part.code)).flatMap (Value.written m)) := by
  induction placed generalizing parts n with
  | nil =>
    cases made
    rfl
  | cons s placed ih =>
    obtain ⟨part, rest, first, later, rfl⟩ := Fallible.mapM_cons_ok made
    rw [List.map_cons, List.map_cons]
    rcases s.part_cases first with ⟨t, text, rfl⟩ | ⟨body, code, function, rfl, written⟩
    · rw [text, concatenation, ih n later, Part.code, operandValues_literal]
      rfl
    · rw [function, concatenation, written, ih (n + 1) later, Part.code, operandValues_call call n written]
      rfl

/-! ### The code of a value script -/

theorem valueCode_parts {script code : Text} (accepted : valueCode script = .ok code) :
    ∃ placed parts, segments script = .ok placed ∧ placed ≠ [] ∧ placed.mapM PlacedSegment.part = .ok parts ∧
      code = Text.joinWith " + " ((startWithString parts).map Part.code) := by
  obtain ⟨_, made, accepted⟩ := Fallible.bind_ok accepted
  obtain ⟨placed, read, made⟩ := Fallible.bind_ok made
  dsimp only at made
  split at made
  · cases made
  · rename_i filled
    obtain ⟨parts, mapped, made⟩ := Fallible.bind_ok made
    cases made
    cases accepted
    exact ⟨placed, parts, read, filled, mapped, rfl⟩

/-- A literal in front makes every `+` a concatenation. -/
theorem sum_operands_literal (m : Arithmetic α) (call : Nat → Text → Value α) (t : Text) (operands : List Text) :
    let values := operandValues call 0 (stringLiteral t :: operands)
    Value.sum m values = some (.string (values.flatMap (Value.written m))) ∧
      ∀ pair ∈ Value.additions m values, pair.1.isString ∨ pair.2.isString := by
  rw [operandValues_literal]
  refine ⟨Value.sumFrom_string m t _, ?_⟩
  intro pair member
  exact Or.inl (Value.additionsFrom_string m t _ pair member)

theorem templateValue_string {m : Arithmetic α} {call : Nat → Text → Value α} {template : List Segment} {t : Text}
    (several : ∀ body, template ≠ [.function body]) (written : concatenation m call 0 template = .ok t) :
    templateValue m call template = .ok (.string t) := by
  rw [templateValue]
  · rw [written]
    rfl
  · exact several

/-- The operands of the code evaluate to what the template stands for. -/
theorem sum_operands (m : Arithmetic α) (call : Nat → Text → Value α) {placed : List PlacedSegment}
    {parts : List Part} (filled : placed ≠ []) (made : placed.mapM PlacedSegment.part = .ok parts) :
    let values := operandValues call 0 ((startWithString parts).map Part.code)
    ∃ value, templateValue m call (placed.map (·.segment)) = .ok value ∧ Value.sum m values = some value ∧
      ∀ pair ∈ Value.additions m values, pair.1.isString ∨ pair.2.isString := by
  have whole := concatenation_operands m call 0 made
  obtain ⟨s, placed, rfl⟩ := List.exists_cons_of_ne_nil filled
  obtain ⟨part, rest, first, later, rfl⟩ := Fallible.mapM_cons_ok made
  rcases s.part_cases first with ⟨t, text, rfl⟩ | ⟨body, code, function, rfl, written⟩
  · obtain ⟨summed, concatenated⟩ := sum_operands_literal m call t (rest.map Part.code)
    refine ⟨_, templateValue_string ?_ whole, summed, concatenated⟩
    simp [text]
  · cases placed with
    | nil =>
      -- The only function is the whole expression, and no `+` is applied.
      cases later
      have alone : operandValues call 0 [code] = [call 0 code] := operandValues_call call 0 written []
      refine ⟨call 0 code, ?_, ?_, ?_⟩
      · rw [List.map_singleton, function, templateValue, written]
        rfl
      · exact congrArg (Value.sum m) alone
      · intro pair member
        have member : pair ∈ Value.additions m (operandValues call 0 [code]) := member
        rw [alone] at member
        cases member
    | cons next placed =>
      obtain ⟨part, rest, _, _, rfl⟩ := Fallible.mapM_cons_ok later
      -- The empty literal in front adds nothing to the string.
      have front : operandValues call 0 ((startWithString (.call code :: part :: rest)).map Part.code) =
          .string [] :: operandValues call 0 ((Part.call code :: part :: rest).map Part.code) :=
        operandValues_literal call 0 [] _
      obtain ⟨summed, concatenated⟩ :=
        sum_operands_literal m call [] ((Part.call code :: part :: rest).map Part.code)
      rw [operandValues_literal] at summed concatenated
      rw [front]
      refine ⟨_, templateValue_string ?_ whole, summed, concatenated⟩
      simp

/-- The code of a value script evaluates to the texts of its template and the values of its functions as one string. -/
theorem valueCode_meaning {script code : Text} (accepted : valueCode script = .ok code) :
    ∃ placed operands, segments script = .ok placed ∧ code = Text.joinWith " + " operands ∧
      (∀ operand ∈ operands, isLiteral operand → IsOrdinary operand) ∧
      ((placed.map (·.segment)).filterMap Segment.body?).mapM functionCode =
        .ok (operands.filter fun operand => !isLiteral operand) ∧
      ∀ (α : Type) (m : Arithmetic α) (call : Nat → Text → Value α), ∃ value,
        templateValue m call (placed.map (·.segment)) = .ok value ∧
        Value.sum m (operandValues call 0 operands) = some value ∧
        ∀ pair ∈ Value.additions m (operandValues call 0 operands), pair.1.isString ∨ pair.2.isString := by
  obtain ⟨placed, parts, read, filled, made, rfl⟩ := valueCode_parts accepted
  obtain ⟨functions, literals⟩ := operands_functions made
  refine ⟨placed, (startWithString parts).map Part.code, read, rfl, ?_, ?_, ?_⟩
  · intro operand member
    obtain ⟨part, present, rfl⟩ := List.mem_map.mp member
    rcases startWithString_mem present with rfl | present
    · exact fun _ => stringLiteral_isOrdinary []
    · exact literals part.code (List.mem_map.mpr ⟨part, present, rfl⟩)
  · rw [functions, filter_startWithString]
  · exact fun α m call => sum_operands m call filled made

/-- Numbers and `null`, which has no sum. -/
def numbers : Arithmetic (Option Nat) :=
  ⟨fun n => n.elim "null" Text.ofNat, fun a b => a.bind fun x => b.map fun y => some (x + y)⟩

/-- Functions that count up from 4, and `null`. -/
def counting (n : Nat) (code : Text) : Value (Option Nat) := .other (if code = "null" then none else some (n + 4))

/-- The numbers of two functions in front are not added, and a function alone stays a number. -/
theorem valueCode_meaning_numbers :
    (∃ operands, valueCode "$\x7bid\x7d$\x7bbody\x7d$\x7bnull\x7d." = .ok (Text.joinWith " + " operands) ∧
      Value.sum numbers (operandValues counting 0 operands) = some (.string "45null.")) ∧
    ∃ operands, valueCode "$\x7bbody\x7d" = .ok (Text.joinWith " + " operands) ∧
      Value.sum numbers (operandValues counting 0 operands) = some (.other (some 4)) := by
  have evaluates : ∀ {script : Text} {value : Value (Option Nat)},
      (valueCode script).toOption.isSome ∧ ((segments script).toOption.bind fun placed =>
        (templateValue numbers counting (placed.map (·.segment))).toOption) = some value →
      ∃ operands, valueCode script = .ok (Text.joinWith " + " operands) ∧
        Value.sum numbers (operandValues counting 0 operands) = some value := by
    rintro script value ⟨accepted, known⟩
    obtain ⟨code, compiled⟩ := Option.isSome_iff_exists.mp accepted
    replace compiled := Fallible.ok_of_toOption compiled
    obtain ⟨placed, operands, read, rfl, _, _, meaning⟩ := valueCode_meaning compiled
    obtain ⟨_, meant, summed, _⟩ := meaning _ numbers counting
    rw [read, Except.toOption, Option.bind_some, meant] at known
    cases known
    exact ⟨operands, compiled, summed⟩
  exact ⟨evaluates (by decide +kernel), evaluates (by decide +kernel)⟩

end Script

end RouteScript
