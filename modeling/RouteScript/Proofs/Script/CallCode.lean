import RouteScript.Proofs.Script.Numeral
import RouteScript.Proofs.Text.Surrogate
import RouteScript.Script.Call

/-!
# The code of functions

What a function body says reaches the code as a literal, as a name, as an integer or as a chain behind a call.
`Call.IsReadFrom` is what the shapes of bodies guarantee of a call, and `IsExpression` is what the code of scripts is
made of: the code of a function is such an expression (`functionCode_isExpression`).
-/

namespace RouteScript.Script

open Java

/-! ### Calls read from a body -/

/-- What the shape of a body guarantees of the parts that are not written as literals. -/
def Call.WellFormed : Call → Prop
  | .constant code => code ∈ constants.map Prod.snd
  | .typed _ _ type chain => isTypeName type ∧ isOneLine chain
  | .random first second => isInteger first ∧ ∀ s ∈ second, isInteger s
  | .staticField type _ => isTypeName type
  | .lookup _ _ | .date _ _ | .properties _ _ | .empty _ => True

def Call.pieces : Call → List Text
  | .constant _ => []
  | .lookup _ key => [key]
  | .typed _ key type chain => key.toList ++ [type, chain]
  | .date command pattern => command :: pattern.toList
  | .random first second => first :: second.toList
  | .properties key fallback => key :: fallback.toList
  | .staticField type field => [type, field]
  | .empty kind => [kind]

structure Call.IsReadFrom (call : Call) (body : Text) : Prop where
  wellFormed : call.WellFormed
  pieces : ∀ t ∈ call.pieces, t ⊆ body

theorem constant?_isReadFrom {body : Text} {call : Call} (h : constant? body = some call) : call.IsReadFrom body := by
  obtain ⟨code, found, rfl⟩ := Option.map_eq_some_iff.mp h
  obtain ⟨before, after, table, _⟩ := List.lookup_eq_some_iff.mp found
  exact ⟨List.mem_map.mpr ⟨(body, code), by rw [table]; simp, rfl⟩, by simp [Call.pieces]⟩

theorem unquote_subset (t : Text) : unquote t ⊆ t := by
  unfold unquote
  dsimp only
  split
  · split
    · exact List.Subset.trans (List.Subset.trans (List.drop_subset _ _) (List.take_subset _ _)) (Text.strip_subset t)
    · exact Text.strip_subset t
  · exact Text.strip_subset t

theorem lookupKey?_subset {rest key : Text} (found : lookupKey? rest = some key) : key ⊆ rest := by
  unfold lookupKey? at found
  dsimp only at found
  repeat' split at found
  all_goals try exact absurd found.symm (Option.some_ne_none key)
  all_goals obtain rfl := Option.some.inj found
  · exact List.subset_cons_self _ _
  · exact List.subset_cons_self _ _
  · exact List.Subset.trans (List.dropLast_subset _) (List.subset_cons_self _ _)

theorem lookup?_isReadFrom {source : Lookup} {body : Text} {call : Call} (h : lookup? source body = some call) :
    call.IsReadFrom body := by
  obtain ⟨name, _, h⟩ := List.exists_of_findSome?_eq_some h
  obtain ⟨rest, begins, h⟩ := Option.bind_eq_some_iff.mp h
  obtain ⟨key, found, h⟩ := Option.bind_eq_some_iff.mp h
  cases h
  refine ⟨trivial, ?_⟩
  simp only [Call.pieces, List.forall_mem_singleton]
  exact List.Subset.trans (List.Subset.trans (unquote_subset key) (lookupKey?_subset found)) (Text.after?_subset begins)

theorem typeAndChain?_some {t type chain : Text} (read : typeAndChain? t = some (type, chain)) :
    (isTypeName type ∧ isOneLine chain) ∧ type ⊆ t ∧ chain ⊆ t := by
  obtain ⟨⟨inner, rest⟩, cut, read⟩ := Option.bind_eq_some_iff.mp read
  dsimp only at read
  split at read
  · rename_i accepted
    cases read
    have ⟨front, back⟩ := Text.cutFirst?_subset cut
    exact ⟨Bool.and_eq_true_iff.mp accepted, List.Subset.trans (Text.strip_subset inner) front, back⟩
  · cases read

theorem typed?_isReadFrom {accessor : TypedAccessor} {body : Text} {call : Call}
    (h : typed? accessor body = some call) : call.IsReadFrom body := by
  obtain ⟨arguments, begins, h⟩ := Option.bind_eq_some_iff.mp h
  have whole := Text.after?_subset begins
  dsimp only at h
  split at h
  · obtain ⟨⟨key, rest⟩, cut, h⟩ := Option.bind_eq_some_iff.mp h
    dsimp only at h
    split at h
    · cases h
    · obtain ⟨⟨type, chain⟩, read, h⟩ := Option.bind_eq_some_iff.mp h
      cases h
      have ⟨front, back⟩ := Text.cutFirst?_subset cut
      have ⟨accepted, typePart, chainPart⟩ := typeAndChain?_some read
      have behind := List.Subset.trans back whole
      refine ⟨accepted, ?_⟩
      simp only [Call.pieces, Option.toList_some, List.singleton_append, List.forall_mem_cons]
      exact ⟨List.Subset.trans (unquote_subset key) (List.Subset.trans front whole), List.Subset.trans typePart behind,
        List.Subset.trans chainPart behind, by simp⟩
  · obtain ⟨⟨type, chain⟩, read, h⟩ := Option.bind_eq_some_iff.mp h
    cases h
    have ⟨accepted, typePart, chainPart⟩ := typeAndChain?_some read
    refine ⟨accepted, ?_⟩
    simp only [Call.pieces, Option.toList_none, List.nil_append, List.forall_mem_cons]
    exact ⟨List.Subset.trans typePart whole, List.Subset.trans chainPart whole, by simp⟩

theorem date?_isReadFrom {body : Text} {call : Call} (h : date? body = some call) : call.IsReadFrom body := by
  obtain ⟨rest, begins, h⟩ := Option.bind_eq_some_iff.mp h
  have whole := Text.after?_subset begins
  split at h
  · split at h
    · cases h
    · cases h
      exact ⟨trivial, by simpa [Call.pieces] using whole⟩
  · rename_i command pattern cut
    have ⟨front, back⟩ := Text.cutFirst?_subset cut
    split at h
    · cases h
      refine ⟨trivial, ?_⟩
      simpa [Call.pieces] using And.intro (List.Subset.trans front whole) (List.Subset.trans back whole)
    · cases h

theorem properties?_isReadFrom {body : Text} {call : Call} (h : properties? body = some call) :
    call.IsReadFrom body := by
  obtain ⟨rest, begins, h⟩ := Option.bind_eq_some_iff.mp h
  have whole := Text.after?_subset begins
  split at h
  · split at h
    · cases h
    · cases h
      exact ⟨trivial, by simpa [Call.pieces] using whole⟩
  · rename_i key fallback cut
    have ⟨front, back⟩ := Text.cutFirst?_subset cut
    split at h
    · cases h
      refine ⟨trivial, ?_⟩
      simpa [Call.pieces] using And.intro (List.Subset.trans front whole) (List.Subset.trans back whole)
    · cases h

theorem random?_isReadFrom {body : Text} {call : Call} (h : random? body = some call) : call.IsReadFrom body := by
  obtain ⟨rest, begins, h⟩ := Option.bind_eq_some_iff.mp h
  obtain ⟨⟨arguments, tail⟩, cut, h⟩ := Option.bind_eq_some_iff.mp h
  have argument : ∀ t ∈ (Text.parts (.char ',') arguments).map Text.strip, t ⊆ body := by
    intro t member
    obtain ⟨part, present, rfl⟩ := List.mem_map.mp member
    have inner := List.Subset.trans (Text.cutFirst?_subset cut).1 (Text.after?_subset begins)
    exact List.Subset.trans (Text.strip_subset part) (List.Subset.trans (Text.parts_subset present) inner)
  dsimp only at h
  split at h
  · cases h
  · split at h
    · rename_i first single
      rw [single] at argument
      split at h
      · rename_i integer
        cases h
        exact ⟨⟨integer, by simp⟩, argument⟩
      · cases h
    · rename_i first second pair
      rw [pair] at argument
      split at h
      · rename_i integers
        cases h
        have ⟨integer, integer'⟩ := Bool.and_eq_true_iff.mp integers
        exact ⟨⟨integer, by simpa using integer'⟩, argument⟩
      · cases h
    · cases h

theorem staticField?_isReadFrom {body : Text} {call : Call} (h : staticField? body = some call) :
    call.IsReadFrom body := by
  obtain ⟨rest, begins, h⟩ := Option.bind_eq_some_iff.mp h
  obtain ⟨⟨type, field⟩, cut, h⟩ := Option.bind_eq_some_iff.mp h
  have whole := Text.after?_subset begins
  have ⟨front, back⟩ := Text.cutLast?_subset cut
  dsimp only at h
  split at h
  · rename_i accepted
    cases h
    refine ⟨(Bool.and_eq_true_iff.mp accepted).1, ?_⟩
    simpa [Call.pieces] using And.intro (List.Subset.trans front whole) (List.Subset.trans back whole)
  · cases h

theorem empty?_isReadFrom {body : Text} {call : Call} (h : empty? body = some call) : call.IsReadFrom body := by
  obtain ⟨rest, begins, h⟩ := Option.bind_eq_some_iff.mp h
  obtain ⟨⟨inner, tail⟩, cut, h⟩ := Option.bind_eq_some_iff.mp h
  dsimp only at h
  split at h
  · cases h
    have whole := List.Subset.trans (Text.cutFirst?_subset cut).1 (Text.after?_subset begins)
    exact ⟨trivial, by simpa [Call.pieces] using List.Subset.trans (Text.strip_subset inner) whole⟩
  · cases h

theorem patterns_isReadFrom : ∀ shape ∈ patterns, ∀ body call, shape body = some call → call.IsReadFrom body := by
  have typed : ∀ accessor body call, typed? accessor body = some call → call.IsReadFrom body :=
    fun _ _ _ => typed?_isReadFrom
  have lookup : ∀ source body call, lookup? source body = some call → call.IsReadFrom body :=
    fun _ _ _ => lookup?_isReadFrom
  simp only [patterns, List.forall_mem_cons]
  exact ⟨typed _, typed _, typed _, typed _, typed _, lookup _, lookup _, lookup _, lookup _, lookup _,
    fun _ _ => date?_isReadFrom, fun _ _ => random?_isReadFrom, fun _ _ => properties?_isReadFrom,
    fun _ _ => staticField?_isReadFrom, fun _ _ => empty?_isReadFrom, fun _ member => nomatch member⟩

theorem call?_isReadFrom {body : Text} {call : Call} (h : call? body = some call) : call.IsReadFrom body := by
  simp only [call?, Option.orElse_eq_orElse, Option.orElse_eq_or, Option.or_eq_some_iff] at h
  rcases h with constant | ⟨_, pattern⟩
  · exact constant?_isReadFrom constant
  · obtain ⟨shape, member, fits⟩ := List.exists_of_findSome?_eq_some pattern
    exact patterns_isReadFrom shape member body call fits

theorem call?_wellFormed {body : Text} {call : Call} (h : call? body = some call) : call.WellFormed :=
  (call?_isReadFrom h).wellFormed

/-! ### Expressions -/

def fixedCode : List Text :=
  let plain : List Text := ["message", "0", "true", "false"]
  plain ++ constants.map Prod.snd

/-- The name of a helper. It comes from no script. -/
def IsHelper (t : Text) : Prop := isName t ∧ t.NoSurrogate

/-- What the code of a script is made of, with chains behind calls where `chained` allows them. What is not fixed is a
piece of the script. -/
inductive IsExpression (script : Text) (chained : Prop) : Text → Prop
  | fixed {code : Text} (known : code ∈ fixedCode) : IsExpression script chained code
  | literal {value : Text} (piece : value ⊆ script) : IsExpression script chained (stringLiteral value)
  | number {numeral suffix : Text} (shape : IsNumeral numeral) (piece : numeral ⊆ script)
      (known : suffix = [] ∨ suffix = "L") : IsExpression script chained (numeral ++ suffix)
  | classLiteral {name ending : Text} (named : isTypeName name) (piece : name ⊆ script)
      (known : ending = [] ∨ ending = "\n") : IsExpression script chained (name ++ ending ++ ".class")
  | call {helper : Text} {arguments : List Text} (named : IsHelper helper)
      (all : ∀ t ∈ arguments, IsExpression script chained t) : IsExpression script chained (apply helper arguments)
  | negation {code : Text} (inner : IsExpression script chained code) : IsExpression script chained (.char '!' :: code)
  | chain {code chain : Text} (allowed : chained) (call : IsExpression script chained code) (single : isOneLine chain)
      (piece : chain ⊆ script) : IsExpression script chained (code ++ chain)

theorem IsExpression.mono {script script' : Text} {chained chained' : Prop} {code : Text} (part : script ⊆ script')
    (allow : chained → chained') (expression : IsExpression script chained code) :
    IsExpression script' chained' code := by
  induction expression with
  | fixed known => exact .fixed known
  | literal piece => exact .literal (List.Subset.trans piece part)
  | number shape piece known => exact .number shape (List.Subset.trans piece part) known
  | classLiteral named piece known => exact .classLiteral named (List.Subset.trans piece part) known
  | call named _ ih => exact .call named ih
  | negation _ ih => exact .negation ih
  | chain allowed _ single piece ih => exact .chain (allow allowed) ih single (List.Subset.trans piece part)

theorem isNumeral_of_isInteger {t : Text} (integer : isInteger t) : IsNumeral t := by
  unfold isInteger at integer
  split at integer
  · rename_i digits
    exact ⟨[.char '-'], digits, [], by simp, Or.inr rfl, List.all_eq_true.mp (Bool.and_eq_true_iff.mp integer).2, Or.inl rfl⟩
  · exact ⟨[], t, [], by simp, Or.inl rfl, List.all_eq_true.mp (Bool.and_eq_true_iff.mp integer).2, Or.inl rfl⟩

namespace IsExpression

variable {script : Text} {chained : Prop}

theorem integer {t : Text} (shape : isInteger t) (piece : t ⊆ script) : IsExpression script chained t := by
  have plain : IsExpression script chained (t ++ []) := .number (isNumeral_of_isInteger shape) piece (Or.inl rfl)
  rwa [List.append_nil] at plain

theorem ofType {name : Text} (named : isTypeName name) (piece : name ⊆ script) :
    IsExpression script chained (name ++ ".class") := by
  have plain : IsExpression script chained (name ++ ([] : Text) ++ ".class") := .classLiteral named piece (Or.inl rfl)
  rwa [List.append_nil] at plain

theorem optional {t : Option Text} (pieces : ∀ value ∈ t, value ⊆ script) :
    ∀ code ∈ (t.map stringLiteral).toList, IsExpression script chained code := by
  intro code member
  obtain ⟨value, present, rfl⟩ := Option.map_eq_some_iff.mp (Option.mem_toList.mp member)
  exact .literal (pieces value present)

end IsExpression

/-! ### The code of a call -/

def Call.chain : Call → Text
  | .typed _ _ _ chain => chain
  | _ => []

theorem Lookup.isHelper (source : Lookup) : IsHelper source.target.1 := by
  cases source <;> exact ⟨by decide, Text.noSurrogate_ofString _⟩

theorem TypedAccessor.isHelper (accessor : TypedAccessor) : IsHelper accessor.name := by
  cases accessor <;> exact ⟨by decide, Text.noSurrogate_ofString _⟩

theorem Call.code_cases {call : Call} {body : Text} (read : call.IsReadFrom body) :
    call.code ∈ constants.map Prod.snd ∨ ∃ helper arguments, IsHelper helper ∧
      (∀ t ∈ arguments, IsExpression body False t) ∧ call.code = apply helper arguments ++ call.chain := by
  obtain ⟨wellFormed, pieces⟩ := read
  have exchange : IsExpression body False "exchange" := .fixed (by decide)
  have called {helper : String} {arguments : List Text} (named : isName helper)
      (all : ∀ t ∈ arguments, IsExpression body False t) :
      ∃ h xs, IsHelper h ∧ (∀ t ∈ xs, IsExpression body False t) ∧ apply helper arguments = apply h xs ++ [] :=
    ⟨helper, arguments, ⟨named, Text.noSurrogate_ofString _⟩, all, (List.append_nil _).symm⟩
  cases call with
  | constant code => exact Or.inl wellFormed
  | lookup source key =>
    refine Or.inr ⟨_, _, source.isHelper, ?_, (List.append_nil _).symm⟩
    simp only [List.forall_mem_cons]
    exact ⟨.fixed (by cases source <;> decide), .literal (pieces key (by simp [Call.pieces])), by simp⟩
  | typed accessor key type chain =>
    refine Or.inr ⟨_, _, accessor.isHelper, ?_, rfl⟩
    simp only [List.cons_append, List.forall_mem_cons, List.forall_mem_append]
    refine ⟨.fixed (by cases accessor <;> decide), .optional fun value present => ?_,
      .ofType wellFormed.1 (pieces type (by simp [Call.pieces])), by simp⟩
    exact pieces value (by simp_all [Call.pieces])
  | date command pattern =>
    refine Or.inr (called (by decide) ?_)
    simp only [List.forall_mem_cons]
    refine ⟨exchange, .literal (pieces command (by simp [Call.pieces])), .optional fun value present => ?_⟩
    exact pieces value (by simp_all [Call.pieces])
  | random first second =>
    have integer : IsExpression body False first := .integer wellFormed.1 (pieces first (by simp [Call.pieces]))
    refine Or.inr ?_
    cases second with
    | none =>
      refine called (by decide) ?_
      simp only [List.forall_mem_cons]
      exact ⟨exchange, .fixed (by decide), integer, by simp⟩
    | some second =>
      refine called (by decide) ?_
      simp only [List.forall_mem_cons]
      exact ⟨exchange, integer, .integer (wellFormed.2 second rfl) (pieces second (by simp [Call.pieces])), by simp⟩
  | properties key fallback =>
    refine Or.inr (called (by decide) ?_)
    simp only [List.forall_mem_cons]
    refine ⟨exchange, .literal (pieces key (by simp [Call.pieces])), .optional fun value present => ?_⟩
    exact pieces value (by simp_all [Call.pieces])
  | staticField type field =>
    refine Or.inr (called (by decide) ?_)
    simp only [List.forall_mem_cons]
    exact ⟨exchange, .ofType wellFormed (pieces type (by simp [Call.pieces])),
      .literal (pieces field (by simp [Call.pieces])), by simp⟩
  | empty kind =>
    refine Or.inr (called (by decide) ?_)
    simp only [List.forall_mem_cons]
    exact ⟨exchange, .literal (pieces kind (by simp [Call.pieces])), by simp⟩

theorem functionCode_ok {body code : Text} (compiled : functionCode body = .ok code) :
    ∃ call, call? (Text.strip body) = some call ∧ code = call.code := by
  unfold functionCode at compiled
  dsimp only at compiled
  split at compiled
  · cases compiled
  · rename_i call read
    split at compiled
    · cases compiled
    · cases compiled
      exact ⟨call, read, rfl⟩

/-- The body's call carries a chain: it is a typed accessor with text behind the parenthesis. -/
def carriesChain (body : Text) : Bool :=
  match call? (Text.strip body) with
  | some (.typed _ _ _ chain) => !chain.isEmpty
  | _ => false

theorem carriesChain_of_chain {body : Text} {call : Call} (read : call? (Text.strip body) = some call)
    (chained : call.chain ≠ []) : carriesChain body := by
  cases call with
  | typed accessor key type chain => simpa [carriesChain, read, Call.chain] using chained
  | _ => exact absurd rfl chained

/-- The code of a function is an expression, with a chain if the body carries one. -/
theorem functionCode_isExpression {body code : Text} (compiled : functionCode body = .ok code) :
    IsExpression body (carriesChain body) code := by
  obtain ⟨call, read, rfl⟩ := functionCode_ok compiled
  have source := call?_isReadFrom read
  have inside := Text.strip_subset body
  obtain known | ⟨helper, arguments, named, all, same⟩ := Call.code_cases source
  · exact .fixed (List.mem_append_right _ known)
  have applied : IsExpression body (carriesChain body) (apply helper arguments) :=
    .call named fun t member => (all t member).mono inside False.elim
  rw [same]
  by_cases none : call.chain = []
  · rwa [none, List.append_nil]
  · cases call with
    | typed accessor key type chain =>
      have piece : chain ⊆ Text.strip body := source.pieces chain (by simp [Call.pieces])
      exact .chain (carriesChain_of_chain read none) applied source.wellFormed.2 (List.Subset.trans piece inside)
    | _ => exact absurd rfl none

end RouteScript.Script
