import RouteScript.Proofs.Java.TreeWalk

/-!
# Constant strings

An expression has a constant text exactly when it is put together from string literals by sums and parentheses. The
text is then that of its literals, one after another (`constantText_eq_some_iff`). In terms of a walk through the
expression: it comes to nothing else, and to the literals in this order (`constantText_eq_some_iff_isConstant`).
-/

namespace RouteScript.Java.Tree

/-- The expression is put together from these string literals, in this order. -/
inductive MadeOf : Tree → List Text → Prop where
  | literal (source : Text) : MadeOf (.literal source) [source]
  | grouped {inner : Tree} {sources : List Text} (inside : MadeOf inner sources) : MadeOf (.grouped inner) sources
  | sum {left right : Tree} {first second : List Text} (before : MadeOf left first) (after : MadeOf right second) :
      MadeOf (.sum left right) (first ++ second)

theorem MadeOf.constantText {t : Tree} {sources : List Text} (made : t.MadeOf sources) :
    t.constantText = some (sources.flatMap literalValue) := by
  induction made with
  | literal source => simp [Tree.constantText]
  | grouped _ ih => exact ih
  | sum _ _ first second => simp [Tree.constantText, first, second, List.flatMap_append]

theorem constantText_eq_some_iff {t : Tree} {text : Text} :
    t.constantText = some text ↔ ∃ sources, t.MadeOf sources ∧ text = sources.flatMap literalValue := by
  constructor
  · intro constant
    fun_induction Tree.constantText t generalizing text with
    | case1 source =>
      cases constant
      exact ⟨[source], .literal source, by simp⟩
    | case2 inner ih =>
      obtain ⟨sources, made, same⟩ := ih constant
      exact ⟨sources, .grouped made, same⟩
    | case3 left right first second =>
      obtain ⟨a, before, constant⟩ := Option.bind_eq_some_iff.mp constant
      obtain ⟨b, after, same⟩ := Option.bind_eq_some_iff.mp constant
      cases same
      obtain ⟨sources, made, rfl⟩ := first before
      obtain ⟨sources', made', rfl⟩ := second after
      exact ⟨sources ++ sources', .sum made made', by rw [List.flatMap_append]⟩
    | case4 => cases constant
  · rintro ⟨sources, made, rfl⟩
    exact made.constantText

/-! ### Walks -/

def isStringNode : Tree → Bool
  | .literal _ | .grouped _ | .sum _ _ => true
  | .call _ _ _ _ | .other _ => false

def source? : Tree → Option Text
  | .literal source => some source
  | _ => none

/-- Everything inside is a string literal, a pair of parentheses or a sum. -/
def IsConstant (t : Tree) : Prop := ∀ v ∈ walk [⟨none, t⟩], v.tree.isStringNode

/-- The sources of the literals inside, in the order of the walk. -/
def literals (t : Tree) : List Text := (walk [⟨none, t⟩]).filterMap (·.tree.source?)

theorem walk_grouped (inner : Tree) : walk [⟨none, .grouped inner⟩] = ⟨none, .grouped inner⟩ :: walk [⟨none, inner⟩] := by
  rw [walk]
  rfl

theorem walk_sum (left right : Tree) :
    walk [⟨none, .sum left right⟩] = ⟨none, .sum left right⟩ :: (walk [⟨none, left⟩] ++ walk [⟨none, right⟩]) := by
  rw [walk, ← walk_append]
  rfl

theorem isConstant_literal (source : Text) : (literal source).IsConstant := by
  simp [IsConstant, walk, children, isStringNode]

theorem literals_literal (source : Text) : (literal source).literals = [source] := by
  simp [literals, walk, children, source?]

theorem isConstant_grouped {inner : Tree} : (grouped inner).IsConstant ↔ inner.IsConstant := by
  simp [IsConstant, walk_grouped, isStringNode]

theorem isConstant_sum {left right : Tree} : (sum left right).IsConstant ↔ left.IsConstant ∧ right.IsConstant := by
  simp [IsConstant, walk_sum, isStringNode, or_imp, forall_and]

theorem literals_grouped (inner : Tree) : (grouped inner).literals = inner.literals := by
  simp [literals, walk_grouped, source?]

theorem literals_sum (left right : Tree) : (sum left right).literals = left.literals ++ right.literals := by
  simp [literals, walk_sum, source?]

theorem MadeOf.isConstant {t : Tree} {sources : List Text} (made : t.MadeOf sources) :
    t.IsConstant ∧ t.literals = sources := by
  induction made with
  | literal source => exact ⟨isConstant_literal source, literals_literal source⟩
  | grouped _ ih =>
    rw [isConstant_grouped, literals_grouped]
    exact ih
  | sum _ _ first second =>
    rw [isConstant_sum, literals_sum, first.2, second.2]
    exact ⟨⟨first.1, second.1⟩, rfl⟩

theorem IsConstant.madeOf {t : Tree} (constant : t.IsConstant) : t.MadeOf t.literals := by
  fun_induction Tree.constantText t with
  | case1 source =>
    rw [literals_literal]
    exact .literal source
  | case2 inner ih =>
    rw [literals_grouped]
    exact .grouped (ih (isConstant_grouped.mp constant))
  | case3 left right first second =>
    rw [literals_sum]
    exact .sum (first (isConstant_sum.mp constant).1) (second (isConstant_sum.mp constant).2)
  | case4 t noLiteral noGroup noSum =>
    have top := constant ⟨none, t⟩ (by rw [walk]; exact List.mem_cons_self)
    cases t with
    | literal source => exact absurd rfl (noLiteral source)
    | grouped inner => exact absurd rfl (noGroup inner)
    | sum left right => exact absurd rfl (noSum left right)
    | call | other => cases top

/-- Whether there is a text, and which one, depends on what a walk through the expression comes to. -/
theorem constantText_eq_some_iff_isConstant {t : Tree} {text : Text} :
    t.constantText = some text ↔ t.IsConstant ∧ text = t.literals.flatMap literalValue := by
  rw [constantText_eq_some_iff]
  constructor
  · rintro ⟨sources, made, rfl⟩
    obtain ⟨constant, same⟩ := made.isConstant
    exact ⟨constant, by rw [same]⟩
  · rintro ⟨constant, rfl⟩
    exact ⟨t.literals, constant.madeOf, rfl⟩

theorem constantText_eq_none_iff {t : Tree} : t.constantText = none ↔ ¬t.IsConstant := by
  constructor
  · intro none constant
    cases none.symm.trans constant.madeOf.constantText
  · intro other
    rw [Option.eq_none_iff_forall_ne_some]
    intro text some
    exact other (constantText_eq_some_iff_isConstant.mp some).1

end RouteScript.Java.Tree
