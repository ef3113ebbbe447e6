import RouteScript.Java.Expression

/-!
# Constant strings and operators

Operands are joined by the ranks of the operators between them, and those that bind weaker wait on a stack. The text of the
joined expression does not depend on the ranks: it is that of the operands in their order (`constantText_joinOperands`).
-/

namespace RouteScript.Java

/-- The text of an operator between texts: a sum has one, other operators have none. -/
def Operator.text (op : Operator) (left right : Option Text) : Option Text :=
  if op.isSum then do return (← left) ++ (← right) else none

theorem Operator.constantText_tree (op : Operator) (left right : Tree) :
    (op.tree left right).constantText = op.text left.constantText right.constantText := by
  unfold Operator.tree Operator.text
  split <;> rfl

theorem Operator.text_of_not_isSum {op : Operator} (other : op.isSum = false) (left right : Option Text) :
    op.text left right = none := by
  simp [Operator.text, other]

theorem Operator.text_none (op : Operator) (left : Option Text) : op.text left none = none := by
  unfold Operator.text
  cases left <;> simp

theorem Operator.text_of_isSum {op : Operator} (isSum : op.isSum = true) (left right : Text) :
    op.text (some left) (some right) = some (left ++ right) := by
  simp [Operator.text, isSum]

/-- How operands are grouped does not matter to their text. -/
theorem Operator.text_assoc (op op' : Operator) (a b c : Option Text) :
    op.text a (op'.text b c) = op'.text (op.text a b) c := by
  unfold Operator.text
  cases op.isSum <;> cases op'.isSum <;> cases a <;> cases b <;> cases c <;> simp

/-- The text of pending operands and the last one. -/
def pendingText : List (Tree × Operator) → Option Text → Option Text
  | [], right => right
  | (left, op) :: below, right => pendingText below (op.text left.constantText right)

theorem pendingText_text (op : Operator) (pending : List (Tree × Operator)) (left right : Option Text) :
    pendingText pending (op.text left right) = op.text (pendingText pending left) right := by
  induction pending generalizing left with
  | nil => rfl
  | cons x below ih => rw [pendingText, Operator.text_assoc, ih, pendingText]

theorem pendingText_joinPending (rank : Nat) (pending : List (Tree × Operator)) (right : Tree) :
    pendingText (joinPending rank pending right).1 (joinPending rank pending right).2.constantText =
      pendingText pending right.constantText := by
  fun_induction joinPending rank pending right with
  | case1 right left op below binds ih => rw [ih, pendingText, Operator.constantText_tree]
  | case2 => rfl
  | case3 => rfl

theorem joinPending_zero (pending : List (Tree × Operator)) (right : Tree) : (joinPending 0 pending right).1 = [] := by
  fun_induction joinPending 0 pending right with
  | case1 right left op below binds ih => exact ih
  | case2 right left op below loose => exact absurd (Nat.zero_le _) loose
  | case3 => rfl

/-- The text of operands in a row, whatever the ranks of their operators are. -/
def rowText (first : Option Text) (row : List (Operator × Tree)) : Option Text :=
  row.foldl (fun text x => x.1.text text x.2.constantText) first

theorem rowText_cons (text : Option Text) (x : Operator × Tree) (row : List (Operator × Tree)) :
    rowText text (x :: row) = rowText (x.1.text text x.2.constantText) row := rfl

theorem rowText_none (row : List (Operator × Tree)) : rowText none row = none := by
  induction row with
  | nil => rfl
  | cons x row ih =>
    have lost : x.1.text none x.2.constantText = none := by
      unfold Operator.text
      split <;> rfl
    rw [rowText_cons, lost, ih]

theorem constantText_joinOperands (first : Tree) (row : List (Operator × Tree)) :
    (joinOperands first row).constantText = rowText first.constantText row := by
  -- The text of the stack with the last operand on it is that of the row so far, and joining on the stack keeps it.
  have joined (row : List (Operator × Tree)) : ∀ (pending : List (Tree × Operator)) (right : Tree),
      let state := row.foldl (fun (state : List (Tree × Operator) × Tree) (x : Operator × Tree) =>
        (((joinPending x.1.rank state.1 state.2).2, x.1) :: (joinPending x.1.rank state.1 state.2).1, x.2)) (pending, right)
      pendingText state.1 state.2.constantText = rowText (pendingText pending right.constantText) row := by
    induction row with
    | nil => intro pending right; rfl
    | cons x row ih =>
      intro pending right
      dsimp only
      rw [List.foldl_cons]
      refine (ih _ x.2).trans ?_
      rw [pendingText, pendingText_text, pendingText_joinPending]
      rfl
  have whole := joined row [] first
  dsimp only at whole
  rw [← pendingText_joinPending 0, joinPending_zero] at whole
  exact whole

end RouteScript.Java
