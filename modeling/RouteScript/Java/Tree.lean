import RouteScript.Java.Literal

/-!
# Java syntax trees

A tree keeps of a Java source what matters to the scripts in it: string literals and how they are put
together, method calls with their receivers and arguments, and where all this stands. Everything else
is a node with the trees in it. `walk` goes through trees from the top, with a stack.
-/

namespace RouteScript.Java

/-- A piece of Java. The offset of a call is that of its name. -/
inductive Tree where
  | literal (source : Text)
  | grouped (inner : Tree)
  | sum (left right : Tree)
  | call (receiver : Option Tree) (name : Text) (offset : Nat) (arguments : List Tree)
  | other (parts : List Tree)
  deriving Repr, Inhabited

/-- A call, and the name of the call that it is an argument of. -/
structure Call where
  receiver : Option Tree
  name : Text
  offset : Nat
  arguments : List Tree
  argumentOf : Option Text
  deriving Repr

structure Visit where
  argumentOf : Option Text
  tree : Tree
  deriving Repr

def Tree.children : Tree → List Visit
  | .literal _ => []
  | .grouped inner => [⟨none, inner⟩]
  | .sum left right => [⟨none, left⟩, ⟨none, right⟩]
  | .call receiver name _ arguments =>
    receiver.toList.map (⟨none, ·⟩) ++ arguments.map (⟨some name, ·⟩)
  | .other parts => parts.map (⟨none, ·⟩)

mutual

def Tree.size : Tree → Nat
  | .literal _ => 1
  | .grouped inner => inner.size + 1
  | .sum left right => left.size + right.size + 1
  | .call receiver _ _ arguments => receiverSize receiver + totalSize arguments + 1
  | .other parts => totalSize parts + 1

def receiverSize : Option Tree → Nat
  | none => 0
  | some t => t.size

def totalSize : List Tree → Nat
  | [] => 0
  | t :: ts => t.size + totalSize ts

end

def stackSize : List Visit → Nat
  | [] => 0
  | v :: stack => v.tree.size + stackSize stack

theorem stackSize_append (s t : List Visit) : stackSize (s ++ t) = stackSize s + stackSize t := by
  induction s with
  | nil => simp [stackSize]
  | cons v s ih => rw [List.cons_append, stackSize, stackSize, ih, Nat.add_assoc]

theorem stackSize_map (argumentOf : Option Text) (ts : List Tree) :
    stackSize (ts.map (⟨argumentOf, ·⟩)) = totalSize ts := by
  induction ts with
  | nil => rfl
  | cons t ts ih => rw [List.map_cons, stackSize, ih, totalSize]

theorem Tree.size_eq (t : Tree) : t.size = stackSize t.children + 1 := by
  cases t with
  | literal source => rfl
  | grouped inner => simp [children, stackSize, size]
  | sum left right => simp [children, stackSize, size]
  | call receiver name offset arguments =>
    cases receiver <;> simp [children, stackSize_map, stackSize, size, receiverSize]
  | other parts => simp [children, stackSize_map, size]

/-- Walks through the trees on a stack: the one on top, then what is inside it, then the others. What
is directly inside a tree takes its place on the stack. -/
def walk : List Visit → List Visit
  | [] => []
  | v :: stack => v :: walk (v.tree.children ++ stack)
termination_by stack => stackSize stack
decreasing_by
  rw [stackSize_append, stackSize, v.tree.size_eq]
  omega

def Visit.call? (v : Visit) : Option Call :=
  match v.tree with
  | .call receiver name offset arguments => some ⟨receiver, name, offset, arguments, v.argumentOf⟩
  | _ => none

def Tree.constantText : Tree → Option Text
  | .literal source => some (literalValue source)
  | .grouped inner => inner.constantText
  | .sum left right => do return (← left.constantText) ++ (← right.constantText)
  | _ => none

inductive TypeKind where
  | classType
  | interfaceType
  | enumType
  | recordType
  | markerType
  deriving DecidableEq, Repr

structure TypeDeclaration where
  kind : TypeKind
  name : Text
  parts : List Tree
  deriving Repr

end RouteScript.Java
