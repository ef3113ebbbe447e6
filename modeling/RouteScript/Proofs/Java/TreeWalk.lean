import RouteScript.Java.Tree

/-!
# Walking through Java trees

A place in a tree is a list of numbers: those of the children that lead from the top to a tree inside. Places in
lexicographic order are places in preorder, where a tree comes before those inside it, and these come before the next
tree beside it. A walk with a stack comes to the tree of every place, to each once and in this order (`walk_isPreorder`).
So the calls that it comes to are those of the recursion over the tree (`walk_calls`).
-/

namespace RouteScript

def PlaceBefore (p q : List Nat) : Prop := List.Lex (fun i j => i < j) p q

theorem PlaceBefore.not_after {p q : List Nat} (before : PlaceBefore p q) : ¬PlaceBefore q p :=
  List.lex_asymm (fun less => Nat.lt_asymm less) before

theorem PlaceBefore.ne {p q : List Nat} (before : PlaceBefore p q) : p ≠ q := by
  rintro rfl
  exact before.not_after before

/-- What is made from some members of an ordered list is ordered when it keeps the order. -/
theorem pairwise_filterMap_map {α β γ : Type} {f : α → Option β} {g : α → β → γ} {S : α → α → Prop} {R : γ → γ → Prop}
    {xs : List α} (ordered : xs.Pairwise S) (keeps : ∀ x y b b', S x y → R (g x b) (g y b')) :
    (xs.filterMap fun x => (f x).map (g x)).Pairwise R := by
  refine List.pairwise_filterMap.mpr (ordered.imp ?_)
  intro x y before a made a' made'
  obtain ⟨b, _, rfl⟩ := Option.map_eq_some_iff.mp made
  obtain ⟨b', _, rfl⟩ := Option.map_eq_some_iff.mp made'
  exact keeps x y b b' before

namespace Java

/-! ### Preorder -/

/-- What stands at a place. -/
def Visit.at? : Visit → List Nat → Option Visit
  | v, [] => some v
  | v, i :: place => v.tree.children[i]?.bind fun child => child.at? place

/-- The visits are those of all places, each once, in the order of the places. -/
def IsPreorder (v : Visit) (visits : List Visit) : Prop :=
  ∃ placed : List (List Nat × Visit), placed.map Prod.snd = visits ∧
    placed.Pairwise (fun x y => PlaceBefore x.1 y.1) ∧ ∀ place w, (place, w) ∈ placed ↔ v.at? place = some w

/-- The trees in trees that stand side by side, numbered from `i` on, with their places. -/
def placed (i : Nat) : List Visit → List (List Nat × Visit)
  | [] => []
  | v :: rest => ([i], v) :: ((placed 0 v.tree.children).map (fun x => (i :: x.1, x.2)) ++ placed (i + 1) rest)
termination_by vs => stackSize vs
decreasing_by
  all_goals
    rw [stackSize, v.tree.size_eq]
    omega

theorem walk_append (s t : List Visit) : walk (s ++ t) = walk s ++ walk t := by
  fun_induction walk s with
  | case1 => rfl
  | case2 v stack ih => rw [List.cons_append, walk, ← List.append_assoc, ih, List.cons_append]

theorem map_snd_placed (i : Nat) (vs : List Visit) : (placed i vs).map Prod.snd = walk vs := by
  fun_induction placed i vs with
  | case1 => rw [walk]; rfl
  | case2 i v rest inside beside =>
    rw [walk, walk_append, ← inside, ← beside, List.map_cons, List.map_append, List.map_map]
    rfl

theorem mem_placed {i : Nat} {vs : List Visit} {place : List Nat} {w : Visit} :
    (place, w) ∈ placed i vs ↔
      ∃ j child below, vs[j]? = some child ∧ place = (i + j) :: below ∧ child.at? below = some w := by
  fun_induction placed i vs generalizing place with
  | case1 => simp
  | case2 i v rest inside beside =>
    rw [List.mem_cons, List.mem_append, beside, List.mem_map]
    constructor
    · rintro (here | ⟨⟨place', w'⟩, member, same⟩ | ⟨j, child, below, present, rfl, found⟩)
      · cases here
        exact ⟨0, _, [], rfl, rfl, rfl⟩
      · cases same
        obtain ⟨j, child, below, present, rfl, found⟩ := inside.mp member
        refine ⟨0, v, (0 + j) :: below, rfl, rfl, ?_⟩
        rw [Visit.at?, Nat.zero_add, present]
        exact found
      · exact ⟨j + 1, child, below, present, by rw [Nat.add_assoc, Nat.add_comm 1 j], found⟩
    · rintro ⟨j, child, below, present, rfl, found⟩
      cases j with
      | zero =>
        cases present
        cases below with
        | nil =>
          cases found
          exact Or.inl rfl
        | cons k below =>
          obtain ⟨child, present, found⟩ := Option.bind_eq_some_iff.mp found
          exact Or.inr (Or.inl ⟨(k :: below, w), inside.mpr ⟨k, child, below, present, by rw [Nat.zero_add], found⟩, rfl⟩)
      | succ j => exact Or.inr (Or.inr ⟨j, child, below, present, by rw [Nat.add_assoc, Nat.add_comm 1 j], found⟩)

theorem placed_increasing (i : Nat) (vs : List Visit) : (placed i vs).Pairwise fun x y => PlaceBefore x.1 y.1 := by
  fun_induction placed i vs with
  | case1 => exact List.Pairwise.nil
  | case2 i v rest inside beside =>
    refine List.pairwise_cons.mpr ⟨?_, List.pairwise_append.mpr ⟨?_, beside, ?_⟩⟩
    · rintro ⟨place, w⟩ member
      rcases List.mem_append.mp member with below | later
      · obtain ⟨⟨place', w'⟩, member', same⟩ := List.mem_map.mp below
        cases same
        obtain ⟨j, _, below, _, rfl, _⟩ := mem_placed.mp member'
        exact List.cons_lex_cons_iff.mpr (Or.inr ⟨rfl, List.Lex.nil⟩)
      · obtain ⟨j, _, below, _, rfl, _⟩ := mem_placed.mp later
        exact List.cons_lex_cons_iff.mpr (Or.inl (by omega))
    · refine List.pairwise_map.mpr (inside.imp ?_)
      exact fun less => List.cons_lex_cons_iff.mpr (Or.inr ⟨rfl, less⟩)
    · rintro x first ⟨place, w⟩ later
      obtain ⟨_, _, rfl⟩ := List.mem_map.mp first
      obtain ⟨j, _, below, _, rfl, _⟩ := mem_placed.mp later
      exact List.cons_lex_cons_iff.mpr (Or.inl (by omega))

/-- A walk comes to everything in a tree, to each once and in preorder. -/
theorem walk_isPreorder (v : Visit) : IsPreorder v (walk [v]) := by
  refine ⟨([], v) :: placed 0 v.tree.children, ?_, ?_, ?_⟩
  · rw [walk, List.append_nil, List.map_cons, map_snd_placed]
  · refine List.pairwise_cons.mpr ⟨?_, placed_increasing 0 _⟩
    rintro ⟨place, w⟩ member
    obtain ⟨j, _, below, _, rfl, _⟩ := mem_placed.mp member
    exact List.Lex.nil
  · intro place w
    rw [List.mem_cons, mem_placed]
    cases place with
    | nil => simp [Visit.at?, eq_comm]
    | cons k place =>
      rw [Visit.at?, Option.bind_eq_some_iff]
      constructor
      · rintro (impossible | ⟨j, child, below, present, same, found⟩)
        · cases impossible
        · rw [Nat.zero_add] at same
          cases same
          exact ⟨child, present, found⟩
      · rintro ⟨child, present, found⟩
        exact Or.inr ⟨k, child, place, present, by rw [Nat.zero_add], found⟩

/-! ### Calls -/

mutual

/-- The calls in a tree, each before those inside it. -/
def Tree.calls (argumentOf : Option Text) : Tree → List Call
  | .literal _ => []
  | .grouped inner => inner.calls none
  | .sum left right => left.calls none ++ right.calls none
  | .call receiver name offset arguments =>
    ⟨receiver, name, offset, arguments, argumentOf⟩ ::
      (receiverCalls receiver ++ callsOf (some name) arguments)
  | .other parts => callsOf none parts

def receiverCalls : Option Tree → List Call
  | none => []
  | some t => t.calls none

def callsOf (argumentOf : Option Text) : List Tree → List Call
  | [] => []
  | t :: ts => t.calls argumentOf ++ callsOf argumentOf ts

end

theorem callsOf_eq (argumentOf : Option Text) (ts : List Tree) :
    callsOf argumentOf ts = (ts.map (⟨argumentOf, ·⟩ : Tree → Visit)).flatMap fun v => v.tree.calls v.argumentOf := by
  induction ts with
  | nil => rfl
  | cons t ts ih => rw [callsOf, ih, List.map_cons, List.flatMap_cons]

theorem calls_eq (v : Visit) :
    v.tree.calls v.argumentOf = v.call?.toList ++ v.tree.children.flatMap fun w => w.tree.calls w.argumentOf := by
  obtain ⟨argumentOf, tree⟩ := v
  cases tree with
  | literal source => rfl
  | grouped inner => simp [Tree.calls, Tree.children, Visit.call?]
  | sum left right => simp [Tree.calls, Tree.children, Visit.call?]
  | call receiver name offset arguments =>
    cases receiver <;> simp [Tree.calls, receiverCalls, Tree.children, Visit.call?, callsOf_eq]
  | other parts => simp [Tree.calls, Tree.children, Visit.call?, callsOf_eq]

/-- The calls that a walk comes to are those in the trees on the stack. -/
theorem walk_calls (vs : List Visit) : (walk vs).filterMap Visit.call? = vs.flatMap fun v => v.tree.calls v.argumentOf := by
  fun_induction walk vs with
  | case1 => rfl
  | case2 v stack ih =>
    rw [List.filterMap_cons, ih, List.flatMap_append, List.flatMap_cons, calls_eq v, List.append_assoc]
    cases v.call? <;> rfl

end Java

end RouteScript
