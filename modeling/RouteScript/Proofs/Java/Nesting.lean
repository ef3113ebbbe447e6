import RouteScript.Java.Literal
import RouteScript.Proofs.Text.Parts

/-!
# Literals and parentheses in Java code

A scan of Java code keeps track of string literals and counts the parentheses that are open outside
them. Code is contained when it closes what it opens and no delimiter stands in it outside literals.
It is an operand when besides no operator stands in it outside parentheses. A literal is an operand
whatever its value (`stringLiteral_isOperand`), and so is contained code in parentheses
(`isOperand_of_parentheses`).
-/

namespace RouteScript.Java

/-- Where a scan stands: in code, in a literal, or behind a backslash in a literal. -/
inductive Place where
  | code
  | literal
  | escape
  deriving DecidableEq, Repr

/-- The state of a scan: its place, and the number of parentheses that are open outside literals. -/
structure Nesting where
  place : Place
  depth : Int
  deriving DecidableEq, Repr

namespace Nesting

def start : Nesting := ⟨.code, 0⟩

def step (n : Nesting) (c : CodePoint) : Nesting :=
  match n.place with
  | .escape => { n with place := .literal }
  | .literal =>
    if c = .char '\\' then { n with place := .escape }
    else if c = .char '"' then { n with place := .code }
    else n
  | .code =>
    if c = .char '"' then { n with place := .literal }
    else if c = .char '(' then { n with depth := n.depth + 1 }
    else if c = .char ')' then { n with depth := n.depth - 1 }
    else n

def after (n : Nesting) (t : Text) : Nesting := t.foldl step n

/-- The code points of a text, each with the state in which it is read. -/
def trace (n : Nesting) : Text → List (Nesting × CodePoint)
  | [] => []
  | c :: t => (n, c) :: trace (n.step c) t

/-- The same place behind `k` more open parentheses. -/
def deeper (k : Int) (n : Nesting) : Nesting := { n with depth := n.depth + k }

theorem after_append (n : Nesting) (s t : Text) : n.after (s ++ t) = (n.after s).after t :=
  List.foldl_append

theorem trace_append (n : Nesting) (s t : Text) :
    n.trace (s ++ t) = n.trace s ++ (n.after s).trace t := by
  induction s generalizing n with
  | nil => rfl
  | cons c s ih => exact congrArg ((n, c) :: ·) (ih (n.step c))

/-- Each code point of a text is read in the state after those before it. -/
theorem mem_trace {n m : Nesting} {c : CodePoint} {t : Text} :
    (m, c) ∈ n.trace t ↔ ∃ front back, t = front ++ c :: back ∧ m = n.after front := by
  constructor
  · intro member
    induction t generalizing n with
    | nil => cases member
    | cons x t ih =>
      rcases List.mem_cons.mp member with here | later
      · cases here
        exact ⟨[], t, rfl, rfl⟩
      · obtain ⟨front, back, rfl, rfl⟩ := ih later
        exact ⟨x :: front, back, rfl, rfl⟩
  · rintro ⟨front, back, rfl, rfl⟩
    rw [trace_append]
    exact List.mem_append_right _ List.mem_cons_self

theorem step_deeper (k : Int) (n : Nesting) (c : CodePoint) :
    (n.deeper k).step c = (n.step c).deeper k := by
  obtain ⟨place, depth⟩ := n
  cases place with
  | escape => rfl
  | literal =>
    simp only [step, deeper]
    repeat' split
    all_goals rfl
  | code =>
    simp only [step, deeper]
    repeat' split
    all_goals simp only [mk.injEq, true_and]
    all_goals omega

theorem after_deeper (k : Int) (n : Nesting) (t : Text) :
    (n.deeper k).after t = (n.after t).deeper k := by
  induction t generalizing n with
  | nil => rfl
  | cons c t ih =>
    change ((n.deeper k).step c).after t = ((n.step c).after t).deeper k
    rw [step_deeper, ih]

theorem trace_deeper (k : Int) (n : Nesting) (t : Text) :
    (n.deeper k).trace t = (n.trace t).map fun x => (x.1.deeper k, x.2) := by
  induction t generalizing n with
  | nil => rfl
  | cons c t ih =>
    simp only [trace, List.map_cons, step_deeper, ih]

end Nesting

/-- The code points that end a statement or a block, begin a block, or begin or end a comment. -/
def delimiters : List CodePoint := [.char ';', .char '{', .char '}', .char '/']

/-- The code points of the operators that join pieces of code. -/
def joints : List CodePoint := [.char '&', .char '|', .char '+']

/-- A scan of the code ends as it began, never closes a parenthesis that the code did not open, and
meets no delimiter outside literals. -/
def IsContained (t : Text) : Prop :=
  Nesting.start.after t = .start ∧
  ∀ x ∈ Nesting.start.trace t, 0 ≤ x.1.depth ∧ (x.1.place = .code → x.2 ∉ delimiters)

/-- Contained code in which no operator stands outside literals and parentheses. -/
def IsOperand (t : Text) : Prop :=
  IsContained t ∧ ∀ x ∈ Nesting.start.trace t, x.1 = .start → x.2 ∉ joints

instance (t : Text) : Decidable (IsContained t) := inferInstanceAs (Decidable (_ ∧ _))

instance (t : Text) : Decidable (IsOperand t) := inferInstanceAs (Decidable (_ ∧ _))

theorem isContained_nil : IsContained [] := ⟨rfl, by simp [Nesting.trace]⟩

theorem IsContained.append {s t : Text} (first : IsContained s) (second : IsContained t) :
    IsContained (s ++ t) := by
  obtain ⟨closed, calm⟩ := first
  obtain ⟨closed', calm'⟩ := second
  refine ⟨by rw [Nesting.after_append, closed, closed'], ?_⟩
  rw [Nesting.trace_append, closed]
  intro x member
  rcases List.mem_append.mp member with member | member
  · exact calm x member
  · exact calm' x member

theorem IsOperand.append {s t : Text} (first : IsOperand s) (second : IsOperand t) :
    IsOperand (s ++ t) := by
  refine ⟨first.1.append second.1, ?_⟩
  rw [Nesting.trace_append, first.1.1]
  intro x member
  rcases List.mem_append.mp member with member | member
  · exact first.2 x member
  · exact second.2 x member

theorem isContained_joinWith {sep : Text} (between : IsContained sep) {ts : List Text}
    (all : ∀ t ∈ ts, IsContained t) : IsContained (Text.joinWith sep ts) := by
  induction ts with
  | nil => exact isContained_nil
  | cons t ts ih =>
    have first := all t List.mem_cons_self
    by_cases last : ts = []
    · subst last
      exact first
    · rw [Text.joinWith_cons _ _ last]
      exact (first.append between).append (ih fun u member => all u (List.mem_cons_of_mem _ member))

/-! ### Plain text -/

def brackets : List CodePoint := [.char '"', .char '(', .char ')']

def isPlain (c : CodePoint) : Bool := !(brackets ++ delimiters ++ joints).contains c

theorem step_of_isPlain {c : CodePoint} (plain : isPlain c) : Nesting.start.step c = .start := by
  simp only [isPlain, brackets, delimiters, joints, List.cons_append, List.nil_append, List.contains_cons,
    List.contains_nil, Bool.or_false, Bool.not_eq_true', Bool.or_eq_false_iff,
    beq_eq_false_iff_ne] at plain
  simp [Nesting.step, Nesting.start, plain]

theorem not_mem_of_isPlain {c : CodePoint} (plain : isPlain c) : c ∉ delimiters ∧ c ∉ joints := by
  simp only [isPlain, Bool.not_eq_true', List.contains_eq_mem, decide_eq_false_iff_not,
    List.mem_append, not_or] at plain
  exact ⟨plain.1.2, plain.2⟩

theorem isOperand_of_isPlain {t : Text} (plain : ∀ c ∈ t, isPlain c) : IsOperand t := by
  induction t with
  | nil => exact ⟨isContained_nil, by simp [Nesting.trace]⟩
  | cons c t ih =>
    have here := plain c List.mem_cons_self
    refine IsOperand.append (s := [c]) ?_ (ih fun d member => plain d (List.mem_cons_of_mem _ member))
    refine ⟨⟨step_of_isPlain here, ?_⟩, ?_⟩
    all_goals
      intro x member
      simp only [Nesting.trace, List.mem_singleton] at member
      subst x
    · exact ⟨Int.le_refl 0, fun _ => (not_mem_of_isPlain here).1⟩
    · exact fun _ => (not_mem_of_isPlain here).2

/-- A class of code points that holds none of the special ones is plain. -/
theorem isPlain_of_class {p : CodePoint → Bool}
    (excludes : ∀ c ∈ brackets ++ delimiters ++ joints, p c = false) {c : CodePoint} (holds : p c) :
    isPlain c := by
  simp only [isPlain, Bool.not_eq_true', List.contains_eq_mem, decide_eq_false_iff_not]
  intro special
  rw [excludes c special] at holds
  cases holds

/-! ### Literals -/

/-- However a code point is written in a literal, the scan stays inside it. -/
theorem escaped_stays (c : CodePoint) (d : Int) :
    Nesting.after ⟨.literal, d⟩ (escaped c) = ⟨.literal, d⟩ ∧
      ∀ x ∈ Nesting.trace ⟨.literal, d⟩ (escaped c), x.1.depth = d ∧ x.1.place ≠ .code := by
  unfold escaped
  repeat' split
  all_goals simp_all [Nesting.after, Nesting.trace, Nesting.step, Text.ofString]

theorem flatMap_escaped_stays (t : Text) (d : Int) :
    Nesting.after ⟨.literal, d⟩ (t.flatMap escaped) = ⟨.literal, d⟩ ∧
      ∀ x ∈ Nesting.trace ⟨.literal, d⟩ (t.flatMap escaped), x.1.depth = d ∧ x.1.place ≠ .code := by
  induction t with
  | nil => exact ⟨rfl, by simp [Nesting.trace]⟩
  | cons c t ih =>
    have ⟨closed, calm⟩ := escaped_stays c d
    rw [List.flatMap_cons, Nesting.after_append, Nesting.trace_append, closed]
    refine ⟨ih.1, ?_⟩
    intro x member
    rcases List.mem_append.mp member with member | member
    · exact calm x member
    · exact ih.2 x member

/-- A literal is an operand whatever its value. -/
theorem stringLiteral_isOperand (t : Text) : IsOperand (stringLiteral t) := by
  have ⟨closed, calm⟩ := flatMap_escaped_stays t 0
  have trace : Nesting.start.trace (stringLiteral t) = (Nesting.start, .char '"') ::
      (Nesting.trace ⟨.literal, 0⟩ (t.flatMap escaped) ++ [(⟨.literal, 0⟩, .char '"')]) := by
    change (Nesting.start, _) :: Nesting.trace ⟨.literal, 0⟩ (t.flatMap escaped ++ [.char '"']) = _
    rw [Nesting.trace_append, closed]
    rfl
  have ended : Nesting.start.after (stringLiteral t) = .start := by
    change Nesting.after ⟨.literal, 0⟩ (t.flatMap escaped ++ [.char '"']) = _
    rw [Nesting.after_append, closed]
    rfl
  have visible : ∀ x ∈ Nesting.start.trace (stringLiteral t),
      x.1.depth = 0 ∧ (x.1.place = .code → x.2 = .char '"') := by
    intro x member
    rw [trace] at member
    rcases List.mem_cons.mp member with rfl | member
    · exact ⟨rfl, fun _ => rfl⟩
    rcases List.mem_append.mp member with member | member
    · exact ⟨(calm x member).1, fun outside => absurd outside (calm x member).2⟩
    · obtain rfl := List.mem_singleton.mp member
      exact ⟨rfl, fun _ => rfl⟩
  refine ⟨⟨ended, ?_⟩, ?_⟩
  · intro x member
    have ⟨level, quote⟩ := visible x member
    refine ⟨Int.le_of_eq level.symm, fun outside => ?_⟩
    rw [quote outside]
    decide
  · intro x member top
    rw [(visible x member).2 (by rw [top]; rfl)]
    decide

/-! ### Parentheses -/

/-- Contained code in parentheses is an operand. -/
theorem isOperand_of_parentheses {t : Text} (inner : IsContained t) :
    IsOperand (.char '(' :: t ++ [.char ')']) := by
  obtain ⟨closed, calm⟩ := inner
  have opened : Nesting.start.step (.char '(') = Nesting.start.deeper 1 := rfl
  have trace : Nesting.start.trace (.char '(' :: t ++ [.char ')']) = (Nesting.start, .char '(') ::
      ((Nesting.start.trace t).map (fun x => (x.1.deeper 1, x.2)) ++
        [(Nesting.start.deeper 1, .char ')')]) := by
    change (Nesting.start, _) :: Nesting.trace (Nesting.start.step (.char '(')) (t ++ [.char ')']) = _
    rw [opened, Nesting.trace_append, Nesting.after_deeper, closed, Nesting.trace_deeper]
    rfl
  have ended : Nesting.start.after (.char '(' :: t ++ [.char ')']) = .start := by
    change Nesting.after (Nesting.start.step (.char '(')) (t ++ [.char ')']) = _
    rw [opened, Nesting.after_append, Nesting.after_deeper, closed]
    rfl
  refine ⟨⟨ended, ?_⟩, ?_⟩
  · intro x member
    rw [trace] at member
    rcases List.mem_cons.mp member with rfl | member
    · decide
    rcases List.mem_append.mp member with member | member
    · obtain ⟨y, present, rfl⟩ := List.mem_map.mp member
      have level := (calm y present).1
      exact ⟨by simp only [Nesting.deeper]; omega, (calm y present).2⟩
    · obtain rfl := List.mem_singleton.mp member
      decide
  · intro x member top
    rw [trace] at member
    rcases List.mem_cons.mp member with rfl | member
    · decide
    rcases List.mem_append.mp member with member | member
    · -- The inside never comes back to the top.
      obtain ⟨y, present, rfl⟩ := List.mem_map.mp member
      have level := (calm y present).1
      have zero : y.1.depth + 1 = 0 := congrArg Nesting.depth top
      omega
    · obtain rfl := List.mem_singleton.mp member
      decide

end RouteScript.Java
