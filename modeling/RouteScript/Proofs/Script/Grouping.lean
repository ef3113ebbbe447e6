import RouteScript.Script.Predicate

/-!
# Grouping tokens

`Reads` says how tokens are grouped into comparisons, with one rule for everything that the reader can meet. It is
`readComparison` and `readLink` as a relation (`parse_reads`, `Reads.parse_eq`), so what holds of every reading is shown
by induction on the rules.
-/

namespace RouteScript.Script

/-- What comes next: a comparison, with the operator in front of it, or what stands behind a comparison. -/
inductive Turn where
  | comparison (link : Option Logical)
  | behind

def BeginsNoOperator (ts : List PlacedToken) : Prop := ∀ t ∈ ts.head?, ∀ op, t.token ≠ .operator op

inductive Reads : Turn → List PlacedToken → Reading → Prop
  | nothing : Reads .behind [] ⟨[], none⟩
  | noLeft (link : Option Logical) {l : PlacedToken} (rest : List PlacedToken) (noOperand : l.operand? = none) :
      Reads (.comparison link) (l :: rest) (.stopped (.expectedOperand l.token.value) l.index)
  | missingRight (link : Option Logical) {l o : PlacedToken} {left : Operand} {op : Operator}
      (operand : l.operand? = some left) (operator : o.token = .operator op) :
      Reads (.comparison link) [l, o] (.stopped (.missingRightOperand op.spelling) o.index)
  | noRight (link : Option Logical) {l o r : PlacedToken} {left : Operand} {op : Operator} (after : List PlacedToken)
      (operand : l.operand? = some left) (operator : o.token = .operator op) (noOperand : r.operand? = none) :
      Reads (.comparison link) (l :: o :: r :: after) (.stopped (.expectedOperand r.token.value) r.index)
  | compared (link : Option Logical) {l o r : PlacedToken} {left right : Operand} {op : Operator}
      {after : List PlacedToken} {reading : Reading} (operand : l.operand? = some left)
      (operator : o.token = .operator op) (operand' : r.operand? = some right) (later : Reads .behind after reading) :
      Reads (.comparison link) (l :: o :: r :: after) (reading.push link ⟨left, some (op, right)⟩)
  | alone (link : Option Logical) {l : PlacedToken} {left : Operand} {rest : List PlacedToken} {reading : Reading}
      (operand : l.operand? = some left) (ended : BeginsNoOperator rest) (later : Reads .behind rest reading) :
      Reads (.comparison link) (l :: rest) (reading.push link ⟨left, none⟩)
  | dangling {t : PlacedToken} {op : Logical} (logical : t.token = .logical op) :
      Reads .behind [t] (.stopped (.danglingLogical op.spelling) t.index)
  | linked {t next : PlacedToken} {op : Logical} {more : List PlacedToken} {reading : Reading}
      (logical : t.token = .logical op) (later : Reads (.comparison (some op)) (next :: more) reading) :
      Reads .behind (t :: next :: more) reading
  | noLink {t : PlacedToken} (rest : List PlacedToken) (other : ∀ op, t.token ≠ .logical op) :
      Reads .behind (t :: rest) (.stopped (.expectedLogical t.token.value) t.index)

theorem beginsNoOperator_nil : BeginsNoOperator [] := by simp [BeginsNoOperator]

theorem beginsNoOperator_cons {t : PlacedToken} {ts : List PlacedToken} :
    BeginsNoOperator (t :: ts) ↔ ∀ op, t.token ≠ .operator op := by simp [BeginsNoOperator]

/-! ### The reader as a relation -/

theorem readComparison_alone (link : Option Logical) {l : PlacedToken} {left : Operand} {rest : List PlacedToken}
    (operand : l.operand? = some left) (ended : BeginsNoOperator rest) :
    readComparison link (l :: rest) = (readLink rest).push link ⟨left, none⟩ := by
  rw [readComparison, operand]
  cases rest with
  | nil => rw [readLink]
  | cons o more =>
    dsimp only
    split
    · rename_i op operator
      exact absurd operator (beginsNoOperator_cons.mp ended op)
    · rfl

theorem readLink_noLink {t : PlacedToken} (rest : List PlacedToken) (other : ∀ op, t.token ≠ .logical op) :
    readLink (t :: rest) = .stopped (.expectedLogical t.token.value) t.index := by
  rw [readLink]
  split
  · rename_i op logical
    exact absurd logical (other op)
  · rfl

def Turn.read : Turn → List PlacedToken → Reading
  | .comparison link, ts => readComparison link ts
  | .behind, ts => readLink ts

theorem Reads.eq {turn : Turn} {ts : List PlacedToken} {reading : Reading} (reads : Reads turn ts reading) :
    turn.read ts = reading := by
  induction reads with
  | nothing => rw [Turn.read, readLink]
  | noLeft link rest noOperand => rw [Turn.read, readComparison, noOperand]
  | missingRight link operand operator =>
    rw [Turn.read, readComparison]
    simp only [operand, operator]
  | noRight link after operand operator noOperand =>
    rw [Turn.read, readComparison]
    simp only [operand, operator, noOperand]
  | compared link operand operator operand' later ih =>
    rw [Turn.read, readComparison, ← ih]
    simp only [operand, operator, operand', Turn.read]
  | alone link operand ended later ih => rw [Turn.read, readComparison_alone link operand ended, ← ih, Turn.read]
  | dangling logical =>
    rw [Turn.read, readLink]
    simp only [logical]
  | linked logical later ih =>
    rw [Turn.read, readLink, ← ih]
    simp only [logical, Turn.read]
  | noLink rest other => rw [Turn.read, readLink_noLink rest other]

theorem reads :
    (∀ link ts, ts ≠ [] → Reads (.comparison link) ts (readComparison link ts)) ∧ ∀ ts, Reads .behind ts (readLink ts) := by
  apply readComparison.mutual_induct
    (fun link ts => ts ≠ [] → Reads (.comparison link) ts (readComparison link ts))
    (fun ts => Reads .behind ts (readLink ts))
  case case1 => exact fun _ empty => absurd rfl empty
  case case2 =>
    intro link l rest noOperand _
    rw [readComparison, noOperand]
    exact .noLeft link rest noOperand
  case case3 =>
    intro link l left operand _
    rw [readComparison_alone link operand beginsNoOperator_nil, readLink]
    exact .alone link operand beginsNoOperator_nil .nothing
  case case4 =>
    intro link l left operand o op operator _
    rw [readComparison]
    simp only [operand, operator]
    exact .missingRight link operand operator
  case case5 =>
    intro link l left operand o op operator r after noOperand _
    rw [readComparison]
    simp only [operand, operator, noOperand]
    exact .noRight link after operand operator noOperand
  case case6 =>
    intro link l left operand o op operator r after right operand' later _
    rw [readComparison]
    simp only [operand, operator, operand']
    exact .compared link operand operator operand' later
  case case7 =>
    intro link l left operand o more noOperator later _
    have ended : BeginsNoOperator (o :: more) := beginsNoOperator_cons.mpr noOperator
    rw [readComparison_alone link operand ended]
    exact .alone link operand ended later
  case case8 =>
    rw [readLink]
    exact .nothing
  case case9 =>
    intro t op logical
    rw [readLink]
    simp only [logical]
    exact .dangling logical
  case case10 =>
    intro t op logical next more later
    rw [readLink]
    simp only [logical]
    exact .linked logical (later (by simp))
  case case11 =>
    intro t rest other
    rw [readLink_noLink rest other]
    exact .noLink rest other

theorem parse_reads (t : PlacedToken) (ts : List PlacedToken) : Reads (.comparison none) (t :: ts) (parse (t :: ts)) :=
  reads.1 none (t :: ts) (by simp)

theorem Reads.parse_eq {t : PlacedToken} {ts : List PlacedToken} {reading : Reading}
    (reads : Reads (.comparison none) (t :: ts) reading) : parse (t :: ts) = reading := reads.eq

/-! ### Operands -/

def Token.isOperand : Token → Bool
  | .operator _ | .logical _ => false
  | _ => true

theorem operand?_of_isOperand {t : PlacedToken} (operand : t.token.isOperand) :
    t.operand? = some ⟨t.token, t.index⟩ := by
  obtain ⟨token, index, width⟩ := t
  cases token <;> first | rfl | cases operand

theorem isOperand_of_operand? {t : PlacedToken} {o : Operand} (operand : t.operand? = some o) :
    t.token.isOperand := by
  obtain ⟨token, index, width⟩ := t
  cases token <;> first | rfl | cases operand

theorem not_isOperand_of_operand? {t : PlacedToken} (noOperand : t.operand? = none) : ¬t.token.isOperand := by
  intro operand
  rw [operand?_of_isOperand operand] at noOperand
  cases noOperand

def Comparison.operands (c : Comparison) : List Operand := c.left :: (c.right.map (·.2)).toList

theorem operands_push {r : Reading} {ts us : List PlacedToken} (included : ts ⊆ us)
    (rest : ∀ x ∈ r.comparisons, ∀ o ∈ x.2.operands, ∃ t ∈ ts, t.operand? = some o) (link : Option Logical)
    {c : Comparison} (here : ∀ o ∈ c.operands, ∃ t ∈ us, t.operand? = some o) :
    ∀ x ∈ (r.push link c).comparisons, ∀ o ∈ x.2.operands, ∃ t ∈ us, t.operand? = some o := by
  intro x member o present
  rcases List.mem_cons.mp member with rfl | later
  · exact here o present
  · obtain ⟨t, found, operand⟩ := rest x later o present
    exact ⟨t, included found, operand⟩

theorem Reads.operands {turn : Turn} {ts : List PlacedToken} {reading : Reading} (reads : Reads turn ts reading) :
    ∀ x ∈ reading.comparisons, ∀ o ∈ x.2.operands, ∃ t ∈ ts, t.operand? = some o := by
  induction reads with
  | @compared link l o r left right op after reading operand operator operand' _ later =>
    refine operands_push (fun t member => ?_) later link ?_
    · exact List.mem_cons_of_mem _ (List.mem_cons_of_mem _ (List.mem_cons_of_mem _ member))
    · simp [Comparison.operands, operand, operand']
  | alone link operand _ _ later =>
    exact operands_push (List.subset_cons_self _ _) later link (by simp [Comparison.operands, operand])
  | linked logical _ later =>
    intro x member o present
    obtain ⟨t, found, operand⟩ := later x member o present
    exact ⟨t, List.mem_cons_of_mem _ found, operand⟩
  | _ => simp [Reading.stopped]

theorem parse_operands (ts : List PlacedToken) :
    ∀ x ∈ (parse ts).comparisons, ∀ o ∈ x.2.operands, ∃ t ∈ ts, t.operand? = some o := by
  cases ts with
  | nil => simp [parse, Reading.stopped]
  | cons t ts => exact (parse_reads t ts).operands

/-! ### Tokens of a reading -/

def Token.body? : Token → Option Text
  | .function body => some body
  | _ => none

def Token.link? : Token → Option Logical
  | .logical op => some op
  | _ => none

def Comparison.tokens (c : Comparison) : List Token :=
  c.left.token :: match c.right with
    | none => []
    | some (op, right) => [.operator op, right.token]

def linkedTokens (x : Option Logical × Comparison) : List Token :=
  (x.1.map Token.logical).toList ++ x.2.tokens

def Comparison.IsProper (c : Comparison) : Prop := ∀ t ∈ c.tokens, t.link? = none

theorem Token.link?_eq_none {t : Token} (other : ∀ op, t ≠ .logical op) : t.link? = none := by
  unfold Token.link?
  split
  · exact absurd rfl (other _)
  · rfl

theorem operand?_eq_some {t : PlacedToken} {o : Operand} (h : t.operand? = some o) :
    o.token = t.token ∧ t.token.link? = none := by
  unfold PlacedToken.operand? at h
  split at h
  · cases h
  · cases h
  · rename_i noOperator noLogical
    cases h
    exact ⟨rfl, Token.link?_eq_none noLogical⟩

theorem Comparison.isProper_alone {t : PlacedToken} {o : Operand} (h : t.operand? = some o) :
    (⟨o, none⟩ : Comparison).tokens = [t.token] ∧ (⟨o, none⟩ : Comparison).IsProper := by
  obtain ⟨same, noLink⟩ := operand?_eq_some h
  have alone : (⟨o, none⟩ : Comparison).tokens = [t.token] := by rw [Comparison.tokens, same]
  exact ⟨alone, by simpa [Comparison.IsProper, alone] using noLink⟩

theorem Comparison.isProper_compared {t u : PlacedToken} {o p : Operand} (h : t.operand? = some o)
    (h' : u.operand? = some p) (op : Operator) :
    (⟨o, some (op, p)⟩ : Comparison).tokens = [t.token, .operator op, u.token] ∧
      (⟨o, some (op, p)⟩ : Comparison).IsProper := by
  obtain ⟨same, noLink⟩ := operand?_eq_some h
  obtain ⟨same', noLink'⟩ := operand?_eq_some h'
  have both : (⟨o, some (op, p)⟩ : Comparison).tokens = [t.token, .operator op, u.token] := by
    simp only [Comparison.tokens, same, same']
  refine ⟨both, ?_⟩
  simp only [Comparison.IsProper, both, List.forall_mem_cons]
  exact ⟨noLink, rfl, noLink', by simp⟩

/-- A reading without a fault is of exactly these tokens. -/
def Reading.Covers (r : Reading) (ts : List Token) : Prop :=
  r.fault = none → r.comparisons.flatMap linkedTokens = ts ∧ ∀ x ∈ r.comparisons, x.2.IsProper

theorem Reading.covers_nil : Reading.Covers ⟨[], none⟩ [] := fun _ => ⟨rfl, by simp⟩

theorem Reading.covers_stopped (cause : SyntaxCause) (index : Nat) (ts : List Token) :
    (Reading.stopped cause index).Covers ts := fun sound => nomatch sound

theorem Reading.Covers.push {r : Reading} {ts : List Token} (rest : r.Covers ts) (link : Option Logical)
    {c : Comparison} (proper : c.IsProper) :
    (r.push link c).Covers ((link.map Token.logical).toList ++ (c.tokens ++ ts)) := by
  intro sound
  obtain ⟨covered, all⟩ := rest sound
  refine ⟨by rw [← covered, ← List.append_assoc]; rfl, ?_⟩
  intro x member
  rcases List.mem_cons.mp member with rfl | member
  · exact proper
  · exact all x member

def Turn.tokens : Turn → List Token
  | .comparison link => (link.map Token.logical).toList
  | .behind => []

/-- Nothing of the tokens is lost or added when they are read without a fault. -/
theorem Reads.covers {turn : Turn} {ts : List PlacedToken} {reading : Reading} (reads : Reads turn ts reading) :
    reading.Covers (turn.tokens ++ ts.map (·.token)) := by
  induction reads with
  | nothing => exact Reading.covers_nil
  | compared link operand operator operand' _ rest =>
    obtain ⟨both, proper⟩ := Comparison.isProper_compared operand operand' _
    simpa [Turn.tokens, both, operator] using rest.push link proper
  | alone link operand _ _ rest =>
    obtain ⟨alone, proper⟩ := Comparison.isProper_alone operand
    simpa [Turn.tokens, alone] using rest.push link proper
  | linked logical _ rest => simpa [Turn.tokens, logical] using rest
  | _ => exact Reading.covers_stopped _ _ _

theorem parse_covers (ts : List PlacedToken) : (parse ts).Covers (ts.map (·.token)) := by
  cases ts with
  | nil => exact Reading.covers_stopped _ _ _
  | cons t ts => exact (parse_reads t ts).covers

end RouteScript.Script
