import RouteScript.Proofs.Script.Grouping
import RouteScript.Proofs.Script.TokenSpans

/-!
# Other blanks between tokens

The places of the tokens matter only to the places of faults (`readingCode_unplaced`). So a predicate with other
blanks between its tokens has the same tokens and the same code (`tokens_respace`).
-/

namespace RouteScript

/-! ### Forgetting places -/

def SyntaxFault.unplaced (f : SyntaxFault) : SyntaxFault := { f with index := 0 }

def ScriptFault.unplaced : ScriptFault → ScriptFault
  | .malformed fault => .malformed fault.unplaced
  | .oversizedInteger digits => .oversizedInteger digits

namespace Script

def PlacedToken.unplaced (p : PlacedToken) : PlacedToken := ⟨p.token, 0, 0⟩

def Operand.unplaced (o : Operand) : Operand := ⟨o.token, 0⟩

def Comparison.unplaced (c : Comparison) : Comparison := ⟨c.left.unplaced, c.right.map (Prod.map id Operand.unplaced)⟩

def Reading.unplaced (r : Reading) : Reading :=
  ⟨r.comparisons.map (Prod.map id Comparison.unplaced), r.fault.map SyntaxFault.unplaced⟩

theorem operand?_unplaced {p : PlacedToken} {o : Option Operand} (operand : p.operand? = o) :
    p.unplaced.operand? = o.map Operand.unplaced := by
  obtain ⟨token, index, width⟩ := p
  rw [← operand]
  cases token <;> rfl

theorem BeginsNoOperator.unplaced {ts : List PlacedToken} (ended : BeginsNoOperator ts) :
    BeginsNoOperator (ts.map PlacedToken.unplaced) := by
  cases ts with
  | nil => exact beginsNoOperator_nil
  | cons t ts =>
    have other := beginsNoOperator_cons.mp ended
    exact beginsNoOperator_cons.mpr other

theorem Reads.unplaced {turn : Turn} {ts : List PlacedToken} {reading : Reading} (reads : Reads turn ts reading) :
    Reads turn (ts.map PlacedToken.unplaced) reading.unplaced := by
  induction reads with
  | nothing => exact .nothing
  | noLeft link rest noOperand => exact .noLeft link _ (operand?_unplaced noOperand)
  | missingRight link operand operator => exact .missingRight link (operand?_unplaced operand) operator
  | noRight link after operand operator noOperand =>
    exact .noRight link _ (operand?_unplaced operand) operator (operand?_unplaced noOperand)
  | @compared link l o r left right op after reading operand operator operand' _ later =>
    exact .compared (o := o.unplaced) link (operand?_unplaced operand) operator (operand?_unplaced operand') later
  | alone link operand ended _ later => exact .alone link (operand?_unplaced operand) ended.unplaced later
  | dangling logical => exact .dangling logical
  | linked logical _ later => exact .linked logical later
  | noLink rest other => exact .noLink _ other

theorem parse_unplaced (ts : List PlacedToken) : parse (ts.map PlacedToken.unplaced) = (parse ts).unplaced := by
  cases ts with
  | nil => rfl
  | cons t ts => exact (parse_reads t ts).unplaced.parse_eq

/-! ### Code without places -/

theorem Operand.code_unplaced (o : Operand) : o.unplaced.code = o.code.mapError ScriptFault.unplaced := by
  obtain ⟨token, index⟩ := o
  cases token with
  | function body =>
    unfold Operand.code
    simp only [Operand.unplaced]
    cases functionCode body <;> rfl
  | number numeral =>
    show numberCode numeral = (numberCode numeral).mapError _
    unfold numberCode
    repeat' split
    all_goals rfl
  | _ => rfl

theorem Operand.typeCode_unplaced (o : Operand) : o.unplaced.typeCode = o.typeCode.mapError ScriptFault.unplaced := by
  obtain ⟨token, index⟩ := o
  unfold Operand.typeCode
  simp only [Operand.unplaced]
  cases token with
  | word name | quoted name =>
    dsimp only
    split <;> rfl
  | _ => rfl

theorem Comparison.code_unplaced (c : Comparison) : c.unplaced.code = c.code.mapError ScriptFault.unplaced := by
  obtain ⟨left, right⟩ := c
  have left' := Operand.code_unplaced left
  cases right with
  | none =>
    obtain ⟨token, index⟩ := left
    cases token with
    | boolean value => rfl
    | _ =>
      show (Operand.code (Operand.unplaced _) >>= _) = Except.mapError _ (_ >>= _)
      rw [Fallible.mapError_bind, left']
      rfl
  | some pair =>
    obtain ⟨op, right⟩ := pair
    have right' := Operand.code_unplaced right
    have type' := Operand.typeCode_unplaced right
    unfold Comparison.code
    simp only [Comparison.unplaced, Option.map_some, Prod.map_apply, id, left']
    rw [Fallible.mapError_bind]
    congr 1
    funext l
    split
    · rw [Fallible.mapError_bind, type']
      rfl
    · rw [Fallible.mapError_bind, right']
      rfl

theorem linkedCode_unplaced (link : Option Logical) (c : Comparison) :
    linkedCode link c.unplaced = (linkedCode link c).mapError ScriptFault.unplaced := by
  rw [linkedCode, linkedCode, Comparison.code_unplaced]
  cases c.code <;> rfl

def readingCode (reading : Reading) : Except ScriptFault Text := do
  let pieces ← reading.comparisons.mapM fun (link, c) => linkedCode link c
  match reading.fault with
  | some fault => throw (.malformed fault)
  | none => return Text.joinWith " " pieces.flatten

theorem predicateCode_of_tokens {script : Text} {ts : List PlacedToken} (read : tokens script = .ok ts) :
    predicateCode script = readingCode (parse ts) := by
  rw [predicateCode, read]
  rfl

/-- The places of operands and faults matter only to the place of the fault that is reported. -/
theorem readingCode_unplaced (reading : Reading) :
    readingCode reading.unplaced = (readingCode reading).mapError ScriptFault.unplaced := by
  obtain ⟨comparisons, fault⟩ := reading
  unfold readingCode
  rw [Fallible.mapError_bind]
  simp only [Reading.unplaced]
  rw [Fallible.mapM_mapError fun x => linkedCode_unplaced x.1 x.2]
  congr 1
  funext pieces
  cases fault <;> rfl

theorem predicateCode_of_same {script script' : Text} {ts ts' : List PlacedToken} (read : tokens script = .ok ts)
    (read' : tokens script' = .ok ts') (same : ts'.map (·.token) = ts.map (·.token)) :
    (predicateCode script').mapError ScriptFault.unplaced = (predicateCode script).mapError ScriptFault.unplaced := by
  have forgotten : ∀ us : List PlacedToken, us.map PlacedToken.unplaced = (us.map (·.token)).map (⟨·, 0, 0⟩) := by
    intro us
    rw [List.map_map]
    rfl
  have unplaced : ts'.map PlacedToken.unplaced = ts.map PlacedToken.unplaced := by
    rw [forgotten, same, forgotten]
  calc (predicateCode script').mapError ScriptFault.unplaced
    _ = readingCode (parse ts').unplaced := by rw [predicateCode_of_tokens read', readingCode_unplaced]
    _ = readingCode (parse ts).unplaced := by rw [← parse_unplaced, unplaced, parse_unplaced]
    _ = (predicateCode script).mapError ScriptFault.unplaced := by
      rw [predicateCode_of_tokens read, readingCode_unplaced]

/-! ### Other blanks -/

/-- `first`, and the pieces with one of `gaps` behind each. -/
def respace (first : Text) (pieces gaps : List Text) : Text := first ++ (List.zipWith (· ++ ·) pieces gaps).flatten

def regap (ls : List Lexeme) (gaps : List Text) : List Lexeme :=
  List.zipWith (fun l gap => ⟨l.piece, l.token, gap⟩) ls gaps

theorem laid_regap (ls : List Lexeme) (gaps : List Text) :
    laid [] (regap ls gaps) = (List.zipWith (· ++ ·) (ls.map (·.piece)) gaps).flatten := by
  induction ls generalizing gaps with
  | nil => rfl
  | cons l ls ih =>
    cases gaps with
    | nil => rfl
    | cons gap gaps =>
      show l.piece ++ (gap ++ laid [] (regap ls gaps)) = (l.piece ++ gap) ++ (List.zipWith (· ++ ·) _ gaps).flatten
      rw [ih, List.append_assoc]

theorem map_slice_placed {script front back : Text} {ls : List Lexeme} (cut : script = front ++ laid back ls) :
    (placed front.length ls).map (PlacedToken.slice script) = ls.map (·.piece) := by
  induction ls generalizing front with
  | nil => rfl
  | cons l ls ih =>
    have whole : script = front ++ l.piece ++ l.gap ++ laid back ls := by rw [cut, laid]; simp
    have rest := ih whole
    rw [List.length_append, List.length_append] at rest
    rw [placed, List.map_cons, List.map_cons, slice_cons cut, rest]

theorem respaced_regap {ls : List Lexeme} {gaps : List Text} (count : gaps.length = ls.length)
    (blanks : ∀ gap ∈ gaps, ∀ c ∈ gap, c.isBlank) (filled : ∀ gap ∈ gaps.dropLast, gap ≠ []) :
    Respaced ls (regap ls gaps) := by
  induction ls generalizing gaps with
  | nil =>
    rw [List.length_nil, List.length_eq_zero_iff] at count
    subst count
    exact .nil
  | cons l ls ih =>
    cases gaps with
    | nil => cases count
    | cons gap gaps =>
      have count' : gaps.length = ls.length := Nat.succ.inj count
      refine .cons (blanks gap List.mem_cons_self) ?_ (ih count' ?_ ?_)
      · rintro rfl
        left
        cases gaps with
        | nil => exact List.length_eq_zero_iff.mp count'.symm
        | cons next gaps => exact absurd rfl (filled [] List.mem_cons_self)
      · exact fun gap member => blanks gap (List.mem_cons_of_mem _ member)
      · intro gap' member
        cases gaps with
        | nil => cases member
        | cons next gaps => exact filled gap' (List.mem_cons_of_mem _ member)

/-- The tokens of a predicate do not depend on the blanks between them, nor does its code. -/
theorem tokens_respace {script : Text} {ts : List PlacedToken} (read : tokens script = .ok ts) (first : Text)
    (gaps : List Text) (count : gaps.length = ts.length) (blanksFirst : ∀ c ∈ first, c.isBlank)
    (blanks : ∀ gap ∈ gaps, ∀ c ∈ gap, c.isBlank) (filled : ∀ gap ∈ gaps.dropLast, gap ≠ []) :
    (∃ ts', tokens (respace first (ts.map (PlacedToken.slice script)) gaps) = .ok ts' ∧
        ts'.map (·.token) = ts.map (·.token)) ∧
      (predicateCode (respace first (ts.map (PlacedToken.slice script)) gaps)).mapError ScriptFault.unplaced =
        (predicateCode script).mapError ScriptFault.unplaced := by
  obtain ⟨front, ls, back, cut, _, isRead, outcome⟩ := tokensFrom_layout 0 script
  rcases outcome with ⟨rfl, done⟩ | ⟨fault, failed, _⟩
  · rw [Nat.zero_add] at done
    obtain rfl := Except.ok.inj (read.symm.trans done)
    have count' : gaps.length = ls.length := by
      rw [count]
      simpa using congrArg List.length (map_token_placed front.length ls)
    have respaced := respaced_regap count' blanks filled
    have read' : tokens (respace first ((placed front.length ls).map (PlacedToken.slice script)) gaps) =
        .ok (placed first.length (regap ls gaps)) := by
      rw [respace, map_slice_placed cut, ← laid_regap]
      exact tokens_front blanksFirst (isRead.respaced respaced)
    have same : (placed first.length (regap ls gaps)).map (·.token) = (placed front.length ls).map (·.token) := by
      rw [map_token_placed, respaced.map_token, map_token_placed]
    exact ⟨⟨_, read', same⟩, predicateCode_of_same read read' same⟩
  · cases read.symm.trans failed

/-- Tokens that touch are read as before when they stand apart, and so is an operator with blanks inside. -/
theorem tokens_respace_touching :
    (∃ ts', tokens " 'a'\tstarts  with\u2003'b' >= c" = .ok ts' ∧
      ts'.map (·.token) =
        [.quoted "a", .operator .startsWithApart, .quoted "b", .operator .greaterOrEqual, .word "c"]) ∧
    (predicateCode " 'a'\tstarts  with\u2003'b' >= c").mapError ScriptFault.unplaced =
      .error (.malformed ⟨.expectedLogical ">=", 0⟩) := by
  have read : tokens "'a'starts  with 'b'>=c" =
      .ok [⟨.quoted "a", 0, 3⟩, ⟨.operator .startsWithApart, 3, 12⟩, ⟨.quoted "b", 16, 3⟩,
        ⟨.operator .greaterOrEqual, 19, 2⟩, ⟨.word "c", 21, 1⟩] :=
    Fallible.ok_of_toOption (by decide +kernel)
  have spaced : respace " " (List.map (PlacedToken.slice "'a'starts  with 'b'>=c")
      [⟨.quoted "a", 0, 3⟩, ⟨.operator .startsWithApart, 3, 12⟩, ⟨.quoted "b", 16, 3⟩,
        ⟨.operator .greaterOrEqual, 19, 2⟩, ⟨.word "c", 21, 1⟩]) ["\t", "\u2003", " ", " ", ""] =
      " 'a'\tstarts  with\u2003'b' >= c" := by
    decide +kernel
  have failed : predicateCode "'a'starts  with 'b'>=c" = .error (.malformed ⟨.expectedLogical ">=", 19⟩) :=
    Fallible.error_of_fault? (by decide +kernel)
  have same := tokens_respace read " " ["\t", "\u2003", " ", " ", ""] rfl (by decide) (by decide) (by decide)
  rw [spaced, failed] at same
  exact same

end Script

end RouteScript
