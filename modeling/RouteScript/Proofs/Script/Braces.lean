import RouteScript.Proofs.Fallible
import RouteScript.Proofs.Text.Lines
import RouteScript.Proofs.Text.Parts
import RouteScript.Script.Segment

/-!
# Braces of functions

Braces are balanced when no beginning closes more of them than it opens and the whole closes as many. A
function is an opening, balanced text and a brace that closes the opening's (`closeBrace_eq_some_iff`), and
`readFunction` fails exactly where there is no such brace or nothing but blanks in front of it
(`readFunction_error`).
-/

namespace RouteScript.Script

/-- `t` closes `depth` braces that it does not open, and no beginning of it closes more. -/
def Closes (depth : Nat) (t : Text) : Prop :=
  (∀ front, front <+: t → front.count (.char '}') ≤ front.count (.char '{') + depth) ∧
    t.count (.char '}') = t.count (.char '{') + depth

/-- Every brace of `t` has its partner in `t`. -/
def Balanced (t : Text) : Prop := Closes 0 t

theorem closes_nil : Closes 0 [] := by
  constructor
  · intro front isFront
    rw [List.prefix_nil.mp isFront]
    exact Nat.zero_le _
  · rfl

theorem closes_cons_iff {depth : Nat} {c : CodePoint} {t : Text} :
    Closes depth (c :: t) ↔
      (∀ front, front <+: t → (c :: front).count (.char '}') ≤ (c :: front).count (.char '{') + depth) ∧
        (c :: t).count (.char '}') = (c :: t).count (.char '{') + depth := by
  unfold Closes
  refine and_congr_left fun _ => ⟨fun below front isFront => ?_, fun below front isFront => ?_⟩
  · exact below (c :: front) (List.cons_prefix_cons.mpr ⟨rfl, isFront⟩)
  · rcases List.prefix_cons_iff.mp isFront with rfl | ⟨shorter, rfl, shorterFront⟩
    · simp
    · exact below shorter shorterFront

theorem closes_open_iff {depth : Nat} {t : Text} : Closes depth (.char '{' :: t) ↔ Closes (depth + 1) t := by
  have opens : ∀ u : Text, (CodePoint.char '{' :: u).count (.char '{') = u.count (.char '{') + 1 := by simp
  have closes : ∀ u : Text, (CodePoint.char '{' :: u).count (.char '}') = u.count (.char '}') := by simp
  rw [closes_cons_iff, Closes]
  simp only [opens, closes, Nat.add_assoc, Nat.add_comm 1 depth]

theorem closes_close_iff {depth : Nat} {t : Text} : Closes (depth + 1) (.char '}' :: t) ↔ Closes depth t := by
  have opens : ∀ u : Text, (CodePoint.char '}' :: u).count (.char '{') = u.count (.char '{') := by simp
  have closes : ∀ u : Text, (CodePoint.char '}' :: u).count (.char '}') = u.count (.char '}') + 1 := by simp
  rw [closes_cons_iff, Closes]
  simp only [opens, closes, ← Nat.add_assoc, Nat.add_le_add_iff_right, Nat.add_right_cancel_iff]

theorem not_closes_zero_close (t : Text) : ¬Closes 0 (.char '}' :: t) := by
  intro balanced
  have early := balanced.1 [.char '}'] (List.cons_prefix_cons.mpr ⟨rfl, List.nil_prefix⟩)
  exact absurd early (by decide)

theorem closes_other_iff {depth : Nat} {c : CodePoint} {t : Text} (opens : c ≠ .char '{') (closes : c ≠ .char '}') :
    Closes depth (c :: t) ↔ Closes depth t := by
  rw [closes_cons_iff, Closes]
  simp only [List.count_cons_of_ne opens, List.count_cons_of_ne closes]

theorem closeBrace_kept_iff {c : CodePoint} {t inner rest : Text} {depth deeper : Nat}
    (ih : ∀ inner rest, closeBrace deeper t = some (inner, rest) ↔
      t = inner ++ .char '}' :: rest ∧ Closes deeper inner)
    (shift : ∀ inner, Closes depth (c :: inner) ↔ Closes deeper inner) (deep : c = .char '}' → depth ≠ 0) :
    Option.map (fun (x : Text × Text) => (c :: x.1, x.2)) (closeBrace deeper t) = some (inner, rest) ↔
      c :: t = inner ++ .char '}' :: rest ∧ Closes depth inner := by
  rw [Option.map_eq_some_iff]
  constructor
  · rintro ⟨⟨front, back⟩, found, same⟩
    cases same
    obtain ⟨rfl, closes⟩ := (ih _ _).mp found
    exact ⟨rfl, (shift front).mpr closes⟩
  · rintro ⟨cut, closes⟩
    cases inner with
    | nil =>
      cases cut
      have shallow : depth = 0 := by simpa using closes.2.symm
      exact absurd shallow (deep rfl)
    | cons d front =>
      cases cut
      exact ⟨(front, rest), (ih _ _).mpr ⟨rfl, (shift front).mp closes⟩, rfl⟩

/-- The brace that `closeBrace` finds is the first that closes one more than are open. -/
theorem closeBrace_eq_some_iff {depth : Nat} {t inner rest : Text} :
    closeBrace depth t = some (inner, rest) ↔ t = inner ++ .char '}' :: rest ∧ Closes depth inner := by
  induction t generalizing depth inner rest with
  | nil => simp [closeBrace]
  | cons c u ih =>
    rw [closeBrace.eq_def]
    dsimp only
    by_cases opens : c = .char '{'
    · subst opens
      rw [if_pos rfl]
      exact closeBrace_kept_iff (fun _ _ => ih) (fun _ => closes_open_iff) (by simp)
    rw [if_neg opens]
    by_cases closes : c = .char '}'
    · subst closes
      rw [if_pos rfl]
      cases depth with
      | zero =>
        dsimp only
        constructor
        · intro found
          cases found
          exact ⟨rfl, closes_nil⟩
        · rintro ⟨cut, balanced⟩
          cases inner with
          | nil =>
            cases cut
            rfl
          | cons d front =>
            cases cut
            exact absurd balanced (not_closes_zero_close front)
      | succ depth => exact closeBrace_kept_iff (fun _ _ => ih) (fun _ => closes_close_iff) (by simp)
    · rw [if_neg closes]
      exact closeBrace_kept_iff (fun _ _ => ih) (fun _ => closes_other_iff opens closes) fun same => absurd same closes

theorem closeBrace_eq_none_iff {t : Text} :
    closeBrace 0 t = none ↔ ∀ inner rest, t = inner ++ .char '}' :: rest → ¬Balanced inner := by
  rw [Option.eq_none_iff_forall_ne_some]
  constructor
  · intro none inner rest cut balanced
    exact none (inner, rest) (closeBrace_eq_some_iff.mpr ⟨cut, balanced⟩)
  · rintro none ⟨inner, rest⟩ found
    obtain ⟨cut, balanced⟩ := closeBrace_eq_some_iff.mp found
    exact none inner rest cut balanced

theorem balanced_unique {inner inner' rest rest' : Text} (balanced : Balanced inner) (balanced' : Balanced inner')
    (same : inner ++ .char '}' :: rest = inner' ++ .char '}' :: rest') : inner = inner' ∧ rest = rest' := by
  have found : closeBrace 0 (inner ++ .char '}' :: rest) = some (inner, rest) :=
    closeBrace_eq_some_iff.mpr ⟨rfl, balanced⟩
  have found' := closeBrace_eq_some_iff.mpr ⟨same, balanced'⟩
  rw [found] at found'
  cases found'
  exact ⟨rfl, rfl⟩

instance : DecidablePred Balanced := fun t =>
  decidable_of_iff (closeBrace 0 (t ++ [.char '}']) = some (t, []))
    (closeBrace_eq_some_iff.trans (and_iff_right rfl))

theorem Balanced.append {s t : Text} (balanced : Balanced s) (balanced' : Balanced t) : Balanced (s ++ t) := by
  constructor
  · intro front isFront
    rcases List.prefix_or_prefix_of_prefix isFront (List.prefix_append s t) with inside | ⟨more, rfl⟩
    · exact balanced.1 front inside
    · have below := balanced'.1 more ((List.prefix_append_right_inj s).mp isFront)
      have even := balanced.2
      simp only [List.count_append]
      omega
  · have even := balanced.2
    have even' := balanced'.2
    simp only [List.count_append]
    omega

/-! ### Blanks around the body -/

theorem count_of_isBlank {t : Text} (blanks : ∀ c ∈ t, c.isBlank) {brace : CodePoint} (visible : brace.isBlank = false) :
    t.count brace = 0 := by
  refine List.count_eq_zero_of_not_mem fun member => ?_
  have blank := blanks brace member
  rw [visible] at blank
  cases blank

theorem strip_split (t : Text) :
    ∃ before after : Text, t = before ++ Text.strip t ++ after ∧ (∀ c ∈ before, c.isBlank) ∧ ∀ c ∈ after, c.isBlank := by
  let kept := Text.stripLeft t
  refine ⟨t.takeWhile CodePoint.isBlank, (kept.reverse.takeWhile CodePoint.isBlank).reverse, ?_, ?_, ?_⟩
  · have right : Text.stripRight kept ++ (kept.reverse.takeWhile CodePoint.isBlank).reverse = kept := by
      rw [Text.stripRight, ← List.reverse_append, List.takeWhile_append_dropWhile, List.reverse_reverse]
    rw [List.append_assoc, Text.strip, right]
    exact (List.takeWhile_append_dropWhile ..).symm
  · exact fun c member => List.all_eq_true.mp List.all_takeWhile c member
  · exact fun c member => List.all_eq_true.mp List.all_takeWhile c (List.mem_reverse.mp member)

theorem strip_eq_nil_iff {t : Text} : Text.strip t = [] ↔ ∀ c ∈ t, c.isBlank := by
  obtain ⟨before, after, whole, blanks, blanks'⟩ := strip_split t
  constructor
  · intro empty c member
    rw [whole, empty, List.append_nil] at member
    rcases List.mem_append.mp member with member | member
    · exact blanks c member
    · exact blanks' c member
  · intro blanks
    have left : Text.stripLeft t = [] := by simpa [Text.stripLeft] using Text.stripLeft_append blanks []
    rw [Text.strip, left]
    rfl

theorem balanced_strip {t : Text} (balanced : Balanced t) : Balanced (Text.strip t) := by
  obtain ⟨before, after, whole, blanks, blanks'⟩ := strip_split t
  have opens : t.count (.char '{') = (Text.strip t).count (.char '{') := by
    conv_lhs => rw [whole]
    simp [count_of_isBlank blanks, count_of_isBlank blanks', show (CodePoint.char '{').isBlank = false by decide]
  have closes : t.count (.char '}') = (Text.strip t).count (.char '}') := by
    conv_lhs => rw [whole]
    simp [count_of_isBlank blanks, count_of_isBlank blanks', show (CodePoint.char '}').isBlank = false by decide]
  refine ⟨fun front isFront => ?_, by rw [← opens, ← closes]; exact balanced.2⟩
  obtain ⟨more, cut⟩ := isFront
  have below := balanced.1 (before ++ front) ⟨more ++ after, by rw [whole, ← cut]; simp⟩
  simpa [count_of_isBlank blanks, show (CodePoint.char '{').isBlank = false by decide,
    show (CodePoint.char '}').isBlank = false by decide] using below

theorem balanced_of_blanks {t : Text} (blanks : ∀ c ∈ t, c.isBlank) : Balanced t := by
  have none : ∀ front, front <+: t → front.count (.char '}') = 0 := by
    intro front isFront
    exact count_of_isBlank (fun c member => blanks c (isFront.subset member)) (by decide)
  constructor
  · intro front isFront
    rw [none front isFront]
    exact Nat.zero_le _
  · rw [none t List.prefix_rfl, count_of_isBlank blanks (by decide)]

/-! ### Functions -/

theorem functionOpening?_eq_some {t opening : Text} (found : functionOpening? t = some opening) :
    opening ∈ functionOpenings ∧ opening <+: t :=
  ⟨List.mem_of_find?_eq_some found, Text.startsWith_iff.mp (List.find?_some found)⟩

theorem functionOpening?_eq_none_iff {t : Text} :
    functionOpening? t = none ↔ ∀ opening ∈ functionOpenings, ¬opening <+: t := by
  simp only [functionOpening?, List.find?_eq_none, Text.startsWith_iff]

theorem opening_unique {opening opening' t : Text} (known : opening ∈ functionOpenings)
    (known' : opening' ∈ functionOpenings) (begins : opening <+: t) (begins' : opening' <+: t) : opening = opening' := by
  have apart : ∀ x ∈ functionOpenings, ∀ y ∈ functionOpenings, x <+: y → x = y := by decide
  rcases List.prefix_or_prefix_of_prefix begins begins' with first | second
  · exact apart _ known _ known' first
  · exact (apart _ known' _ known second).symm

theorem functionOpening?_of_prefix {opening t : Text} (known : opening ∈ functionOpenings) (begins : opening <+: t) :
    functionOpening? t = some opening := by
  cases found : functionOpening? t with
  | none => exact absurd begins (functionOpening?_eq_none_iff.mp found opening known)
  | some other =>
    obtain ⟨known', begins'⟩ := functionOpening?_eq_some found
    rw [opening_unique known known' begins begins']

def functionText (opening inner : Text) : Text := opening ++ inner ++ [.char '}']

/-- A function that is not as it should be begins `t`. -/
inductive MalformedFunction : SyntaxCause → Text → Prop
  | empty {opening inner rest : Text} (known : opening ∈ functionOpenings) (balanced : Balanced inner)
      (blanks : ∀ c ∈ inner, c.isBlank) : MalformedFunction .emptyFunction (functionText opening inner ++ rest)
  | unclosed {opening rest : Text} (known : opening ∈ functionOpenings)
      (never : ∀ inner after, rest = inner ++ .char '}' :: after → ¬Balanced inner) :
      MalformedFunction .unclosedFunction (opening ++ rest)

theorem readFunction_ok {index : Nat} {t body : Text} {width : Nat} (read : readFunction index t = .ok (body, width)) :
    ∃ inner rest, t = inner ++ .char '}' :: rest ∧ Balanced inner ∧ body = Text.strip inner ∧ body ≠ [] ∧
      width = inner.length + 1 := by
  unfold readFunction at read
  split at read
  · cases read
  · rename_i inner rest closed
    obtain ⟨cut, balanced⟩ := closeBrace_eq_some_iff.mp closed
    dsimp only at read
    split at read
    · cases read
    · rename_i filled
      cases read
      exact ⟨inner, rest, cut, balanced, rfl, filled, rfl⟩

theorem readFunction_of_balanced (index : Nat) {inner : Text} (balanced : Balanced inner) (filled : Text.strip inner ≠ [])
    (rest : Text) : readFunction index (inner ++ .char '}' :: rest) = .ok (Text.strip inner, inner.length + 1) := by
  rw [readFunction, closeBrace_eq_some_iff.mpr ⟨rfl, balanced⟩]
  exact if_neg filled

theorem readFunction_error {index : Nat} {opening t : Text} (known : opening ∈ functionOpenings) {fault : SyntaxFault}
    (failed : readFunction index t = .error fault) :
    fault.index = index ∧ MalformedFunction fault.cause (opening ++ t) := by
  unfold readFunction at failed
  split at failed
  · rename_i none
    cases failed
    exact ⟨rfl, .unclosed known (closeBrace_eq_none_iff.mp none)⟩
  · rename_i inner rest closed
    obtain ⟨rfl, balanced⟩ := closeBrace_eq_some_iff.mp closed
    dsimp only at failed
    split at failed
    · rename_i empty
      cases failed
      have malformed : MalformedFunction .emptyFunction (functionText opening inner ++ rest) :=
        .empty known balanced (strip_eq_nil_iff.mp empty)
      rw [functionText, List.append_assoc, List.append_assoc] at malformed
      exact ⟨rfl, malformed⟩
    · cases failed

theorem opening_prefix_functionText (opening inner rest : Text) : opening <+: functionText opening inner ++ rest :=
  ⟨inner ++ .char '}' :: rest, by simp [functionText]⟩

theorem functionText_unique {opening opening' inner inner' rest rest' : Text} (known : opening ∈ functionOpenings)
    (known' : opening' ∈ functionOpenings) (balanced : Balanced inner) (balanced' : Balanced inner')
    (same : functionText opening inner ++ rest = functionText opening' inner' ++ rest') :
    opening = opening' ∧ inner = inner' ∧ rest = rest' := by
  have begins := opening_prefix_functionText opening inner rest
  rw [same] at begins
  obtain rfl := opening_unique known known' begins (opening_prefix_functionText opening' inner' rest')
  simp only [functionText, List.append_assoc, List.append_cancel_left_eq, List.singleton_append] at same
  exact ⟨rfl, balanced_unique balanced balanced' same⟩

theorem not_malformed_of_balanced {opening inner rest : Text} (known : opening ∈ functionOpenings)
    (balanced : Balanced inner) (filled : Text.strip inner ≠ []) {cause : SyntaxCause} :
    ¬MalformedFunction cause (functionText opening inner ++ rest) := by
  intro malformed
  generalize whole : functionText opening inner ++ rest = t at malformed
  cases malformed with
  | empty known' balanced' blanks =>
    obtain ⟨_, rfl, _⟩ := functionText_unique known known' balanced balanced' whole
    exact filled (strip_eq_nil_iff.mpr blanks)
  | unclosed known' never =>
    have begins := opening_prefix_functionText opening inner rest
    rw [whole] at begins
    obtain rfl := opening_unique known known' begins ⟨_, rfl⟩
    simp only [functionText, List.append_assoc, List.append_cancel_left_eq, List.singleton_append] at whole
    exact never inner rest whole.symm balanced

end RouteScript.Script
