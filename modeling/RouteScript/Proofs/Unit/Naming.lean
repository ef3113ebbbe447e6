import RouteScript.Proofs.Text.Parts
import RouteScript.Unit.Source

/-!
# Names and files of generated classes

The name of a class gives back the owner and the number it was made from (`identity_unique`), and the file
of a class gives back its name (`classFile_unique`).
-/

namespace RouteScript

/-! ### Numerals -/

namespace Text

theorem isAsciiDigit_of_mem_ofNat {n : Nat} {c : CodePoint} (member : c ∈ ofNat n) : c.isAsciiDigit := by
  obtain ⟨digit, present, rfl⟩ := List.mem_map.mp member
  have bounds := Char.isDigit_iff_toNat.mp (Nat.isDigit_of_mem_toDigits (by decide) (by decide) present)
  exact Bool.and_eq_true_iff.mpr ⟨decide_eq_true bounds.1, decide_eq_true bounds.2⟩

theorem ofNat_injective {m n : Nat} (same : ofNat m = ofNat n) : m = n := by
  have digits : Nat.toDigits 10 m = Nat.toDigits 10 n :=
    (List.map_inj_right fun _ _ => CodePoint.char.inj).mp same
  have value := congrArg (Nat.ofDigitChars 10 · 0) digits
  simpa only [Nat.ofDigitChars_ten_toDigits] using value

/-- What follows the last code point outside a class is determined by the whole text. -/
theorem append_cons_inj_of_class {p : CodePoint → Bool} {c : CodePoint} (outside : p c = false)
    {s s' d d' : Text} (inside : ∀ x ∈ d, p x) (inside' : ∀ x ∈ d', p x)
    (same : s ++ c :: d = s' ++ c :: d') : s = s' ∧ d = d' := by
  have run : ∀ {s d : Text}, (∀ x ∈ d, p x) → (s ++ c :: d).reverse.takeWhile p = d.reverse := by
    intro s d inside
    have back : (s ++ c :: d).reverse = d.reverse ++ c :: s.reverse := by simp
    rw [back, List.takeWhile_append_of_pos fun x member => inside x (List.mem_reverse.mp member),
      List.takeWhile_cons_of_neg (by simp [outside]), List.append_nil]
  have tails : d.reverse = d'.reverse := by rw [← run inside, same, run inside']
  obtain rfl := List.reverse_inj.mp tails
  exact ⟨List.append_cancel_right same, rfl⟩

end Text

/-! ### Names -/

theorem identity_eq_ok {owner name : Text} {sequence : Int} :
    identity owner sequence = .ok name ↔
      1 ≤ sequence ∧ name = owner ++ identityMarker ++ Text.ofInt sequence ∧ isQualifiedName name := by
  unfold identity
  split
  · rename_i small
    exact ⟨(nomatch ·), fun ⟨large, _⟩ => absurd small (by omega)⟩
  · rename_i large
    dsimp only
    split
    · rename_i qualified
      constructor
      · intro h
        cases h
        exact ⟨by omega, rfl, qualified⟩
      · rintro ⟨_, rfl, _⟩
        rfl
    · rename_i unqualified
      exact ⟨(nomatch ·), fun ⟨_, same, qualified⟩ => absurd (same ▸ qualified) unqualified⟩

/-- The owner and the number can be read off the name, also where the owner has a marker and digits of its
own. -/
theorem identity_unique {owner owner' name : Text} {n n' : Int} (first : identity owner n = .ok name)
    (second : identity owner' n' = .ok name) : owner = owner' ∧ n = n' := by
  obtain ⟨positive, rfl, _⟩ := identity_eq_ok.mp first
  obtain ⟨positive', same, _⟩ := identity_eq_ok.mp second
  obtain ⟨n, rfl⟩ := Int.eq_ofNat_of_zero_le (by omega : 0 ≤ n)
  obtain ⟨n', rfl⟩ := Int.eq_ofNat_of_zero_le (by omega : 0 ≤ n')
  -- The marker ends in a letter, so that the numeral is the whole run of digits at the end.
  have marked : ∀ (owner numeral : Text),
      owner ++ identityMarker ++ numeral = owner ++ "$$Csimpl" ++ .char 'e' :: numeral := by
    simp [identityMarker, Text.ofString]
  rw [marked, marked] at same
  obtain ⟨owners, numerals⟩ := Text.append_cons_inj_of_class (by decide : CodePoint.isAsciiDigit _ = false)
    (fun _ => Text.isAsciiDigit_of_mem_ofNat) (fun _ => Text.isAsciiDigit_of_mem_ofNat) same
  exact ⟨List.append_cancel_right owners, congrArg Int.ofNat (Text.ofNat_injective numerals)⟩

/-- An identifier stays one when code points that may stand in it are added at its end. -/
theorem isIdentifier_append {s t : Text} (name : Text.isIdentifier s) (more : t.all CodePoint.isIdentifierPart) :
    Text.isIdentifier (s ++ t) := by
  cases s with
  | nil => cases name
  | cons c s =>
    obtain ⟨begins, goesOn⟩ := Bool.and_eq_true_iff.mp name
    simp only [List.cons_append, Text.isIdentifier, List.all_append, begins, goesOn, more, Bool.and_self]

theorem isIdentifierPart_of_isAsciiDigit {c : CodePoint} (digit : c.isAsciiDigit) : c.isIdentifierPart := by
  have below : c.toNat < 0x80 := by
    have bounds := Bool.and_eq_true_iff.mp digit
    have upper := of_decide_eq_true bounds.2
    omega
  simp [CodePoint.isIdentifierPart, below, digit]

theorem marked_isIdentifierPart (n : Nat) :
    (Text.replaceEach (.char '$') (.char '_') (identityMarker ++ Text.ofNat n)).all
      CodePoint.isIdentifierPart := by
  rw [Text.replaceEach, List.map_append, List.all_append, Bool.and_eq_true_iff]
  refine ⟨by decide, List.all_eq_true.mpr ?_⟩
  intro c member
  obtain ⟨d, present, rfl⟩ := List.mem_map.mp member
  split
  · decide
  · exact isIdentifierPart_of_isAsciiDigit (Text.isAsciiDigit_of_mem_ofNat present)

theorem identity_of_isQualifiedName {owner : Text} {n : Int} (qualified : isQualifiedName owner)
    (positive : 1 ≤ n) : identity owner n = .ok (owner ++ identityMarker ++ Text.ofInt n) := by
  refine identity_eq_ok.mpr ⟨positive, rfl, ?_⟩
  obtain ⟨n, rfl⟩ := Int.eq_ofNat_of_zero_le (by omega : 0 ≤ n)
  have noPoint : CodePoint.char '.' ∉ identityMarker ++ Text.ofNat n := by
    intro member
    rcases List.mem_append.mp member with member | member
    · exact absurd member (by decide)
    · exact absurd (Text.isAsciiDigit_of_mem_ofNat member) (by decide)
  obtain ⟨front, last, cut, cut'⟩ := Text.parts_append_of_not_mem owner noPoint
  rw [isQualifiedName, cut, List.all_append, List.all_cons, List.all_nil, Bool.and_true,
    Bool.and_eq_true_iff] at qualified
  change isQualifiedName (owner ++ identityMarker ++ Text.ofNat n)
  rw [List.append_assoc, isQualifiedName, cut', List.all_append, List.all_cons, List.all_nil, Bool.and_true,
    Bool.and_eq_true_iff]
  refine ⟨qualified.1, ?_⟩
  rw [Text.replaceEach, List.map_append]
  exact isIdentifier_append qualified.2 (marked_isIdentifierPart n)

/-! ### Files -/

theorem isIdentifier_mem {t : Text} (name : Text.isIdentifier t) {c : CodePoint} (member : c ∈ t) :
    c.isIdentifierStart || c.isIdentifierPart := by
  cases t with
  | nil => cases name
  | cons first t =>
    obtain ⟨begins, goesOn⟩ := Bool.and_eq_true_iff.mp name
    rcases List.mem_cons.mp member with rfl | member
    · rw [begins, Bool.true_or]
    · rw [List.all_eq_true.mp goesOn c member, Bool.or_true]

/-- The parts of a qualified name hold what stands in identifiers, and `$`. -/
theorem not_mem_of_isIdentifier {part : Text}
    (identifier : Text.isIdentifier (Text.replaceEach (.char '$') (.char '_') part)) {c : CodePoint}
    (different : c ≠ .char '$') (outside : (c.isIdentifierStart || c.isIdentifierPart) = false) : c ∉ part := by
  intro member
  have kept : c ∈ Text.replaceEach (.char '$') (.char '_') part :=
    List.mem_map.mpr ⟨c, member, if_neg different⟩
  exact absurd (isIdentifier_mem identifier kept) (by simp [outside])

/-- A qualified name holds what stands in identifiers, `$` and points. -/
theorem not_mem_of_isQualifiedName {name : Text} (qualified : isQualifiedName name) {c : CodePoint}
    (different : c ≠ .char '.' ∧ c ≠ .char '$') (outside : (c.isIdentifierStart || c.isIdentifierPart) = false) :
    c ∉ name := by
  intro member
  rcases Text.mem_parts (.char '.') member with same | ⟨part, present, inside⟩
  · exact different.1 same
  · exact not_mem_of_isIdentifier (List.all_eq_true.mp qualified part present) different.2 outside inside

theorem newline_not_mem {name : Text} (qualified : isQualifiedName name) : CodePoint.char '\n' ∉ name :=
  not_mem_of_isQualifiedName qualified (by decide) (by decide)

/-- A part of a qualified name is a file name of its own. -/
theorem part_isFileName {name part : Text} (qualified : isQualifiedName name)
    (member : part ∈ Text.parts (.char '.') name) :
    part ≠ [] ∧ CodePoint.char '/' ∉ part ∧ CodePoint.char '.' ∉ part := by
  have identifier := List.all_eq_true.mp qualified part member
  refine ⟨?_, not_mem_of_isIdentifier identifier (by decide) (by decide), (Text.of_mem_parts member).1⟩
  rintro rfl
  cases identifier

theorem child_of_fileName (p : Path) {part : Text} (filled : part ≠ [])
    (noSlash : CodePoint.char '/' ∉ part) (noPoint : CodePoint.char '.' ∉ part) :
    p.child part = { p with names := p.names ++ [part] } := by
  have noSlashes : part.takeWhile (· = .char '/') = [] := by
    cases part with
    | nil => rfl
    | cons c part => simp_all [Ne.symm]
  have proper : part ≠ "." := by
    rintro rfl
    exact noPoint (by decide)
  have read : Path.ofText part = ⟨0, [part]⟩ := by
    simp [Path.ofText, noSlashes, Text.parts_of_not_mem noSlash, filled, proper]
  simp [Path.child, read, Path.join, Path.isAbsolute]

theorem classFile_eq {name : Text} (qualified : isQualifiedName name) :
    ∃ (front : List Text) (last : Text), Text.parts (.char '.') name = front ++ [last] ∧
      classFile name = ⟨0, front ++ [last ++ ".java"]⟩ := by
  have folded : ∀ (parts : List Text) (p : Path), (∀ part ∈ parts, part ∈ Text.parts (.char '.') name) →
      parts.foldl Path.child p = { p with names := p.names ++ parts } := by
    intro parts
    induction parts with
    | nil => simp
    | cons part parts ih =>
      intro p all
      obtain ⟨filled, noSlash, noPoint⟩ := part_isFileName qualified (all part List.mem_cons_self)
      rw [List.foldl_cons, ih _ fun q member => all q (List.mem_cons_of_mem _ member),
        child_of_fileName p filled noSlash noPoint]
      simp
  obtain ⟨front, last, cut⟩ : ∃ front last, Text.parts (.char '.') name = front ++ [last] :=
    ⟨_, _, (List.dropLast_concat_getLast (Text.parts_ne_nil _ _)).symm⟩
  have present : last ∈ Text.parts (.char '.') name := by simp [cut]
  have noPoint := (part_isFileName qualified present).2.2
  refine ⟨front, last, cut, ?_⟩
  rw [classFile, folded _ _ fun _ member => member, cut]
  simp [Path.withSuffix, Path.suffix, Text.cutLast?_eq_none_iff.mpr noPoint]

/-- The name of a class can be read off its file. -/
theorem classFile_unique {name name' : Text} (qualified : isQualifiedName name)
    (qualified' : isQualifiedName name') (same : classFile name = classFile name') : name = name' := by
  obtain ⟨front, last, cut, file⟩ := classFile_eq qualified
  obtain ⟨front', last', cut', file'⟩ := classFile_eq qualified'
  rw [file, file'] at same
  injection same with _ names
  obtain ⟨rfl, lasts⟩ := List.append_inj' names rfl
  injection lasts with lasts
  obtain rfl := List.append_cancel_right lasts
  exact Text.parts_injective (cut.trans cut'.symm)

/-- The file of a class is a relative path without double points, and it ends in `.java`. -/
theorem classFile_names {name : Text} (qualified : isQualifiedName name) :
    ∃ (front : List Text) (last : Text), classFile name = ⟨0, front ++ [last ++ ".java"]⟩ ∧
      (".." : Text) ∉ front ++ [last ++ ".java"] := by
  obtain ⟨front, last, cut, file⟩ := classFile_eq qualified
  refine ⟨front, last, file, ?_⟩
  intro member
  rcases List.mem_append.mp member with member | member
  · have noPoint := (part_isFileName qualified (cut ▸ List.mem_append_left _ member)).2.2
    exact noPoint (by decide)
  · have ended := congrArg List.getLast? (List.mem_singleton.mp member)
    simp [Text.ofString] at ended

end RouteScript
