import RouteScript.Output.Writer
import RouteScript.Proofs.Project.ConfigurationLines
import RouteScript.Proofs.Script.CodeCharacters
import RouteScript.Proofs.Unit.Compilation

/-!
# The characters of generated files

Configurations are decoded from bytes and the names of classes are made from characters, so that the only way for a
surrogate into a generated class is the script (`compile_noSurrogate`). The manifest never holds one
(`render_noSurrogate`).
-/

namespace RouteScript

open Text (NoSurrogate noSurrogate_nil noSurrogate_ofString)

/-! ### Configurations -/

/-- What a configuration adds to scripts and classes holds characters only. -/
structure Configuration.IsSound (c : Configuration) : Prop where
  imports : ∀ statement ∈ c.imports, NoSurrogate statement
  aliases : ∀ a ∈ c.aliases, NoSurrogate a.2

namespace Configuration

end Configuration

theorem Alias.expand_noSurrogate {aliases : List Alias} (sound : ∀ a ∈ aliases, NoSurrogate a.2) {script : Text}
    (plain : NoSurrogate script) : NoSurrogate (expand aliases script) := by
  have replaced : ∀ (ordered : List Alias) (previous : Option CodePoint) (t : Text),
      (∀ a ∈ ordered, NoSurrogate a.2) → NoSurrogate t → NoSurrogate (expandFrom ordered previous t) := by
    intro ordered previous t all plain
    fun_induction expandFrom ordered previous t with
    | case1 => exact noSurrogate_nil
    | case2 previous c t key expansion found ih =>
      exact (all _ (List.mem_of_find?_eq_some found)).append
        (ih (plain.of_subset (List.Subset.trans (List.drop_subset _ _) (List.subset_cons_self _ _))))
    | case3 previous c t missing ih =>
      have first : NoSurrogate [c] := plain.of_subset (by simp)
      exact first.append (ih (plain.of_subset (List.subset_cons_self _ _)))
  exact replaced _ none script (fun a member => sound a (List.mem_mergeSort.mp member)) plain

/-! ### Names -/

/-- No range of the table meets the surrogates. -/
theorem inRanges_surrogate {ranges : List (Nat × Nat)}
    (apart : ranges.all fun (first, last) => decide (last < 0xD800) || decide (0xDFFF < first)) (offset : Fin 2048) :
    inRanges ranges (CodePoint.surrogate offset).toNat = false := by
  have bounds : 0xD800 ≤ (CodePoint.surrogate offset).toNat ∧ (CodePoint.surrogate offset).toNat ≤ 0xDFFF := by
    simp only [CodePoint.toNat]
    omega
  refine List.any_eq_false.mpr fun range member => ?_
  have outside := List.all_eq_true.mp apart range member
  simp only [Bool.or_eq_true, decide_eq_true_eq] at outside
  simp only [Bool.and_eq_true, decide_eq_true_eq]
  omega

theorem surrogate_not_identifier (offset : Fin 2048) :
    ((CodePoint.surrogate offset).isIdentifierStart || (CodePoint.surrogate offset).isIdentifierPart) = false := by
  have value : (CodePoint.surrogate offset).toNat = 0xD800 + offset.val := rfl
  have start : inRanges identifierStartRangesFromA640 (0xD800 + offset.val) = false :=
    inRanges_surrogate (by decide +kernel) offset
  have part : inRanges identifierPartRangesFrom2090 (0xD800 + offset.val) = false :=
    inRanges_surrogate (by decide +kernel) offset
  rw [CodePoint.isIdentifierStart, CodePoint.isIdentifierPart, identifierStartRanges, identifierPartRanges, value]
  simp (disch := omega) only [if_pos, if_neg]
  rw [start, part]
  rfl

theorem noSurrogate_of_isQualifiedName {name : Text} (qualified : isQualifiedName name) : NoSurrogate name :=
  fun offset => not_mem_of_isQualifiedName qualified (by simp) (surrogate_not_identifier offset)

theorem splitIdentity_noSurrogate {name : Text} (sound : NoSurrogate name) :
    NoSurrogate (splitIdentity name).1 ∧ NoSurrogate (splitIdentity name).2 := by
  unfold splitIdentity
  cases cut : Text.cutLast? (.char '.') name with
  | none => exact ⟨noSurrogate_nil, sound⟩
  | some x =>
    have ⟨front, back⟩ := Text.cutLast?_subset cut
    exact ⟨sound.of_subset front, sound.of_subset back⟩

/-! ### Files -/

theorem classSource_noSurrogate {package className script code : Text} {imports : List Text} (kind : UsageKind)
    (packageSound : NoSurrogate package) (classSound : NoSurrogate className)
    (importsSound : ∀ statement ∈ imports, NoSurrogate statement) (scriptSound : NoSurrogate script)
    (codeSound : NoSurrogate code) : NoSurrogate (classSource package className imports kind script code) := by
  have packages : NoSurrogate (packageLines package) := by
    unfold packageLines
    split
    · exact noSurrogate_nil
    · simpa [sourceLine] using packageSound
  have added : NoSurrogate (importLines imports) := by
    unfold importLines
    split
    · exact noSurrogate_nil
    · exact (noSurrogate_ofString _).append (.flatMap fun statement member =>
        (importsSound statement member).append (noSurrogate_ofString _))
  have literal := Script.stringLiteral_noSurrogate scriptSound
  have method : NoSurrogate (evaluation kind code) := by
    cases kind <;> simp only [evaluation, sourceLine, parameters, Text.noSurrogate_append, noSurrogate_ofString,
      codeSound, and_true]
  have fixed : NoSurrogate fixedImports := by
    unfold fixedImports
    simp only [Text.noSurrogate_append, noSurrogate_ofString, and_true]
  have marked : NoSurrogate generatedMessage := noSurrogate_ofString _
  unfold classSource
  simp only [sourceLine, Text.noSurrogate_append, noSurrogate_ofString, packages, fixed, added, marked, literal, method,
    classSound, and_true]

theorem compile_noSurrogate {c : Configuration} (sound : c.IsSound) {site : Site} {n : Int} {u : GeneratedUnit}
    (compiled : compile c site n = .ok u) (plain : NoSurrogate site.script) : NoSurrogate u.source := by
  have script := Alias.expand_noSurrogate sound.aliases plain
  obtain ⟨code, written, source⟩ := compile_classSource compiled
  have qualified := (identity_eq_ok.mp (compile_ok compiled).1).2.2
  have ⟨package, className⟩ := splitIdentity_noSurrogate (noSurrogate_of_isQualifiedName qualified)
  rw [source]
  exact classSource_noSurrogate _ package className sound.imports script (Script.scriptCode_noSurrogate written script)

end RouteScript
