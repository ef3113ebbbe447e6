import RouteScript.Proofs.Files.DiskTree
import RouteScript.Proofs.Output.Writing
import RouteScript.Proofs.Text.Encoding
import RouteScript.Proofs.Unit.ClassDeclaration
import RouteScript.Proofs.Unit.SourceCharacters

/-!
# Noticing that a script has changed

The source of a class gives back the name of the class, the kind of its script, the script and the code. So a writer,
which compares the bytes of a file with those of a source, leaves a file alone only where the class in it was made
from the same script (`source_shows_change`).
-/

namespace RouteScript

/-! ### Reading a class -/

theorem packageClause_inj {s t : Text} (same : packageClause s = packageClause t) : s = t :=
  List.append_cancel_left (List.append_cancel_right same)

theorem classHeader_inj {s t : Text} (same : classHeader s = classHeader t) : s = t :=
  List.append_cancel_left (List.append_cancel_right same)

theorem returnLine_inj {s t : Text} (same : returnLine s = returnLine t) : s = t :=
  List.append_cancel_left (List.append_cancel_right same)

theorem stringLiteral_inj {s t : Text} (same : Java.stringLiteral s = Java.stringLiteral t) : s = t := by
  rw [← Java.literalValue_stringLiteral s, same, Java.literalValue_stringLiteral]

theorem Declares.unique {lines imports packages packages' : List Text} {name name' : Text}
    (first : Declares lines imports packages name) (second : Declares lines imports packages' name') :
    (packages = [] ↔ packages' = []) ∧ Text.joinWith "." packages = Text.joinWith "." packages' ∧ name = name' := by
  have clauses := List.append_cancel_right (first.packages.symm.trans second.packages)
  have headers := List.append_cancel_left (first.classes.symm.trans second.classes)
  refine ⟨?_, ?_, classHeader_inj (List.cons.inj headers).1⟩
  all_goals
    by_cases none : packages = [] <;> by_cases none' : packages' = [] <;>
      simp only [none, none', if_true, if_false, List.cons.injEq, and_true, reduceCtorEq] at clauses ⊢
  exact packageClause_inj clauses

theorem beforeText_lines :
    (Text.rows (beforeText .predicate)).length = (Text.rows (beforeText .value)).length ∧
      Text.rows (beforeText .predicate) ≠ Text.rows (beforeText .value) := by
  decide +kernel

/-- The lines behind the header give back the kind, the script and the code. -/
theorem classBody_inj {className script script' code code' : Text} {kind kind' : UsageKind}
    (same : classBody className kind script code = classBody className kind' script' code') :
    kind = kind' ∧ script = script' ∧ code = code' := by
  have behind := (List.cons.inj (List.cons.inj same).2).2
  -- What stands before the script has as many lines for one kind as for the other, so both lists are cut alike.
  have kinds : kind = kind' := by
    cases kind <;> cases kind'
    · rfl
    · exact absurd (List.append_inj behind beforeText_lines.1).1 beforeText_lines.2
    · exact absurd (List.append_inj behind beforeText_lines.1.symm).1 beforeText_lines.2.symm
    · rfl
  subst kinds
  obtain ⟨literals, rest⟩ := List.cons.inj (List.append_cancel_left behind)
  have codes := List.append_cancel_right (List.append_cancel_left rest)
  exact ⟨rfl, stringLiteral_inj (returnLine_inj literals), returnLine_inj (Text.parts_injective codes)⟩

theorem splitIdentity_single {name : Text} (qualified : isQualifiedName name) :
    .char '\n' ∉ (splitIdentity name).1 ∧ .char '\n' ∉ (splitIdentity name).2 := by
  have single := newline_not_mem qualified
  unfold splitIdentity
  cases cut : Text.cutLast? (.char '.') name with
  | none => exact ⟨by simp, single⟩
  | some x =>
    obtain ⟨front, back⟩ := Text.cutLast?_subset cut
    exact ⟨fun member => single (front member), fun member => single (back member)⟩

/-! ### Units -/

/-- Units of one configuration that agree in their names, their kinds, their expanded scripts and the code of these. -/
structure UnitsAgree (c : Configuration) (u v : GeneratedUnit) : Prop where
  identity : u.identity = v.identity
  kind : u.kind = v.kind
  script : Alias.expand c.aliases u.site.script = Alias.expand c.aliases v.site.script
  code : ∃ code, scriptCode u.kind (Alias.expand c.aliases u.site.script) = .ok code ∧
    scriptCode v.kind (Alias.expand c.aliases v.site.script) = .ok code

section Units

variable {c : Configuration} {site site' : Site} {n n' : Int} {u v : GeneratedUnit}

theorem identity_of_names {name : Text} {packages : List Text} {identity : Text}
    (cut : Text.parts (.char '.') identity = packages ++ [name]) :
    identity = if packages = [] then name else Text.joinWith "." packages ++ "." ++ name := by
  rw [← Text.joinWith_parts (.char '.') identity, cut]
  split
  · rename_i none
    rw [none]
    rfl
  · rename_i some
    exact Text.joinWith_append _ some (by simp)

theorem identity_of_source (first : compile c site n = .ok u) (second : compile c site' n' = .ok v)
    (same : u.source = v.source) : u.identity = v.identity := by
  obtain ⟨packages, name, cut, _, declares⟩ := compile_names first
  obtain ⟨packages', name', cut', _, declares'⟩ := compile_names second
  rw [← same] at declares'
  obtain ⟨none, joined, rfl⟩ := declares.unique declares'
  rw [identity_of_names cut, identity_of_names cut', joined]
  simp only [none]

theorem compile_rows (compiled : compile c site n = .ok u) :
    ∃ code, scriptCode u.kind (Alias.expand c.aliases u.site.script) = .ok code ∧
      u.source = classSource (splitIdentity u.identity).1 (splitIdentity u.identity).2 c.imports u.kind
        (Alias.expand c.aliases u.site.script) code ∧
      Text.rows u.source = classFront (splitIdentity u.identity).1 c.imports ++
        classHeader (splitIdentity u.identity).2 ::
          classBody (splitIdentity u.identity).2 u.kind (Alias.expand c.aliases u.site.script) code := by
  obtain ⟨code, coded, source⟩ := compile_classSource compiled
  obtain ⟨named, site, kind⟩ := compile_ok compiled
  obtain ⟨onePackage, oneClass⟩ := splitIdentity_single (identity_eq_ok.mp named).2.2
  rw [← kind, ← site] at coded source
  exact ⟨code, coded, source, source ▸ rows_classSource onePackage oneClass _ _ _ _⟩

theorem source_eq_iff (first : compile c site n = .ok u) (second : compile c site' n' = .ok v) :
    u.source = v.source ↔ UnitsAgree c u v := by
  obtain ⟨code, coded, source, rows⟩ := compile_rows first
  obtain ⟨code', coded', source', rows'⟩ := compile_rows second
  constructor
  · intro same
    have identity := identity_of_source first second same
    rw [same, rows', identity] at rows
    obtain ⟨kind, script, rfl⟩ := classBody_inj (List.cons.inj (List.append_cancel_left rows)).2
    exact ⟨identity, kind.symm, script.symm, code', coded, coded'⟩
  · intro agree
    rw [agree.kind, agree.script, coded'] at coded
    rw [source, source', agree.identity, agree.kind, agree.script, Except.ok.inj coded]

end Units

/-! ### Writing -/

theorem Writer.update_unchanged_iff {d : Disk} {cwd : List Text} {p : Path} {s : Text} (held : Holds d cwd p s)
    (w : Writer) (t : Text) : (w.update d cwd p t).2 = .ok (w, false) ↔ t = s := by
  obtain ⟨bytes, encoded, located⟩ := held
  have inspected := Disk.inspect_eq_some_iff.mpr located
  constructor
  · intro unchanged
    unfold update at unchanged
    split at unchanged
    · cases unchanged
    · rename_i bytes' encoded'
      split at unchanged
      · cases unchanged
      · rename_i same
        obtain ⟨_, located'⟩ := holds_true same
        obtain ⟨_, found⟩ := Prod.mk.inj (Except.ok.inj (located.symm.trans located'))
        cases found
        exact Except.ok.inj ((decodeUtf8_toUtf8 encoded').symm.trans (decodeUtf8_toUtf8 encoded))
      · dsimp only at unchanged
        split at unchanged
        · cases (Prod.mk.inj (Except.ok.inj unchanged)).2
        · split at unchanged
          · cases unchanged
          · cases (Prod.mk.inj (Except.ok.inj unchanged)).2
  · rintro rfl
    have same : holds d cwd p bytes = .ok true := by
      rw [holds, inspected]
      exact congrArg Except.ok (beq_self_eq_true _)
    rw [update, encoded]
    dsimp only
    rw [same]

/-- A changed script shows in the source of its class, so that a writer leaves no class of another script alone. -/
theorem source_shows_change {c : Configuration} {site site' : Site} {n n' : Int} {u v : GeneratedUnit}
    (first : compile c site n = .ok u) (second : compile c site' n' = .ok v) :
    (u.source = v.source ↔ UnitsAgree c u v) ∧
    ∀ (w : Writer) (d : Disk) (cwd : List Text) (p : Path), Writer.Holds d cwd p u.source →
      ((w.update d cwd p v.source).2 = .ok (w, false) ↔ UnitsAgree c u v) := by
  have sources := source_eq_iff first second
  refine ⟨sources, fun w d cwd p held => ?_⟩
  rw [Writer.update_unchanged_iff held, eq_comm, sources]

def greetingConfiguration : Configuration := ⟨["import q.*;"], [("who", "me")]⟩

def greetingSite (script : Text) : Site := ⟨script, .value, some "A", ⟨0, []⟩, .code⟩

/-- The end of this script looks like the text behind a literal. -/
def imitatingScript : Text := "me\";\n    \x7d"

theorem source_shows_change_greeting :
    ∃ u v w bytes, compile greetingConfiguration (greetingSite "who") 1 = .ok u ∧
      compile greetingConfiguration (greetingSite "me") 1 = .ok v ∧
      compile greetingConfiguration (greetingSite imitatingScript) 1 = .ok w ∧
      u.source = v.source ∧ u.source ≠ w.source ∧ u.source.toUtf8 = .ok bytes ∧
      ((Writer.new false).update ⟨[(["f"], .file bytes)]⟩ [] (.absolute ["f"]) v.source).2 =
        .ok (.new false, false) ∧
      ((Writer.new false).update ⟨[(["f"], .file bytes)]⟩ [] (.absolute ["f"]) w.source).2 ≠
        .ok (.new false, false) := by
  have made : ∀ script ∈ ([("who" : Text), "me", imitatingScript] : List Text),
      (compile greetingConfiguration (greetingSite script) 1).toOption.map (·.identity) = some "A$$Csimple1" := by
    decide +kernel
  have unit : ∀ script ∈ ([("who" : Text), "me", imitatingScript] : List Text),
      ∃ u, compile greetingConfiguration (greetingSite script) 1 = .ok u ∧ u.identity = "A$$Csimple1" ∧
        u.site = greetingSite script ∧ u.kind = .value := by
    intro script member
    obtain ⟨u, compiled, named⟩ := Option.map_eq_some_iff.mp (made script member)
    have compiled := Fallible.ok_of_toOption compiled
    exact ⟨u, compiled, named, (compile_ok compiled).2⟩
  obtain ⟨u, first, identity, site, kind⟩ := unit "who" (by simp)
  obtain ⟨v, second, identity', site', kind'⟩ := unit "me" (by simp)
  obtain ⟨w, third, _, site'', _⟩ := unit imitatingScript (by simp)
  have expanded : Alias.expand greetingConfiguration.aliases "who" = Alias.expand greetingConfiguration.aliases "me" ∧
      Alias.expand greetingConfiguration.aliases "who" ≠
        Alias.expand greetingConfiguration.aliases imitatingScript := by
    decide +kernel
  have script : Alias.expand greetingConfiguration.aliases u.site.script =
      Alias.expand greetingConfiguration.aliases v.site.script := by
    rw [site, site']
    exact expanded.1
  have agree : UnitsAgree greetingConfiguration u v := by
    obtain ⟨code, coded, _⟩ := compile_rows first
    refine ⟨identity.trans identity'.symm, kind.trans kind'.symm, script, code, coded, ?_⟩
    rwa [kind', ← script, ← kind]
  have differ : ¬UnitsAgree greetingConfiguration u w := by
    intro agree
    have same := agree.script
    rw [site, site''] at same
    exact expanded.2 same
  have sound : greetingConfiguration.IsSound := ⟨by simp [greetingConfiguration], by simp [greetingConfiguration]⟩
  obtain ⟨bytes, encoded⟩ := toUtf8_of_noSurrogate (compile_noSurrogate sound first (Text.noSurrogate_ofString _))
  have held : Writer.Holds ⟨[(["f"], .file bytes)]⟩ [] (.absolute ["f"]) u.source := ⟨bytes, encoded, rfl⟩
  obtain ⟨sources, writes⟩ := source_shows_change first second
  obtain ⟨sources', writes'⟩ := source_shows_change first third
  exact ⟨u, v, w, bytes, first, second, third, sources.mpr agree, mt sources'.mp differ, encoded,
    (writes _ _ _ _ held).mpr agree, mt (writes' _ _ _ _ held).mp differ⟩

end RouteScript
