import RouteScript.Proofs.Project.ConfigurationLines
import RouteScript.Proofs.Project.FatalSites
import RouteScript.Proofs.Project.RunOutput
import RouteScript.Proofs.Route.SourceOrder
import RouteScript.Proofs.Script.EmptyScript

/-!
# Scripts are never empty

Extraction finds no blank scripts, and a configuration that was loaded has no blank expansions. So a script with its
aliases expanded still holds something that is not blank, and a run rejects no script as empty
(`run_never_empty`).
-/

namespace RouteScript

/-- Holds something that is not blank. -/
def Text.IsFilled (t : Text) : Prop := ∃ c ∈ t, ¬c.isBlank

theorem Text.isFilled_iff {t : Text} : IsFilled t ↔ strip t ≠ [] := by
  rw [ne_eq, Script.strip_eq_nil_iff]
  simp [IsFilled]

/-! ### Configurations -/

namespace Configuration

/-- No alias stands for a blank text. -/
def IsFilled (c : Configuration) : Prop := ∀ a ∈ c.aliases, Text.IsFilled a.2

theorem Line.isFilled_of_aliasing {raw key value : Text} (read : Line.ofText raw = .aliasing key value) :
    Text.IsFilled value := by
  unfold Line.ofText at read
  dsimp only at read
  repeat' split at read
  all_goals cases read
  rename_i filled
  rw [Text.isFilled_iff, Text.strip_strip]
  exact fun none => filled (Or.inr none)

theorem load_isFilled {d : Disk} {cwd : List Text} {path : Path} {c : Configuration}
    (loaded : load d cwd path = .ok c) : c.IsFilled := by
  intro a member
  rcases load_cases loaded with rfl | ⟨_, t, _, _, rfl⟩
  · cases member
  · obtain ⟨raw, _, read⟩ := mem_aliases_ofText member
    exact Line.isFilled_of_aliasing read

end Configuration

/-! ### Scripts -/

theorem Alias.expandFrom_isFilled {tried : List Alias} (filled : ∀ a ∈ tried, Text.IsFilled a.2)
    (previous : Option CodePoint) {t : Text} (script : Text.IsFilled t) : Text.IsFilled (expandFrom tried previous t) := by
  fun_induction expandFrom tried previous t with
  | case1 => exact script
  | case2 previous c t key expansion found ih =>
    -- What the key covered may have been all that was not blank, but the expansion brings something of its own.
    obtain ⟨x, member, visible⟩ := filled _ (List.mem_of_find?_eq_some found)
    exact ⟨x, List.mem_append_left _ member, visible⟩
  | case3 previous c t none ih =>
    obtain ⟨x, member, visible⟩ := script
    rcases List.mem_cons.mp member with rfl | later
    · exact ⟨x, List.mem_cons_self, visible⟩
    · obtain ⟨y, present, visible'⟩ := ih ⟨x, later, visible⟩
      exact ⟨y, List.mem_cons_of_mem c present, visible'⟩

theorem Configuration.IsFilled.expand {c : Configuration} (filled : c.IsFilled) {script : Text}
    (visible : Text.IsFilled script) : Text.IsFilled (Alias.expand c.aliases script) :=
  Alias.expandFrom_isFilled (fun a member => filled a (List.mem_mergeSort.mp member)) none visible

theorem isFilled_of_mem_extract {d : Disk} {cwd : List Text} {dialect : Dialect} {path : Path} {site : Site}
    (member : site ∈ (extract d cwd dialect path).2.sites) : Text.IsFilled site.script := by
  rcases extract_inSourceOrder d cwd dialect path with none | ⟨content, _, placed, all, _, occurs⟩
  · rw [none] at member
    cases member
  · rw [← all] at member
    obtain ⟨⟨place, _⟩, present, rfl⟩ := List.mem_map.mp member
    exact Text.isFilled_iff.mpr ((occurs place _).mp present).1

/-! ### Faults -/

/-- The site is rejected as empty, by the cause or in words. -/
def Fatal.RejectsEmpty (f : Fatal) : Prop :=
  (∃ index, f.cause = .syntaxFault ⟨.emptyExpression, index⟩ ∨ f.cause = .syntaxFault ⟨.emptyPredicate, index⟩) ∨
    ("Empty expression" : Text) <+: f.reason ∨ ("Empty predicate" : Text) <+: f.reason

/-- Seven code points tell the messages of empty scripts from all others. -/
theorem not_begins_empty {message : Text} (beginning : Text) (begins : message.take 7 = beginning)
    (other : beginning ≠ "Empty e" ∧ beginning ≠ "Empty p") :
    ¬(("Empty expression" : Text) <+: message ∨ ("Empty predicate" : Text) <+: message) := by
  rintro (⟨rest, rfl⟩ | ⟨rest, rfl⟩)
  · exact other.1 (begins.symm.trans rfl)
  · exact other.2 (begins.symm.trans rfl)

theorem SyntaxFault.emptiness_of_message {fault : SyntaxFault}
    (begins : ("Empty expression" : Text) <+: fault.message ∨ ("Empty predicate" : Text) <+: fault.message) :
    fault.cause.isEmptiness := by
  obtain ⟨cause, index⟩ := fault
  cases cause with
  | emptyExpression => rfl
  | emptyPredicate => rfl
  | emptyFunction => exact absurd begins (not_begins_empty "Empty f" rfl (by decide))
  | unclosedFunction => exact absurd begins (not_begins_empty "Unclose" rfl (by decide))
  | unclosedLiteral => exact absurd begins (not_begins_empty "Unclose" rfl (by decide))
  | unexpectedCharacter => exact absurd begins (not_begins_empty "Unexpec" rfl (by decide))
  | expectedLogical => exact absurd begins (not_begins_empty "Unexpec" rfl (by decide))
  | danglingLogical => exact absurd begins (not_begins_empty "Danglin" rfl (by decide))
  | missingRightOperand => exact absurd begins (not_begins_empty "Missing" rfl (by decide))
  | expectedOperand => exact absurd begins (not_begins_empty "Unexpec" rfl (by decide))
  | invalidTypeName => exact absurd begins (not_begins_empty "Invalid" rfl (by decide))
  | unknownFunction => exact absurd begins (not_begins_empty "Unknown" rfl (by decide))
  | strayChain => exact absurd begins (not_begins_empty "Invalid" rfl (by decide))

theorem Fatal.RejectsEmpty.cause {f : Fatal} (rejected : f.RejectsEmpty) :
    ∃ fault, f.cause = .syntaxFault fault ∧ fault.cause.isEmptiness := by
  obtain ⟨site, cause⟩ := f
  rcases rejected with ⟨index, rfl | rfl⟩ | begins
  · exact ⟨_, rfl, rfl⟩
  · exact ⟨_, rfl, rfl⟩
  · cases cause with
    | syntaxFault fault => exact ⟨fault, rfl, SyntaxFault.emptiness_of_message begins⟩
    | identityFault fault =>
      cases fault with
      | sequenceTooSmall => exact absurd begins (not_begins_empty "sequenc" rfl (by decide))
      | invalidOwner owner => exact absurd begins (not_begins_empty "Owner '" rfl (by decide))

/-- A fatal script that is rejected for its syntax has that fault once its aliases are expanded. -/
theorem compile_syntaxFault {c : Configuration} {site : Site} {n : Int} {f : Fatal} {fault : SyntaxFault}
    (failed : compile c site n = .error (.fatal f)) (cause : f.cause = .syntaxFault fault) :
    scriptCode site.kind (Alias.expand c.aliases site.script) = .error (.malformed fault) := by
  unfold compile at failed
  dsimp only at failed
  repeat' split at failed
  all_goals cases failed
  · cases cause
    assumption
  · cases cause

theorem compile_not_rejectsEmpty {c : Configuration} {site : Site} {n : Int} {f : Fatal}
    (filled : Text.IsFilled (Alias.expand c.aliases site.script)) (failed : compile c site n = .error (.fatal f)) :
    ¬f.RejectsEmpty := by
  intro rejected
  obtain ⟨fault, cause, empty⟩ := rejected.cause
  obtain ⟨x, member, visible⟩ := filled
  rcases scriptCode_empty_iff.mp ⟨_, compile_syntaxFault failed cause, empty⟩ with none | ⟨_, blanks⟩
  · rw [none] at member
    cases member
  · exact visible (blanks x member)

namespace Generation

/-- No script that can be extracted is rejected as empty. -/
theorem run_never_empty :
    (∀ {d : Disk} {cwd : List Text} {path : Path} {c : Configuration}, Configuration.load d cwd path = .ok c →
      ∀ {d' : Disk} {cwd' : List Text} {dialect : Dialect} {file : Path} {site : Site},
        site ∈ (extract d' cwd' dialect file).2.sites →
        (∃ x ∈ Alias.expand c.aliases site.script, ¬x.isBlank) ∧
          ∀ n f, compile c site n = .error (.fatal f) → ¬f.RejectsEmpty) ∧
    ∀ e s dialects dryRun p f, ((run e s dialects dryRun).run.run p).1 = .error (.fatal f) → ¬f.RejectsEmpty := by
  have each : ∀ {d cwd path c}, Configuration.load d cwd path = .ok c → ∀ {d' cwd' dialect file site},
      site ∈ (extract d' cwd' dialect file).2.sites → Text.IsFilled (Alias.expand c.aliases site.script) :=
    fun loaded _ _ _ _ _ found => (Configuration.load_isFilled loaded).expand (isFilled_of_mem_extract found)
  constructor
  · intro d cwd path c loaded d' cwd' dialect file site found
    exact ⟨each loaded found, fun n f failed => compile_not_rejectsEmpty (each loaded found) failed⟩
  · intro e s dialects dryRun p f failed
    obtain ⟨_, _, _, _, _, _, _, _, _, loaded, found, fatal⟩ := run_fatal failed
    exact compile_not_rejectsEmpty (each loaded found) fatal

/-- A disk with one script, an alias for it that would be blank and one that is not, and a log file. -/
def aliasDisk : Disk :=
  ⟨[(["s"], .directory), (["r"], .directory), (["l"], .file []),
    (["s", "a.xml"], .file "<r><filter><csimple> a </csimple></filter></r>".toUTF8.toList),
    (["r", "camel-csimple.properties"], .file "a = \u2003\n a\u3000= ==\u2003\na=\u0085\n".toUTF8.toList)]⟩

def aliasSite : Site := ⟨"a", .predicate, none, .absolute ["s", "a.xml"], .document⟩

/-- The fault of the site when its script has become an operator. -/
def aliasFatal : Fatal := ⟨aliasSite, .syntaxFault ⟨.expectedOperand "==", 0⟩⟩

def aliasRun : Except RunFault Outcome × Progress :=
  (run ⟨⟨[], .absolute [], []⟩, some ⟨["l"], true, "t"⟩⟩ { scriptSettings with resourceDir := some (.absolute ["r"]) }
    [.document] false).run.run ⟨aliasDisk, []⟩

theorem run_never_empty_operator :
    Configuration.load aliasDisk [] (.absolute ["r", "camel-csimple.properties"]) = .ok ⟨[], [("a", "==")]⟩ ∧
    aliasSite ∈ (extract aliasDisk [] .document (.absolute ["s", "a.xml"])).2.sites ∧
    (∃ x ∈ Alias.expand [("a", "==")] aliasSite.script, ¬x.isBlank) ∧
    compile ⟨[], [("a", "==")]⟩ aliasSite 1 = .error (.fatal aliasFatal) ∧
    aliasRun.1 = .error (.fatal aliasFatal) ∧ ¬aliasFatal.RejectsEmpty := by
  have loaded : Configuration.load aliasDisk [] (.absolute ["r", "camel-csimple.properties"]) =
      .ok ⟨[], [("a", "==")]⟩ := Fallible.ok_of_toOption (by decide +kernel)
  have found : aliasSite ∈ (extract aliasDisk [] .document (.absolute ["s", "a.xml"])).2.sites := by decide +kernel
  have failed : compile ⟨[], [("a", "==")]⟩ aliasSite 1 = .error (.fatal aliasFatal) :=
    Fallible.error_of_fault? (by decide +kernel)
  have ran : aliasRun.1 = .error (.fatal aliasFatal) := Fallible.error_of_fault? (by decide +kernel)
  obtain ⟨sites, runs⟩ := run_never_empty
  exact ⟨loaded, found, (sites loaded found).1, failed, ran, runs _ _ _ _ _ aliasFatal ran⟩

end Generation

end RouteScript
