import RouteScript.Proofs.Project.RunEffect
import RouteScript.Proofs.Unit.Compilation

/-!
# Where a fatal script comes from

A log file on the disk of a project is written to while the run reads, so that what a run has loaded and extracted need
not be there when it ends. `run_fatal` says what is left with any log: a script that ends a run is one that was extracted
from a file, and was compiled with a configuration that was loaded.
-/

namespace RouteScript

namespace Run

variable {α β : Type}

/-- Whatever came before, a part of a run has such a result or such a fault. -/
structure Ends (m : Run α) (result : α → Prop) (fault : RunFault → Prop) : Prop where
  returns : ∀ p a, (m.run.run p).1 = .ok a → result a
  fails : ∀ p f, (m.run.run p).1 = .error f → fault f

variable {fault : RunFault → Prop}

theorem pure_ends {result : α → Prop} {a : α} (holds : result a) : Ends (pure a : Run α) result fault := by
  refine ⟨?_, ?_⟩
  · rintro p b ⟨⟩
    exact holds
  · rintro p f ⟨⟩

theorem throw_ends {result : α → Prop} {f : RunFault} (holds : fault f) : Ends (throw f : Run α) result fault := by
  refine ⟨?_, ?_⟩
  · rintro p a ⟨⟩
  · rintro p g ⟨⟩
    exact holds

theorem Ends.bind {m : Run α} {k : α → Run β} {result : α → Prop} {result' : β → Prop} (first : Ends m result fault)
    (next : ∀ a, result a → Ends (k a) result' fault) : Ends (m >>= k) result' fault := by
  have step : ∀ p, (∃ a q, result a ∧ (m >>= k).run.run p = (k a).run.run q) ∨
      ∃ f, fault f ∧ ((m >>= k).run.run p).1 = .error f := by
    intro p
    rw [run_bind]
    cases done : m.run.run p with
    | mk r q =>
      cases r with
      | ok a => exact Or.inl ⟨a, q, first.returns p a (by rw [done]), rfl⟩
      | error f => exact Or.inr ⟨f, first.fails p f (by rw [done]), rfl⟩
  refine ⟨?_, ?_⟩
  · intro p b done
    rcases step p with ⟨a, q, holds, same⟩ | ⟨f, _, failed⟩
    · rw [same] at done
      exact (next a holds).returns q b done
    · cases failed.symm.trans done
  · intro p f failed
    rcases step p with ⟨a, q, holds, same⟩ | ⟨g, holds, failed'⟩
    · rw [same] at failed
      exact (next a holds).fails q f failed
    · cases failed'.symm.trans failed
      exact holds

theorem Ends.andThen {m : Run α} {k : α → Run β} {result : β → Prop} (first : Ends m (fun _ => True) fault)
    (next : ∀ a, Ends (k a) result fault) : Ends (m >>= k) result fault :=
  first.bind fun a _ => next a

theorem disk_ends : Ends disk (fun _ => True) fault := by
  refine ⟨fun _ _ _ => trivial, ?_⟩
  rintro p f ⟨⟩

theorem note_ends (e : Surroundings) (r : Record) : Ends (note e r) (fun _ => True) fault := by
  refine ⟨fun _ _ _ => trivial, ?_⟩
  rintro p f ⟨⟩

theorem noteAll_ends (e : Surroundings) (records : List Record) : Ends (noteAll e records) (fun _ => True) fault := by
  induction records with
  | nil => exact pure_ends trivial
  | cons r records ih => exact (note_ends e r).andThen fun _ => ih

theorem ofExcept_ends {ε : Type} {f : ε → RunFault} {r : Except ε α} (holds : ∀ x, fault (f x)) :
    Ends (ofExcept f r) (fun a => r = .ok a) fault := by
  cases r with
  | ok a => exact pure_ends rfl
  | error x => exact throw_ends (holds x)

theorem onDisk_ends (f : Disk → Disk × Except WriteFault α) (holds : ∀ w, fault (.write w)) :
    Ends (onDisk f) (fun _ => True) fault := by
  refine disk_ends.andThen fun d => ?_
  refine Ends.andThen ⟨fun _ _ _ => trivial, by rintro p g ⟨⟩⟩ fun _ => ?_
  exact ⟨fun _ _ _ => trivial, (ofExcept_ends holds).fails⟩

end Run

namespace Generation

open Run

section Parts

variable {e : Surroundings} {path : Path} {fault : RunFault → Prop}

theorem configure_ends (holds : ∀ f, fault (.configuration f)) :
    Ends (configure e path) (fun c => ∃ d, Configuration.load d e.account.cwd path = .ok c) fault :=
  disk_ends.andThen fun d => (ofExcept_ends holds).bind fun _ loaded =>
    (noteAll_ends e _).andThen fun _ => pure_ends ⟨d, loaded⟩

theorem findFiles_ends (s : Settings) (holds : ∀ f, fault (.scan f)) :
    Ends (findFiles e s) (fun _ => True) fault :=
  disk_ends.andThen fun _ => (noteAll_ends e _).andThen fun _ => (ofExcept_ends holds).bind fun _ _ =>
    (note_ends e _).andThen fun _ => pure_ends trivial

/-- Each extraction was made on the disk as it was then. -/
theorem extractAll_ends (files : List SourceFile) :
    Ends (extractAll e files)
      (fun found => ∀ x ∈ found, ∃ d dialect file, x = (extract d e.account.cwd dialect file).2) fault := by
  induction files with
  | nil => exact pure_ends (by simp)
  | cons f files ih =>
    refine disk_ends.andThen fun d => (noteAll_ends e _).andThen fun _ => ih.bind fun rest found => ?_
    exact pure_ends (List.forall_mem_cons.mpr ⟨⟨d, f.dialect, f.path, rfl⟩, found⟩)

theorem compileSites_ends {c : Configuration} {sites : List Site}
    (holds : ∀ units f, compileAll c sites = (units, some (.fatal f)) → fault (.fatal f))
    (oversized : ∀ digits, fault (.oversizedInteger digits)) :
    Ends (compileSites e c sites) (fun _ => True) fault := by
  unfold compileSites
  cases compiled : compileAll c sites with
  | mk units ended =>
    refine (noteAll_ends e _).andThen fun _ => ?_
    cases ended with
    | none => exact pure_ends trivial
    | some ended =>
      cases ended with
      | oversizedInteger digits => exact throw_ends (oversized digits)
      | fatal f => exact (note_ends e _).andThen fun _ => throw_ends (holds units f compiled)

theorem writeUnits_ends (directory : Path) (units : List GeneratedUnit) (w : Writer) (holds : ∀ w, fault (.write w)) :
    Ends (writeUnits e directory units w) (fun _ => True) fault := by
  induction units generalizing w with
  | nil => exact pure_ends trivial
  | cons u units ih =>
    refine (onDisk_ends _ holds).andThen fun x => ?_
    dsimp only
    split
    · exact (note_ends e _).andThen fun _ => ih _
    · exact ih _

theorem writeManifest_ends (directory : Path) (units : List GeneratedUnit) (w : Writer) (holds : ∀ w, fault (.write w)) :
    Ends (writeManifest e directory units w) (fun _ => True) fault := by
  refine (onDisk_ends _ holds).andThen fun x => ?_
  dsimp only
  split
  · exact (note_ends e _).andThen fun _ => pure_ends trivial
  · exact pure_ends trivial

theorem produce_ends (outputDir resourceDir : Path) {c : Configuration} {found : List Extraction} (dryRun : Bool)
    (holds : ∀ units f, compileAll c (found.flatMap (·.sites)) = (units, some (.fatal f)) → fault (.fatal f))
    (oversized : ∀ digits, fault (.oversizedInteger digits)) (unwritten : ∀ w, fault (.write w)) :
    Ends (produce e outputDir resourceDir c found dryRun) (fun _ => True) fault := by
  unfold produce
  dsimp only
  split
  · exact (note_ends e _).andThen fun _ => pure_ends trivial
  · refine (note_ends e _).andThen fun _ => (compileSites_ends holds oversized).andThen fun units => ?_
    refine (writeUnits_ends _ _ _ unwritten).andThen fun w => (writeManifest_ends _ _ _ unwritten).andThen fun x => ?_
    split
    · exact (note_ends e _).andThen fun _ => pure_ends trivial
    · exact pure_ends trivial

end Parts

/-- The site was extracted from some file, and the configuration loaded from `path`, when its script turned out to be
fatal. -/
def IsFatalSite (cwd : List Text) (path : Path) (f : Fatal) : Prop :=
  ∃ d d' c dialect file site, ∃ n : Nat, Configuration.load d cwd path = .ok c ∧
    site ∈ (extract d' cwd dialect file).2.sites ∧ compile c site n = .error (.fatal f)

theorem run_fatal {e : Surroundings} {s : Settings} {dialects : List Dialect} {dryRun : Bool} {p : Progress} {f : Fatal}
    (failed : ((run e s dialects dryRun).run.run p).1 = .error (.fatal f)) :
    ∃ path, s.configurationPath = some path ∧ IsFatalSite e.account.cwd path f := by
  let fault : RunFault → Prop := fun x =>
    ∀ g, x = .fatal g → ∃ path, s.configurationPath = some path ∧ IsFatalSite e.account.cwd path g
  -- Only compiling raises such a fault, so that every other step has to say no more than that its faults are none.
  have other : ∀ x, (∀ g, x ≠ .fatal g) → fault x := fun x never g same => absurd same (never g)
  have ended : Ends (run e s dialects dryRun) (fun _ => True) fault := by
    unfold run
    refine (note_ends e _).andThen fun _ => ?_
    split
    · split
      · split
        · rename_i path configured
          refine (configure_ends fun x => other _ (by simp)).bind fun c ⟨d, loaded⟩ => ?_
          refine (findFiles_ends s fun x => other _ (by simp)).andThen fun files => ?_
          refine (extractAll_ends _).bind fun found extracted => ?_
          refine produce_ends _ _ _ ?_ (fun x => other _ (by simp)) (fun x => other _ (by simp))
          rintro units g compiled _ ⟨⟩
          obtain ⟨site, member, n, fatal⟩ := compileAll_fault compiled
          obtain ⟨x, present, inside⟩ := List.mem_flatMap.mp member
          obtain ⟨d', dialect, file, rfl⟩ := extracted x present
          exact ⟨path, configured, d, d', c, dialect, file, site, n, loaded, inside, fatal⟩
        · exact throw_ends (other _ (by simp))
      · exact throw_ends (other _ (by simp))
    · exact throw_ends (other _ (by simp))
  exact ended.fails p _ failed f rfl

end Generation

end RouteScript
