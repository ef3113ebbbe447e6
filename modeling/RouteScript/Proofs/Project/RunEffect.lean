import RouteScript.Proofs.Output.Writing
import RouteScript.Project.Generation

/-!
# What a run does to the disk

Without a log file the records of a run do not touch the disk, so that the effect of a run is a function of
the disk alone. `plan` is all that a run works out before it writes, and `run_performs` says that a run
makes its plan on the disk as it was and then brings the planned files to their texts.
-/

namespace RouteScript

namespace Run

variable {α β : Type}

/-- The part of a run changes the disk and gives its result as `f` says, whatever the records are. -/
def Performs (m : Run α) (f : Disk → Disk × Except RunFault α) : Prop :=
  ∀ p : Progress, ((m.run.run p).2.disk, (m.run.run p).1) = f p.disk

/-- One effect and then another that goes on from its result. -/
def andThen (f : Disk → Disk × Except RunFault α) (g : α → Disk → Disk × Except RunFault β) (d : Disk) :
    Disk × Except RunFault β :=
  match f d with
  | (d', .ok a) => g a d'
  | (d', .error fault) => (d', .error fault)

theorem Performs.of_eq {m : Run α} {f g : Disk → Disk × Except RunFault α} (performed : Performs m f)
    (same : ∀ d, f d = g d) : Performs m g := fun p => (performed p).trans (same p.disk)

theorem pure_performs (a : α) : Performs (pure a) fun d => (d, .ok a) := fun _ => rfl

theorem throw_performs (fault : RunFault) : Performs (throw fault : Run α) fun d => (d, .error fault) :=
  fun _ => rfl

theorem run_bind (m : Run α) (k : α → Run β) (p : Progress) :
    (m >>= k).run.run p =
      match m.run.run p with
      | (.ok a, q) => (k a).run.run q
      | (.error fault, q) => (.error fault, q) := by
  change (ExceptT.bindCont k (m.run.run p).1).run (m.run.run p).2 = _
  cases m.run.run p with
  | mk result q => cases result <;> rfl

theorem Performs.bind {m : Run α} {f : Disk → Disk × Except RunFault α} {k : α → Run β}
    {g : α → Disk → Disk × Except RunFault β} (first : Performs m f) (next : ∀ a, Performs (k a) (g a)) :
    Performs (m >>= k) (andThen f g) := by
  intro p
  have effect := first p
  rw [run_bind, andThen, ← effect]
  cases m.run.run p with
  | mk result q =>
    cases result with
    | ok a => exact next a q
    | error fault => rfl

theorem disk_performs : Performs disk fun d => (d, .ok d) := fun _ => rfl

theorem note_performs (a : Account) (r : Record) : Performs (note ⟨a, none⟩ r) fun d => (d, .ok ()) :=
  fun _ => rfl

theorem noteAll_performs (a : Account) (records : List Record) :
    Performs (noteAll ⟨a, none⟩ records) fun d => (d, .ok ()) := by
  induction records with
  | nil => exact pure_performs ()
  | cons r records ih => exact (note_performs a r).bind fun _ => ih

theorem ofExcept_performs {ε : Type} (f : ε → RunFault) (r : Except ε α) :
    Performs (ofExcept f r) fun d => (d, r.mapError f) := by
  cases r with
  | ok a => exact pure_performs a
  | error fault => exact throw_performs (f fault)

theorem onDisk_performs (f : Disk → Disk × Except WriteFault α) :
    Performs (onDisk f) fun d => ((f d).1, (f d).2.mapError .write) := by
  intro p
  change ((ofExcept RunFault.write (f p.disk).2).run.run { p with disk := (f p.disk).1 } |>.2.disk, _) = _
  exact ofExcept_performs RunFault.write (f p.disk).2 { p with disk := (f p.disk).1 }

end Run

namespace Generation

open Run

/-! ### Reading -/

theorem configure_performs (a : Account) (path : Path) :
    Performs (configure ⟨a, none⟩ path) fun d => (d, (Configuration.load d a.cwd path).mapError .configuration) := by
  have steps := disk_performs.bind fun d =>
    (ofExcept_performs RunFault.configuration (Configuration.load d a.cwd path)).bind fun c =>
      (noteAll_performs a (c.records path)).bind fun _ => pure_performs c
  intro p
  refine (steps p).trans ?_
  simp only [andThen]
  cases Configuration.load p.disk a.cwd path <;> rfl

theorem findFiles_performs (a : Account) (s : Settings) :
    Performs (findFiles ⟨a, none⟩ s) fun d => (d, ((scanOf s).run d a).2.mapError .scan) := by
  have steps := disk_performs.bind fun d =>
    (noteAll_performs a ((scanOf s).run d a).1).bind fun _ =>
      (ofExcept_performs RunFault.scan ((scanOf s).run d a).2).bind fun files =>
        (note_performs a ⟨.debug, .pipeline, "Scanner discovered " ++ Text.ofNat files.length ++ " candidate files"⟩).bind
          fun _ => pure_performs files
  intro p
  refine (steps p).trans ?_
  simp only [andThen]
  cases ((scanOf s).run p.disk a).2 <;> rfl

/-- What extraction finds in files. -/
def extractions (d : Disk) (cwd : List Text) (files : List SourceFile) : List Extraction :=
  files.map fun f => (extract d cwd f.dialect f.path).2

theorem extractAll_performs (a : Account) (files : List SourceFile) :
    Performs (extractAll ⟨a, none⟩ files) fun d => (d, .ok (extractions d a.cwd files)) := by
  induction files with
  | nil => exact pure_performs []
  | cons f files ih =>
    have steps := disk_performs.bind fun d =>
      (noteAll_performs a (extract d a.cwd f.dialect f.path).1).bind fun _ =>
        ih.bind fun rest => pure_performs ((extract d a.cwd f.dialect f.path).2 :: rest)
    intro p
    exact (steps p).trans rfl

/-- The fault that ends a run when the compilation fails. -/
def ofCompileFault : CompileFault → RunFault
  | .fatal f => .fatal f
  | .oversizedInteger digits => .oversizedInteger digits

def unitsOf (c : Configuration) (sites : List Site) : Except RunFault (List GeneratedUnit) :=
  match compileAll c sites with
  | (units, none) => .ok units
  | (_, some fault) => .error (ofCompileFault fault)

theorem compileSites_performs (a : Account) (c : Configuration) (sites : List Site) :
    Performs (compileSites ⟨a, none⟩ c sites) fun d => (d, unitsOf c sites) := by
  unfold compileSites unitsOf
  cases compileAll c sites with
  | mk units fault =>
    have recorded := noteAll_performs a (units.map (·.record))
    cases fault with
    | none => exact recorded.bind fun _ => pure_performs units
    | some fault =>
      cases fault with
      | oversizedInteger digits => exact recorded.bind fun _ => throw_performs (.oversizedInteger digits)
      | fatal f =>
        exact recorded.bind fun _ => (note_performs a ⟨.error, .pipeline, f.describe⟩).bind fun _ =>
          throw_performs (.fatal f)

/-! ### Writing -/

def writes (w : Writer) (cwd : List Text) (files : List (Path × Text)) (d : Disk) :
    Disk × Except RunFault Writer :=
  ((w.updateAll d cwd files).1, (w.updateAll d cwd files).2.mapError .write)

theorem writes_append (w : Writer) (cwd : List Text) (xs ys : List (Path × Text)) :
    writes w cwd (xs ++ ys) = andThen (writes w cwd xs) fun w' => writes w' cwd ys := by
  funext d
  simp only [writes, andThen, Writer.updateAll_append]
  cases w.updateAll d cwd xs with
  | mk d' result => cases result <;> rfl

def unitFiles (directory : Path) (units : List GeneratedUnit) : List (Path × Text) :=
  units.map fun u => (directory.join u.file, u.source)

theorem writeUnits_performs (a : Account) (directory : Path) (units : List GeneratedUnit) (w : Writer) :
    Performs (writeUnits ⟨a, none⟩ directory units w) (writes w a.cwd (unitFiles directory units)) := by
  induction units generalizing w with
  | nil => exact pure_performs w
  | cons u units ih =>
    have rest : ∀ x : Writer × Bool, Performs
        (if x.2 then do
          report ⟨a, none⟩ .info ("Generated csimple source code file: " ++ u.file.toText)
          writeUnits ⟨a, none⟩ directory units x.1
        else writeUnits ⟨a, none⟩ directory units x.1)
        (writes x.1 a.cwd (unitFiles directory units)) := by
      intro x
      split
      · exact (note_performs a _).bind fun _ => ih x.1
      · exact ih x.1
    have steps := (onDisk_performs fun d => w.update d a.cwd (directory.join u.file) u.source).bind rest
    intro p
    refine (steps p).trans ?_
    simp only [andThen, writes, unitFiles, List.map_cons, Writer.updateAll]
    cases w.update p.disk a.cwd (directory.join u.file) u.source with
    | mk d result => cases result <;> rfl

/-- The manifest of units below a directory, when there is anything to list. -/
def manifestFile (directory : Path) (units : List GeneratedUnit) : Option (Path × Text) :=
  (Manifest.render (units.map (·.identity))).map fun text => (directory.join Manifest.file, text)

theorem writeManifest_performs (a : Account) (directory : Path) (units : List GeneratedUnit) (w : Writer) :
    Performs (writeManifest ⟨a, none⟩ directory units w)
      (andThen (writes w a.cwd (manifestFile directory units).toList) fun after d =>
        (d, .ok (after, (manifestFile directory units).map Prod.fst))) := by
  have rest : ∀ x : Writer × Option Path, Performs
      (if w.written.length < x.1.written.length then do
        report ⟨a, none⟩ .info ("Generated csimple resource file: " ++ (x.2.map Path.toText).getD [])
        pure x
      else pure x) fun d => (d, .ok x) := by
    intro x
    split
    · exact (note_performs a _).bind fun _ => pure_performs x
    · exact pure_performs x
  have steps := (onDisk_performs fun d =>
    Manifest.write w d a.cwd directory (units.map (·.identity))).bind rest
  intro p
  refine (steps p).trans ?_
  simp only [andThen, writes, manifestFile, Manifest.write]
  cases Manifest.render (units.map (·.identity)) with
  | none => rfl
  | some text =>
    simp only [Option.map_some, Option.toList_some, Writer.updateAll]
    cases w.update p.disk a.cwd (directory.join Manifest.file) text with
    | mk d result => cases result <;> rfl

/-! ### The whole run -/

/-- What a run works out before it writes. -/
structure Plan where
  outputDir : Path
  resourceDir : Path
  sites : List Site
  units : List GeneratedUnit
  warnings : List (Path × Text)

/-- The files that a run brings to their texts. -/
def Plan.files (p : Plan) : List (Path × Text) :=
  unitFiles p.outputDir p.units ++ (manifestFile p.resourceDir p.units).toList

/-- The configuration and the extractions of a project, as far as they can be read. -/
def discover (a : Account) (s : Settings) (dialects : List Dialect) (configurationPath : Path) (d : Disk) :
    Except RunFault (Configuration × List Extraction) := do
  let c ← (Configuration.load d a.cwd configurationPath).mapError .configuration
  let files ← ((scanOf s).run d a).2.mapError .scan
  return (c, extractions d a.cwd (ordered dialects files))

theorem discover_ok {a : Account} {s : Settings} {dialects : List Dialect} {path : Path} {d : Disk}
    {c : Configuration} {found : List Extraction} (discovered : discover a s dialects path d = .ok (c, found)) :
    Configuration.load d a.cwd path = .ok c ∧
      ∃ files, ((scanOf s).run d a).2 = .ok files ∧ found = extractions d a.cwd (ordered dialects files) := by
  obtain ⟨_, loaded, discovered⟩ := Fallible.bind_ok discovered
  obtain ⟨files, scanned, discovered⟩ := Fallible.bind_ok discovered
  cases discovered
  exact ⟨Fallible.mapError_ok loaded, files, Fallible.mapError_ok scanned, rfl⟩

/-- The plan of a run, which depends on the disk before it. -/
def plan (a : Account) (s : Settings) (dialects : List Dialect) (d : Disk) : Except RunFault Plan :=
  match s.outputDir, s.outputResourceDir, s.configurationPath with
  | some outputDir, some resourceDir, some configurationPath => do
    let (c, found) ← discover a s dialects configurationPath d
    let sites := found.flatMap (·.sites)
    let units ← unitsOf c sites
    return ⟨outputDir, resourceDir, sites, units, warningsOf found⟩
  | some _, some _, none => .error .noResourceDirectory
  | _, _, _ => .error .noOutputDirectory

/-- What a run with this plan does. Without sites it writes nothing. -/
def carryOut (cwd : List Text) (dryRun : Bool) (p : Plan) (d : Disk) : Disk × Except RunFault Outcome :=
  if p.sites = [] then (d, .ok ⟨[], [], [], none, p.warnings, dryRun⟩)
  else
    andThen (writes (.new dryRun) cwd p.files) (fun w d => (d, .ok
      ⟨p.sites, p.units, w.written, (manifestFile p.resourceDir p.units).map Prod.fst, p.warnings, dryRun⟩)) d

/-- Compiling and writing, where the sites are known. -/
theorem produce_performs (a : Account) (outputDir resourceDir : Path) (c : Configuration)
    (found : List Extraction) (dryRun : Bool) :
    Performs (produce ⟨a, none⟩ outputDir resourceDir c found dryRun) fun d =>
      match unitsOf c (found.flatMap (·.sites)) with
      | .error fault => (d, .error fault)
      | .ok units => carryOut a.cwd dryRun
          ⟨outputDir, resourceDir, found.flatMap (·.sites), units, warningsOf found⟩ d := by
  unfold produce
  generalize found.flatMap (·.sites) = sites
  by_cases empty : sites = []
  · subst empty
    exact (note_performs a _).bind fun _ => pure_performs _
  · have finished : ∀ units (x : Writer × Option Path), Performs
        (if dryRun then do
          report ⟨a, none⟩ .info
            ("Dry-run completed; " ++ Text.ofNat x.1.written.length ++ " file(s) would change")
          pure (⟨sites, units, x.1.written, x.2, warningsOf found, dryRun⟩ : Outcome)
        else pure ⟨sites, units, x.1.written, x.2, warningsOf found, dryRun⟩)
        fun d => (d, .ok ⟨sites, units, x.1.written, x.2, warningsOf found, dryRun⟩) := by
      intro units x
      split
      · exact (note_performs a _).bind fun _ => pure_performs _
      · exact pure_performs _
    dsimp only
    rw [if_neg empty]
    refine ((note_performs a _).bind fun _ => (compileSites_performs a c sites).bind fun units =>
      (writeUnits_performs a outputDir units (.new dryRun)).bind fun w =>
        (writeManifest_performs a resourceDir units w).bind (finished units)).of_eq fun d => ?_
    dsimp only [andThen]
    cases unitsOf c sites with
    | error fault => rfl
    | ok units =>
      simp only [carryOut, if_neg empty, Plan.files, writes_append, andThen]
      cases writes (.new dryRun) a.cwd (unitFiles outputDir units) d with
      | mk d' result =>
        cases result with
        | error fault => rfl
        | ok w =>
          dsimp only
          cases writes w a.cwd (manifestFile resourceDir units).toList d' with
          | mk d'' result => cases result <;> rfl

/-- A run makes its plan on the disk as it is and then carries it out. -/
theorem run_performs (a : Account) (s : Settings) (dialects : List Dialect) (dryRun : Bool) :
    Performs (run ⟨a, none⟩ s dialects dryRun) fun d =>
      match plan a s dialects d with
      | .error fault => (d, .error fault)
      | .ok p => carryOut a.cwd dryRun p d := by
  have started := note_performs a ⟨.info, .pipeline, "Starting csimple generation for " ++ s.root.toText⟩
  unfold run plan
  cases s.outputDir with
  | none => exact started.bind fun _ => throw_performs .noOutputDirectory
  | some outputDir =>
    cases s.outputResourceDir with
    | none => exact started.bind fun _ => throw_performs .noOutputDirectory
    | some resourceDir =>
      cases s.configurationPath with
      | none => exact started.bind fun _ => throw_performs .noResourceDirectory
      | some configurationPath =>
        refine (started.bind fun _ => (configure_performs a configurationPath).bind fun c =>
          (findFiles_performs a s).bind fun files => (extractAll_performs a (ordered dialects files)).bind
            fun found => produce_performs a outputDir resourceDir c found dryRun).of_eq fun d => ?_
        dsimp only [andThen, discover, bind, Except.bind]
        cases Configuration.load d a.cwd configurationPath with
        | error fault => rfl
        | ok c =>
          dsimp only [Except.mapError]
          cases ((scanOf s).run d a).2 with
          | error fault => rfl
          | ok files =>
            dsimp only [pure, Except.pure]
            cases unitsOf c ((extractions d a.cwd (ordered dialects files)).flatMap (·.sites)) <;> rfl

/-- A run ends where it cannot be planned, or with its plan carried out. -/
theorem run_cases {a : Account} {s : Settings} {dialects : List Dialect} {dryRun : Bool}
    {before after : Progress} {result : Except RunFault Outcome}
    (ran : (run ⟨a, none⟩ s dialects dryRun).run.run before = (result, after)) :
    (∃ fault, plan a s dialects before.disk = .error fault ∧ result = .error fault ∧ after.disk = before.disk) ∨
    ∃ p, plan a s dialects before.disk = .ok p ∧
      carryOut a.cwd dryRun p before.disk = (after.disk, result) := by
  have effect := run_performs a s dialects dryRun before
  rw [ran] at effect
  dsimp only at effect
  split at effect
  · rename_i fault planned
    obtain ⟨same, failed⟩ := Prod.mk.inj effect
    exact Or.inl ⟨fault, planned, failed, same⟩
  · rename_i p planned
    exact Or.inr ⟨p, planned, effect.symm⟩

/-- A plan is carried out by doing nothing, where it has no sites, or by updating its files. -/
theorem carryOut_cases {cwd : List Text} {dryRun : Bool} {p : Plan} {d d' : Disk}
    {result : Except RunFault Outcome} (done : carryOut cwd dryRun p d = (d', result)) :
    (p.sites = [] ∧ d' = d ∧ result = .ok ⟨[], [], [], none, p.warnings, dryRun⟩) ∨
    ∃ written, (Writer.new dryRun).updateAll d cwd p.files = (d', written) ∧
      result = (written.mapError .write).map fun w =>
        ⟨p.sites, p.units, w.written, (manifestFile p.resourceDir p.units).map Prod.fst, p.warnings, dryRun⟩ := by
  unfold carryOut at done
  split at done
  · rename_i empty
    cases done
    exact Or.inl ⟨empty, rfl, rfl⟩
  · dsimp only [andThen, writes] at done
    cases updated : (Writer.new dryRun).updateAll d cwd p.files with
    | mk after written =>
      rw [updated] at done
      cases written with
      | error fault =>
        cases done
        exact Or.inr ⟨_, rfl, rfl⟩
      | ok w =>
        cases done
        exact Or.inr ⟨_, rfl, rfl⟩

theorem carryOut_empty (cwd : List Text) (dryRun : Bool) {p : Plan} (empty : p.sites = []) (d : Disk) :
    carryOut cwd dryRun p d = (d, .ok ⟨[], [], [], none, p.warnings, dryRun⟩) := by
  rw [carryOut, if_pos empty]

theorem carryOut_updated {cwd : List Text} {dryRun : Bool} {p : Plan} {d d' : Disk} {w : Writer}
    (filled : p.sites ≠ []) (updated : (Writer.new dryRun).updateAll d cwd p.files = (d', .ok w)) :
    carryOut cwd dryRun p d = (d', .ok
      ⟨p.sites, p.units, w.written, (manifestFile p.resourceDir p.units).map Prod.fst, p.warnings, dryRun⟩) := by
  rw [carryOut, if_neg filled, andThen, writes, updated]
  rfl

/-- A run with a plan ends as the plan is carried out. -/
theorem run_of_plan {a : Account} {s : Settings} {dialects : List Dialect} {dryRun : Bool} {d d' : Disk} {p : Plan}
    {result : Except RunFault Outcome} (planned : plan a s dialects d = .ok p)
    (done : carryOut a.cwd dryRun p d = (d', result)) (records : List Record) :
    ∃ records', (run ⟨a, none⟩ s dialects dryRun).run.run ⟨d, records⟩ = (result, ⟨d', records'⟩) := by
  have effect := run_performs a s dialects dryRun ⟨d, records⟩
  simp only [planned, done] at effect
  cases ran : (run ⟨a, none⟩ s dialects dryRun).run.run ⟨d, records⟩ with
  | mk outcome after =>
    rw [ran] at effect
    obtain ⟨rfl, rfl⟩ := Prod.mk.inj effect
    exact ⟨after.records, rfl⟩

/-- A run that succeeds with sites has written all the files of its plan. -/
theorem run_ok {a : Account} {s : Settings} {dialects : List Dialect} {dryRun : Bool} {before after : Progress}
    {o : Outcome} (ran : (run ⟨a, none⟩ s dialects dryRun).run.run before = (.ok o, after))
    (filled : o.sites ≠ []) :
    ∃ p w, plan a s dialects before.disk = .ok p ∧ o.sites = p.sites ∧ o.units = p.units ∧
      (Writer.new dryRun).updateAll before.disk a.cwd p.files = (after.disk, .ok w) := by
  rcases run_cases ran with ⟨_, _, impossible, _⟩ | ⟨p, planned, done⟩
  · cases impossible
  rcases carryOut_cases done with ⟨_, _, nothing⟩ | ⟨written, updated, result⟩
  · cases nothing
    exact absurd rfl filled
  · obtain ⟨w, sound, rfl⟩ := Fallible.map_ok result.symm
    obtain rfl := Fallible.mapError_ok sound
    exact ⟨p, w, planned, rfl, rfl, updated⟩

/-- A run that fails has no plan, and then the disk is as it was, or it fails to write. -/
theorem run_error {a : Account} {s : Settings} {dialects : List Dialect} {dryRun : Bool}
    {before after : Progress} {fault : RunFault}
    (ran : (run ⟨a, none⟩ s dialects dryRun).run.run before = (.error fault, after)) :
    (plan a s dialects before.disk = .error fault ∧ after.disk = before.disk) ∨ ∃ w, fault = .write w := by
  rcases run_cases ran with ⟨_, failed, same, unchanged⟩ | ⟨p, _, done⟩
  · cases same
    exact Or.inl ⟨failed, unchanged⟩
  rcases carryOut_cases done with ⟨_, _, impossible⟩ | ⟨written, _, result⟩
  · cases impossible
  · cases written with
    | error w =>
      cases result
      exact Or.inr ⟨w, rfl⟩
    | ok w => cases result

end Generation

end RouteScript
