import RouteScript.Proofs.Files.WriteAccess
import RouteScript.Proofs.Output.WriteFaults

/-!
# The log of a writer

A writer is asked for updates one after another, and goes on after an update that fails. The answer to an update tells
what the update found and what it did to the disk (`attempt_isFaithful`). So after any number of updates every file has
the content of the last one that succeeded, and the writer lists the paths of those that changed something
(`attempts_faithful`).
-/

namespace RouteScript.Writer

/-! ### One update -/

theorem holds_eq_true_iff {d : Disk} {cwd : List Text} {p : Path} {text : Text} {bytes : Bytes}
    (encoded : text.toUtf8 = .ok bytes) : holds d cwd p bytes = .ok true ↔ Holds d cwd p text := by
  constructor
  · intro held
    obtain ⟨there, located⟩ := holds_true held
    obtain rfl := (Disk.locate_ok located).1
    exact ⟨bytes, encoded, located⟩
  · rintro ⟨bytes', encoded', located⟩
    cases encoded.symm.trans encoded'
    rw [holds, Disk.inspect_eq_some_iff.mpr located]
    exact congrArg Except.ok (beq_self_eq_true _)

/-- Writing that fails has made directories at most. -/
theorem writeThrough_error {d d' : Disk} {cwd : List Text} {p : Path} {bytes : Bytes} {fault : FileFault}
    (failed : writeThrough d cwd p bytes = (d', .error fault)) : Disk.Changes [] d d' := by
  have above := d.makeDirectories_changes cwd p.parent
  unfold writeThrough at failed
  split at failed
  · rename_i made
    cases failed
    rwa [made] at above
  · rename_i made
    rw [made] at above
    split at failed
    · cases failed
    · cases failed
      exact above

/-- What an update does: it finds the text and does nothing, or it writes the text, or it fails. -/
theorem update_cases {w : Writer} {text : Text} {bytes : Bytes} (wet : w.dryRun = false)
    (encoded : text.toUtf8 = .ok bytes) (d : Disk) (cwd : List Text) (p : Path) :
    (w.update d cwd p text = (d, .ok (w, false)) ∧ Holds d cwd p text) ∨
    (∃ d', w.update d cwd p text = (d', .ok ({ w with written := w.written ++ [p] }, true)) ∧
      ¬Holds d cwd p text ∧ d.Admits cwd p ∧ Holds d' cwd p text ∧ Disk.Changes [p.target cwd] d d') ∨
    ∃ d' fault, w.update d cwd p text = (d', .error fault) ∧ ¬d.Admits cwd p ∧ Disk.Changes [] d d' := by
  unfold update
  rw [encoded]
  dsimp only
  cases asked : holds d cwd p bytes with
  | error fault =>
    rcases Fallible.bind_error asked with long | ⟨_, _, impossible⟩
    · exact Or.inr (Or.inr ⟨d, _, rfl, fun admits => admits.short (Disk.inspect_hasLongName long).2, .refl⟩)
    · cases impossible
  | ok held =>
    cases held with
    | true => exact Or.inl ⟨rfl, (holds_eq_true_iff encoded).mp asked⟩
    | false =>
      have other : ¬Holds d cwd p text := by
        intro held
        cases asked.symm.trans ((holds_eq_true_iff encoded).mpr held)
      dsimp only
      rw [if_neg (by simp [wet])]
      cases written : writeThrough d cwd p bytes with
      | mk d' result =>
        cases result with
        | error fault =>
          refine Or.inr (Or.inr ⟨d', _, rfl, ?_, writeThrough_error written⟩)
          intro admits
          obtain ⟨_, succeeded⟩ := writeThrough_ok_iff.mpr admits
          cases written.symm.trans succeeded
        | ok _ =>
          obtain ⟨there, located, change⟩ := writeThrough_changes written
          obtain rfl := (Disk.locate_ok located).1
          exact Or.inr (Or.inl ⟨d', rfl, other, writeThrough_ok_iff.mp ⟨d', written⟩, ⟨bytes, encoded, located⟩, change⟩)

/-! ### Attempts -/

/-- An update that was tried: what was to be written where, what came of it, and the disk before and after. -/
structure Attempt where
  path : Path
  text : Text
  before : Disk
  answer : Except WriteFault Bool
  after : Disk

/-- Tries an update. After a fault the writer is as it was. -/
def attempt (w : Writer) (d : Disk) (cwd : List Text) (p : Path) (text : Text) : Attempt × Writer :=
  match w.update d cwd p text with
  | (d', .ok (w', changed)) => (⟨p, text, d, .ok changed, d'⟩, w')
  | (d', .error fault) => (⟨p, text, d, .error fault, d'⟩, w)

/-- Tries updates one after another: the attempts in order, the disk after them and the writer. -/
def attempts (w : Writer) (d : Disk) (cwd : List Text) : List (Path × Text) → List Attempt × Disk × Writer
  | [] => ([], d, w)
  | (p, text) :: rest =>
    let (first, w') := w.attempt d cwd p text
    let (later, d', w'') := w'.attempts first.after cwd rest
    (first :: later, d', w'')

namespace Attempt

def succeeded (a : Attempt) : Bool := a.answer.toBool

def changed (a : Attempt) : Bool := a.answer.toOption = some true

/-- The answer tells what the update found and what it did. It fails only where something is in the way, and then it
blames the path. -/
structure IsFaithful (cwd : List Text) (a : Attempt) : Prop where
  found : a.answer = .ok false ↔ Holds a.before cwd a.path a.text
  found_other : a.answer = .ok true ↔ ¬Holds a.before cwd a.path a.text ∧ a.before.Admits cwd a.path
  fails_iff : a.succeeded = false ↔ ¬a.before.Admits cwd a.path
  blames : ∀ fault, a.answer = .error fault →
    (∃ reason, fault = .blocked a.path reason) ∨ ∃ reason, a.path.checkName = .error reason
  idle : a.answer = .ok false → a.after = a.before
  writes : a.answer = .ok true →
    Holds a.after cwd a.path a.text ∧ Disk.Keeps [a.path.target cwd] a.before a.after
  harmless : a.succeeded = false → Disk.Keeps [] a.before a.after

theorem IsFaithful.holds {cwd : List Text} {a : Attempt} (faithful : a.IsFaithful cwd) (succeeded : a.succeeded) :
    Holds a.after cwd a.path a.text := by
  cases answer : a.answer with
  | error fault => simp [Attempt.succeeded, answer, Except.toBool] at succeeded
  | ok changed =>
    cases changed with
    | true => exact (faithful.writes answer).1
    | false =>
      rw [faithful.idle answer]
      exact faithful.found.mp answer

/-- Only an attempt that succeeds touches a file, and only the one it is about. -/
theorem IsFaithful.keeps {cwd : List Text} {a : Attempt} (faithful : a.IsFaithful cwd) :
    Disk.Keeps (if a.succeeded then [a.path.target cwd] else []) a.before a.after := by
  cases answer : a.answer with
  | error fault =>
    have failed : a.succeeded = false := by simp [Attempt.succeeded, answer, Except.toBool]
    rw [failed]
    exact faithful.harmless failed
  | ok changed =>
    rw [if_pos (by simp [Attempt.succeeded, answer, Except.toBool])]
    cases changed with
    | true => exact (faithful.writes answer).2
    | false =>
      rw [faithful.idle answer]
      exact Disk.Keeps.refl _ a.before

end Attempt

theorem Holds.admits {d : Disk} {cwd : List Text} {p : Path} {text : Text} (held : Holds d cwd p text) :
    d.Admits cwd p := by
  obtain ⟨_, _, located⟩ := held
  exact Disk.admits_of_locate located

theorem attempt_isFaithful {w : Writer} {text : Text} {bytes : Bytes} (wet : w.dryRun = false)
    (encoded : text.toUtf8 = .ok bytes) (d : Disk) (cwd : List Text) (p : Path) :
    (w.attempt d cwd p text).1.IsFaithful cwd := by
  rcases update_cases wet encoded d cwd p with ⟨updated, held⟩ | ⟨d', updated, other, admits, held, change⟩ |
    ⟨d', fault, updated, refused, change⟩
  all_goals rw [attempt, updated]
  · have admits := held.admits
    constructor <;> simp [Attempt.succeeded, Except.toBool, held, admits]
  · constructor <;> simp [Attempt.succeeded, Except.toBool, other, admits, held, change.keeps]
  · have other : ¬Holds d cwd p text := fun held => refused held.admits
    constructor
    case blames =>
      rintro _ ⟨⟩
      cases update_error updated with
      | content surrogates unencodable => cases encoded.symm.trans unencodable
      | refusal reason => exact Or.inl ⟨reason, rfl⟩
      | name _ reason _ unnamed => exact Or.inr ⟨reason, unnamed⟩
    all_goals simp [Attempt.succeeded, Except.toBool, other, refused, change.keeps]

theorem attempt_writer {w : Writer} {text : Text} {bytes : Bytes} (wet : w.dryRun = false)
    (encoded : text.toUtf8 = .ok bytes) (d : Disk) (cwd : List Text) (p : Path) :
    (w.attempt d cwd p text).2 =
      { w with written := w.written ++ ([(w.attempt d cwd p text).1].filter (·.changed)).map (·.path) } := by
  rcases update_cases wet encoded d cwd p with ⟨updated, _⟩ | ⟨d', updated, _⟩ | ⟨d', fault, updated, _⟩
  all_goals
    rw [attempt, updated]
    simp [Attempt.changed, Except.toOption]

theorem attempt_asked (w : Writer) (d : Disk) (cwd : List Text) (p : Path) (text : Text) :
    (w.attempt d cwd p text).1.path = p ∧ (w.attempt d cwd p text).1.text = text ∧
      (w.attempt d cwd p text).1.before = d := by
  unfold attempt
  split <;> exact ⟨rfl, rfl, rfl⟩

/-! ### Attempts one after another -/

def reached (cwd : List Text) (log : List Attempt) : List (List Text) :=
  (log.filter (·.succeeded)).map (·.path.target cwd)

/-- What attempts come to that begin with the writer `w` on the disk `d` and end with `w'` on `d'`. -/
structure IsFaithfulLog (cwd : List Text) (w : Writer) (d : Disk) (log : List Attempt) (d' : Disk) (w' : Writer) :
    Prop where
  chained : log.map (·.before) ++ [d'] = d :: log.map (·.after)
  each : ∀ a ∈ log, a.IsFaithful cwd
  latest : ∀ front a behind, log = front ++ a :: behind → a.succeeded → a.path.target cwd ∉ reached cwd behind →
    Holds d' cwd a.path a.text
  keeps : Disk.Keeps (reached cwd log) d d'
  written : w'.written = w.written ++ (log.filter (·.changed)).map (·.path)

theorem IsFaithfulLog.cons {cwd : List Text} {w w' w'' : Writer} {a : Attempt} {log : List Attempt} {d' : Disk}
    (faithful : a.IsFaithful cwd) (listed : w'.written = w.written ++ ([a].filter (·.changed)).map (·.path))
    (later : IsFaithfulLog cwd w' a.after log d' w'') : IsFaithfulLog cwd w a.before (a :: log) d' w'' := by
  refine ⟨?_, List.forall_mem_cons.mpr ⟨faithful, later.each⟩, ?_, ?_, ?_⟩
  · rw [List.map_cons, List.map_cons, List.cons_append, later.chained]
  · intro front b behind split succeeded last
    cases front with
    | nil =>
      cases split
      exact (faithful.holds succeeded).keeps later.keeps last
    | cons c front =>
      cases split
      exact later.latest front b behind rfl succeeded last
  · have both := faithful.keeps.trans later.keeps
    refine both.mono ?_
    unfold reached
    rw [List.filter_cons]
    split <;> simp
  · rw [later.written, listed, List.append_assoc, ← List.map_append, ← List.filter_append]
    rfl

/-- A writer that is not dry logs what it does, whatever it is asked for and however many of its updates fail. -/
theorem attempts_faithful {w : Writer} {files : List (Path × Text)} (wet : w.dryRun = false)
    (encodable : ∀ x ∈ files, ∃ bytes, x.2.toUtf8 = .ok bytes) (d : Disk) (cwd : List Text) :
    ∃ log d' w', w.attempts d cwd files = (log, d', w') ∧ log.map (fun a => (a.path, a.text)) = files ∧
      IsFaithfulLog cwd w d log d' w' := by
  induction files generalizing w d with
  | nil => exact ⟨[], d, w, rfl, rfl, rfl, by simp, by simp, Disk.Keeps.refl _ d, by simp⟩
  | cons x files ih =>
    obtain ⟨p, text⟩ := x
    obtain ⟨⟨bytes, encoded⟩, rest⟩ := List.forall_mem_cons.mp encodable
    have faithful := attempt_isFaithful wet encoded d cwd p
    have writer := attempt_writer wet encoded d cwd p
    obtain ⟨path, asked, before⟩ := w.attempt_asked d cwd p text
    unfold attempts
    cases tried : w.attempt d cwd p text with
    | mk a w₁ =>
      rw [tried] at faithful writer path asked before
      dsimp only at faithful writer path asked before
      subst before
      obtain ⟨log, d', w', ran, calls, later⟩ := ih (w := w₁) (by rw [writer]; exact wet) rest a.after
      refine ⟨a :: log, d', w', ?_, ?_, later.cons faithful (by rw [writer])⟩
      · dsimp only
        rw [ran]
      · rw [List.map_cons, calls, path, asked]

/-- A disk with a file and a directory that are in the way. -/
def crowdedDisk : Disk := ⟨[(["f"], .file [97]), (["e"], .directory)]⟩

/-- Updates of which one finds its text, two fail, and two change the same file. -/
def crowdedFiles : List (Path × Text) :=
  [(.absolute ["f"], "a"), (.absolute ["g", "h"], "x"), (.absolute ["f", "k"], "y"), (.absolute ["e"], "z"),
    (.absolute ["g", "h"], "w")]

theorem attempts_faithful_crowded :
    ∃ log d' w', (Writer.new false).attempts crowdedDisk [] crowdedFiles = (log, d', w') ∧
      log.map (·.answer.toOption) = [some false, some true, none, none, some true] ∧
      w'.written = [.absolute ["g", "h"], .absolute ["g", "h"]] ∧
      Holds d' [] (.absolute ["g", "h"]) "w" ∧ d'.get? ["e"] = some .directory := by
  have encodable : ∀ x ∈ crowdedFiles, ∃ bytes, x.2.toUtf8 = .ok bytes := by
    have sure : ∀ x ∈ crowdedFiles, x.2.toUtf8.toOption.isSome := by decide +kernel
    intro x member
    obtain ⟨bytes, encoded⟩ := Option.isSome_iff_exists.mp (sure x member)
    exact ⟨bytes, Fallible.ok_of_toOption encoded⟩
  have facts : ∀ run, (Writer.new false).attempts crowdedDisk [] crowdedFiles = run →
      run.1.map (·.answer.toOption) = [some false, some true, none, none, some true] ∧
        (run.1.filter (·.changed)).map (·.path) = [.absolute ["g", "h"], .absolute ["g", "h"]] ∧
        run.1.getLast?.map (·.succeeded) = some true := by
    rintro _ rfl
    decide +kernel
  obtain ⟨log, d', w', ran, calls, faithful⟩ := attempts_faithful (w := .new false) rfl encodable crowdedDisk []
  obtain ⟨answers, changed, last⟩ := facts _ ran
  refine ⟨log, d', w', ran, answers, by rw [faithful.written, changed]; rfl, ?_, faithful.keeps.directories _ rfl⟩
  obtain ⟨a, final, succeeded⟩ := Option.map_eq_some_iff.mp last
  obtain ⟨front, rfl⟩ := List.getLast?_eq_some_iff.mp final
  have asked := congrArg List.getLast? calls
  rw [List.map_append, List.map_singleton, List.getLast?_concat] at asked
  obtain ⟨path, text⟩ := Prod.mk.inj (Option.some.inj asked)
  rw [← path, ← text]
  exact faithful.latest front a [] rfl succeeded (by simp [reached])

end RouteScript.Writer
