import Mathlib.Data.List.Nodup
import Mathlib.Data.List.Perm.Basic
import RouteScript.Proofs.Fallible
import RouteScript.Proofs.Text.Parts
import RouteScript.Script.Call

/-!
# The table of functions

A function is one of the fixed names or has one of the shapes, the three spellings of a lookup counted as shapes of
their own. Every shape begins in its own way: `Entry.fronts` are the texts that it can begin with, and no front of one
shape begins a front of another or a fixed name. So at most one entry of the table applies to a body, and the order in
which the entries are tried does not matter (`table_unambiguous`).
-/

namespace RouteScript.Script

/-! ### Entries -/

inductive Spelling where
  | point
  | brackets
  | colon
  deriving DecidableEq, Repr

def Spelling.all : List Spelling := [.point, .brackets, .colon]

def Spelling.opening : Spelling → Text
  | .point => "."
  | .brackets => "["
  | .colon => ":"

def Spelling.closing : Spelling → Text
  | .brackets => "]"
  | .point | .colon => []

def Spelling.key? (s : Spelling) (name body : Text) : Option Text := do
  let rest ← Text.after? (name ++ s.opening) body
  let key ← s.closing.isSuffixOf? rest
  if key ≠ [] && isOneLine key then some key else none

def spelled? (source : Lookup) (s : Spelling) (body : Text) : Option Call :=
  source.names.findSome? fun name => (s.key? name body).map fun key => .lookup source (unquote key)

/-- A fixed name with its code, or a shape. -/
inductive Entry where
  | constant (name code : Text)
  | typed (accessor : TypedAccessor)
  | spelled (source : Lookup) (s : Spelling)
  | date
  | random
  | properties
  | staticField
  | empty
  deriving DecidableEq, Repr

namespace Entry

def call? : Entry → Text → Option Call
  | .constant name code, body => if body = name then some (.constant code) else none
  | .typed accessor, body => typed? accessor body
  | .spelled source s, body => spelled? source s body
  | .date, body => date? body
  | .random, body => random? body
  | .properties, body => properties? body
  | .staticField, body => staticField? body
  | .empty, body => empty? body

/-- The texts that a body begins with where the entry applies to it. -/
def fronts : Entry → List Text
  | .constant name _ => [name]
  | .typed accessor => [accessor.name ++ "("]
  | .spelled source s => source.names.map (· ++ s.opening)
  | .date => ["date:"]
  | .random => ["random("]
  | .properties => ["properties:"]
  | .staticField => ["type:"]
  | .empty => ["empty("]

end Entry

def constantEntries : List Entry := constants.map fun x => .constant x.1 x.2

def shapeEntries : List Entry :=
  [.typed .bodyAs, .typed .mandatoryBodyAs, .typed .headerAs, .typed .exchangePropertyAs, .typed .variableAs] ++
    [Lookup.header, .exchangeProperty, .variable, .sys, .sysenv].flatMap (fun source => Spelling.all.map (.spelled source)) ++
    [.date, .random, .properties, .staticField, .empty]

def table : List Entry := constantEntries ++ shapeEntries

def codeBy (entries : List Entry) (body : Text) : Except SyntaxCause Text :=
  let expression := Text.strip body
  (entries.findSome? (·.call? expression)).elim (.error (.unknownFunction expression)) fun call =>
    call.strayChain?.elim (.ok call.code) fun x => .error (.strayChain expression x.1 x.2)

/-! ### The first that gives something -/

section First

variable {α β : Type} {f : α → Option β}

theorem findSome?_eq_some_iff_of_agree {l : List α}
    (agree : ∀ a ∈ l, ∀ b ∈ l, ∀ x y, f a = some x → f b = some y → x = y) {x : β} :
    l.findSome? f = some x ↔ ∃ a ∈ l, f a = some x := by
  constructor
  · exact List.exists_of_findSome?_eq_some
  · rintro ⟨a, member, gives⟩
    have some : (l.findSome? f).isSome := List.findSome?_isSome_iff.mpr ⟨a, member, by rw [gives]; rfl⟩
    obtain ⟨y, found⟩ := Option.isSome_iff_exists.mp some
    obtain ⟨b, member', gives'⟩ := List.exists_of_findSome?_eq_some found
    rw [found, agree a member b member' x y gives gives']

theorem findSome?_flatMap {γ : Type} (g : γ → List α) (l : List γ) :
    (l.flatMap g).findSome? f = l.findSome? fun c => (g c).findSome? f := by
  induction l with
  | nil => rfl
  | cons c l ih =>
    rw [List.flatMap_cons, List.findSome?_append, ih, List.findSome?_cons]
    cases (g c).findSome? f <;> rfl

end First

/-! ### How entries begin -/

theorem constant_call? {name code body : Text} {call : Call} (applies : (Entry.constant name code).call? body = some call) :
    body = name := by
  rw [Entry.call?] at applies
  split at applies
  · assumption
  · cases applies

theorem Entry.begins {e : Entry} {body : Text} {call : Call} (applies : e.call? body = some call) :
    ∃ front ∈ e.fronts, front <+: body := by
  have found : ∀ {β : Type} {front : Text} {f : Text → Option β} {x : β},
      Text.after? front body >>= f = some x → front <+: body := by
    intro β front f x read
    obtain ⟨rest, after, _⟩ := Option.bind_eq_some_iff.mp read
    exact ⟨rest, (Text.after?_eq_some_iff.mp after).symm⟩
  cases e with
  | constant name code => exact ⟨name, List.mem_singleton_self _, by rw [constant_call? applies]⟩
  | spelled source s =>
    obtain ⟨name, member, read⟩ := List.exists_of_findSome?_eq_some applies
    obtain ⟨key, read, _⟩ := Option.map_eq_some_iff.mp read
    exact ⟨name ++ s.opening, List.mem_map_of_mem member, found read⟩
  | _ => exact ⟨_, List.mem_singleton_self _, found applies⟩

/-- No front begins another one or a fixed name, and the fixed names differ. -/
theorem fronts_apart :
    (∀ e ∈ shapeEntries, ∀ e' ∈ shapeEntries, ∀ front ∈ e.fronts, ∀ front' ∈ e'.fronts,
        front <+: front' → e = e' ∧ front = front') ∧
      (∀ e ∈ shapeEntries, ∀ front ∈ e.fronts, ∀ x ∈ constants, ¬front <+: x.1) ∧
      (constants.map Prod.fst).Nodup := by
  decide +kernel

theorem front_unique {e e' : Entry} (member : e ∈ shapeEntries) (member' : e' ∈ shapeEntries) {front front' body : Text}
    (known : front ∈ e.fronts) (known' : front' ∈ e'.fronts) (begins : front <+: body) (begins' : front' <+: body) :
    e = e' ∧ front = front' := by
  rcases List.prefix_or_prefix_of_prefix begins begins' with first | second
  · exact fronts_apart.1 e member e' member' front known front' known' first
  · exact (fronts_apart.1 e' member' e member front' known' front known second).imp Eq.symm Eq.symm

theorem shape_not_constant {e : Entry} (shape : e ∈ shapeEntries) {x : Text × Text} (fixed : x ∈ constants) {call : Call} :
    e.call? x.1 ≠ some call := by
  intro applies
  obtain ⟨front, known, begins⟩ := Entry.begins applies
  exact fronts_apart.2.1 e shape front known x fixed begins

theorem Entry.unique {e e' : Entry} (member : e ∈ table) (member' : e' ∈ table) {body : Text} {call call' : Call}
    (applies : e.call? body = some call) (applies' : e'.call? body = some call') : e = e' := by
  rcases List.mem_append.mp member with fixed | shape
  · obtain ⟨x, known, rfl⟩ := List.mem_map.mp fixed
    obtain rfl := constant_call? applies
    rcases List.mem_append.mp member' with fixed' | shape'
    · obtain ⟨y, known', rfl⟩ := List.mem_map.mp fixed'
      rw [List.inj_on_of_nodup_map fronts_apart.2.2 known known' (constant_call? applies')]
    · exact absurd applies' (shape_not_constant shape' known)
  · rcases List.mem_append.mp member' with fixed' | shape'
    · obtain ⟨y, known', rfl⟩ := List.mem_map.mp fixed'
      obtain rfl := constant_call? applies'
      exact absurd applies (shape_not_constant shape known')
    · obtain ⟨front, known, begins⟩ := Entry.begins applies
      obtain ⟨front', known', begins'⟩ := Entry.begins applies'
      exact (front_unique shape shape' known known' begins begins').1

/-! ### The spellings of a lookup -/

structure Spelling.Writes (s : Spelling) (name key body : Text) : Prop where
  written : body = name ++ s.opening ++ key ++ s.closing
  filled : key ≠ []
  oneLine : isOneLine key

/-- `body` asks for a key in the spelling `s`, and `call` is that lookup. -/
def Asks (source : Lookup) (s : Spelling) (body : Text) (call : Call) : Prop :=
  ∃ name ∈ source.names, ∃ key, s.Writes name key body ∧ .lookup source (unquote key) = call

theorem spelled_mem (source : Lookup) (s : Spelling) : .spelled source s ∈ shapeEntries := by
  cases source <;> cases s <;> decide

theorem Spelling.Writes.begins {s : Spelling} {name key body : Text} (writes : s.Writes name key body) :
    name ++ s.opening <+: body :=
  ⟨key ++ s.closing, by rw [writes.written, List.append_assoc _ key]⟩

theorem Asks.unique {source : Lookup} {s s' : Spelling} {body : Text} {call call' : Call} (asks : Asks source s body call)
    (asks' : Asks source s' body call') : call = call' := by
  obtain ⟨name, known, key, writes, rfl⟩ := asks
  obtain ⟨name', known', key', writes', rfl⟩ := asks'
  obtain ⟨entry, front⟩ := front_unique (spelled_mem source s) (spelled_mem source s') (List.mem_map_of_mem known)
    (List.mem_map_of_mem known') writes.begins writes'.begins
  cases entry
  have same := writes.written.symm.trans writes'.written
  rw [front] at same
  rw [List.append_cancel_left (List.append_cancel_right same)]

theorem Spelling.key?_eq_some_iff {s : Spelling} {name body key : Text} :
    s.key? name body = some key ↔ s.Writes name key body := by
  simp only [Spelling.key?, Option.bind_eq_bind, Option.bind_eq_some_iff, Text.after?_eq_some_iff,
    List.isSuffixOf?_eq_some_iff_append_eq, Option.ite_none_right_eq_some, Option.some.injEq]
  constructor
  · rintro ⟨_, rfl, key, rfl, accepted, rfl⟩
    rw [Bool.and_eq_true, decide_eq_true_eq] at accepted
    exact ⟨(List.append_assoc ..).symm, accepted.1, accepted.2⟩
  · rintro ⟨rfl, filled, oneLine⟩
    exact ⟨key ++ s.closing, List.append_assoc .., key, rfl, by simp [filled, oneLine], rfl⟩

theorem lookupKey?_eq_some_iff {name rest key : Text} :
    lookupKey? rest = some key ↔ ∃ s : Spelling, s.Writes name key (name ++ rest) := by
  constructor
  · intro read
    have checked : ∀ t : Text, (if t ≠ [] && isOneLine t then some t else none) = some key →
        t = key ∧ key ≠ [] ∧ isOneLine key := by
      intro t read
      rw [Option.ite_none_right_eq_some] at read
      obtain ⟨accepted, same⟩ := read
      cases same
      simpa using accepted
    unfold lookupKey? at read
    split at read
    · obtain ⟨rfl, filled, oneLine⟩ := checked _ read
      exact ⟨.point, by simp [Spelling.opening, Spelling.closing, Text.ofString], filled, oneLine⟩
    · obtain ⟨rfl, filled, oneLine⟩ := checked _ read
      exact ⟨.colon, by simp [Spelling.opening, Spelling.closing, Text.ofString], filled, oneLine⟩
    · split at read
      · rename_i last
        obtain ⟨rfl, filled, oneLine⟩ := checked _ read
        obtain ⟨front, rfl⟩ := List.getLast?_eq_some_iff.mp last
        exact ⟨.brackets, by simp [Spelling.opening, Spelling.closing, Text.ofString], filled, oneLine⟩
      · cases read
    · cases read
  · rintro ⟨s, written, filled, oneLine⟩
    simp only [List.append_assoc, List.append_cancel_left_eq] at written
    subst written
    cases s <;> simp [Spelling.opening, Spelling.closing, Text.ofString, lookupKey?, filled, oneLine]

theorem spelled?_eq_some_iff {source : Lookup} {s : Spelling} {body : Text} {call : Call} :
    spelled? source s body = some call ↔ Asks source s body call := by
  have under : ∀ name, ∀ x, (s.key? name body).map (fun key => Call.lookup source (unquote key)) = some x ↔
      ∃ key, s.Writes name key body ∧ .lookup source (unquote key) = x := by
    intro name x
    simp only [Option.map_eq_some_iff, Spelling.key?_eq_some_iff]
  rw [spelled?, findSome?_eq_some_iff_of_agree]
  · exact exists_congr fun name => and_congr_right fun _ => under name call
  · intro name known name' known' x y read read'
    exact Asks.unique ⟨name, known, (under name x).mp read⟩ ⟨name', known', (under name' y).mp read'⟩

theorem lookup?_eq_some_iff {source : Lookup} {body : Text} {call : Call} :
    lookup? source body = some call ↔ ∃ s, Asks source s body call := by
  have under : ∀ name, ∀ x,
      (do let key ← lookupKey? (← Text.after? name body)
          return Call.lookup source (unquote key)) = some x ↔
        ∃ s : Spelling, ∃ key, s.Writes name key body ∧ .lookup source (unquote key) = x := by
    intro name x
    simp only [Option.bind_eq_bind, Option.bind_eq_some_iff, Text.after?_eq_some_iff]
    constructor
    · rintro ⟨rest, rfl, key, read, same⟩
      cases same
      obtain ⟨s, writes⟩ := lookupKey?_eq_some_iff.mp read
      exact ⟨s, key, writes, rfl⟩
    · rintro ⟨s, key, writes, rfl⟩
      obtain ⟨rest, rfl⟩ : ∃ rest, body = name ++ rest :=
        ⟨s.opening ++ key ++ s.closing, by rw [writes.written, List.append_assoc, List.append_assoc, List.append_assoc]⟩
      exact ⟨rest, rfl, key, lookupKey?_eq_some_iff.mpr ⟨s, writes⟩, rfl⟩
  rw [lookup?, findSome?_eq_some_iff_of_agree]
  · constructor
    · rintro ⟨name, known, read⟩
      obtain ⟨s, asks⟩ := (under name call).mp read
      exact ⟨s, name, known, asks⟩
    · rintro ⟨s, name, known, asks⟩
      exact ⟨name, known, (under name call).mpr ⟨s, asks⟩⟩
  · intro name known name' known' x y read read'
    obtain ⟨s, asks⟩ := (under name x).mp read
    obtain ⟨s', asks'⟩ := (under name' y).mp read'
    exact Asks.unique ⟨name, known, asks⟩ ⟨name', known', asks'⟩

theorem lookup?_eq_findSome? (source : Lookup) (body : Text) :
    lookup? source body = Spelling.all.findSome? (spelled? source · body) := by
  ext call
  rw [lookup?_eq_some_iff, findSome?_eq_some_iff_of_agree]
  · constructor
    · rintro ⟨s, asks⟩
      exact ⟨s, by cases s <;> decide, spelled?_eq_some_iff.mpr asks⟩
    · rintro ⟨s, _, read⟩
      exact ⟨s, spelled?_eq_some_iff.mp read⟩
  · intro s _ s' _ x y read read'
    exact (spelled?_eq_some_iff.mp read).unique (spelled?_eq_some_iff.mp read')

/-! ### The whole table -/

theorem constant?_eq_findSome? (body : Text) : constant? body = constantEntries.findSome? (·.call? body) := by
  rw [constant?, constantEntries, List.lookup_eq_findSome?, List.map_findSome?, List.findSome?_map]
  congr 1
  funext x
  by_cases same : body = x.1 <;> simp [Entry.call?, same]

theorem patterns_eq_findSome? (body : Text) :
    (patterns.findSome? fun p => p body) = shapeEntries.findSome? (·.call? body) := by
  have grouped : patterns =
      [TypedAccessor.bodyAs, .mandatoryBodyAs, .headerAs, .exchangePropertyAs, .variableAs].map typed? ++
        [Lookup.header, .exchangeProperty, .variable, .sys, .sysenv].map lookup? ++
        [date?, random?, properties?, staticField?, empty?] := rfl
  have lookups : ∀ source, (Spelling.all.map (Entry.spelled source)).findSome? (·.call? body) = lookup? source body := by
    intro source
    rw [lookup?_eq_findSome?, List.findSome?_map]
    rfl
  rw [grouped, shapeEntries]
  simp only [List.findSome?_append, List.findSome?_map, findSome?_flatMap, lookups]
  rfl

theorem call?_eq_findSome? (body : Text) : call? body = table.findSome? (·.call? body) := by
  rw [call?, constant?_eq_findSome?, patterns_eq_findSome?, table, List.findSome?_append, Option.orElse_eq_orElse,
    Option.orElse_eq_or]

theorem findSome?_eq_some_iff_of_subset {entries : List Entry} (within : entries ⊆ table) {body : Text} {call : Call} :
    entries.findSome? (·.call? body) = some call ↔ ∃ e ∈ entries, e.call? body = some call := by
  apply findSome?_eq_some_iff_of_agree
  intro e member e' member' x y applies applies'
  rw [Entry.unique (within member) (within member') applies applies', applies'] at applies
  exact (Option.some.inj applies).symm

theorem call?_eq_some_iff {body : Text} {call : Call} : call? body = some call ↔ ∃ e ∈ table, e.call? body = some call := by
  rw [call?_eq_findSome?, findSome?_eq_some_iff_of_subset (List.Subset.refl table)]

theorem findSome?_of_perm {order : List Entry} (reordered : order.Perm table) (body : Text) :
    order.findSome? (·.call? body) = call? body := by
  ext call
  rw [call?_eq_some_iff, findSome?_eq_some_iff_of_subset reordered.subset]
  exact exists_congr fun e => and_congr_left fun _ => reordered.mem_iff

theorem nodup_table : table.Nodup := by
  have names : constants.Nodup := List.Nodup.of_map Prod.fst fronts_apart.2.2
  have fixed : constantEntries.Nodup := by
    refine names.map fun x y same => ?_
    obtain ⟨name, code⟩ := Entry.constant.inj same
    exact Prod.ext name code
  have shapes : shapeEntries.Nodup := by decide
  refine List.nodup_append.mpr ⟨fixed, shapes, ?_⟩
  rintro e member _ shape rfl
  obtain ⟨x, known, rfl⟩ := List.mem_map.mp member
  exact shape_not_constant shape known (if_pos rfl)

/-- No two entries of the table of functions apply to the same body, so that their order does not matter. -/
theorem table_unambiguous (body : Text) :
    (table.Pairwise fun e e' => ¬((e.call? (Text.strip body)).isSome ∧ (e'.call? (Text.strip body)).isSome)) ∧
      ∀ order : List Entry, order.Perm table → codeBy order body = functionCode body := by
  constructor
  · refine nodup_table.imp_of_mem fun member member' different => ?_
    rintro ⟨applies, applies'⟩
    obtain ⟨call, applies⟩ := Option.isSome_iff_exists.mp applies
    obtain ⟨call', applies'⟩ := Option.isSome_iff_exists.mp applies'
    exact different (Entry.unique member member' applies applies')
  · intro order reordered
    rw [codeBy, functionCode, findSome?_of_perm reordered]
    cases call? (Text.strip body) with
    | none => rfl
    | some call =>
      dsimp only [Option.elim_some]
      cases call.strayChain? <;> rfl

/-- The shapes from the last to the first and the fixed names behind them. -/
theorem table_unambiguous_reversed :
    (shapeEntries.reverse ++ constantEntries).Perm table ∧
      codeBy (shapeEntries.reverse ++ constantEntries) " exception.message " = .ok "exceptionMessage(exchange)" ∧
      codeBy (shapeEntries.reverse ++ constantEntries) "headerAs(a, int)b" =
        .error (.strayChain "headerAs(a, int)b" "b" "headerAs") := by
  have reordered : (shapeEntries.reverse ++ constantEntries).Perm table :=
    List.perm_append_comm.trans ((List.reverse_perm shapeEntries).append_left constantEntries)
  refine ⟨reordered, ?_, ?_⟩
  · rw [(table_unambiguous " exception.message ").2 _ reordered]
    exact Fallible.ok_of_toOption (by decide +kernel)
  · rw [(table_unambiguous "headerAs(a, int)b").2 _ reordered]
    exact Fallible.error_of_fault? (by decide +kernel)

end RouteScript.Script
