/-!
# Computations that may fail

What the parts of a computation gave when the whole of it succeeded.
-/

namespace RouteScript.Fallible

variable {ε ε' α β : Type}

/-- The result of a computation can be compared where the faults cannot. -/
theorem ok_of_toOption {x : Except ε α} {a : α} (h : x.toOption = some a) : x = .ok a := by
  cases x with
  | error e => cases h
  | ok b =>
    cases h
    rfl

def fault? : Except ε α → Option ε
  | .ok _ => none
  | .error e => some e

/-- The fault of a computation can be compared where the results cannot. -/
theorem error_of_fault? {x : Except ε α} {e : ε} (h : fault? x = some e) : x = .error e := by
  cases x with
  | error fault =>
    cases h
    rfl
  | ok a => cases h

theorem bind_ok {x : Except ε α} {f : α → Except ε β} {b : β} (h : x >>= f = .ok b) :
    ∃ a, x = .ok a ∧ f a = .ok b := by
  cases x with
  | error e => cases h
  | ok a => exact ⟨a, rfl, h⟩

theorem bind_error {x : Except ε α} {f : α → Except ε β} {e : ε} (h : x >>= f = .error e) :
    x = .error e ∨ ∃ a, x = .ok a ∧ f a = .error e := by
  cases x with
  | error fault =>
    cases h
    exact Or.inl rfl
  | ok a => exact Or.inr ⟨a, rfl, h⟩

theorem map_ok {x : Except ε α} {f : α → β} {b : β} (h : x.map f = .ok b) : ∃ a, x = .ok a ∧ f a = b := by
  cases x with
  | error e => cases h
  | ok a =>
    cases h
    exact ⟨a, rfl, rfl⟩

theorem mapError_ok {x : Except ε α} {f : ε → ε'} {a : α} (h : x.mapError f = .ok a) : x = .ok a := by
  cases x with
  | error e => cases h
  | ok b =>
    cases h
    rfl

theorem mapError_error {x : Except ε α} {f : ε → ε'} {e : ε'} (h : x.mapError f = .error e) :
    ∃ fault, x = .error fault ∧ f fault = e := by
  cases x with
  | error fault =>
    cases h
    exact ⟨fault, rfl, rfl⟩
  | ok a => cases h

theorem mapError_bind (x : Except ε α) (f : α → Except ε β) (g : ε → ε') :
    (x >>= f).mapError g = x.mapError g >>= fun a => (f a).mapError g := by
  cases x <;> rfl

theorem mapM_mapError {γ : Type} {f : α → Except ε β} {f' : γ → Except ε' β} {g : ε → ε'} {view : α → γ}
    (same : ∀ x, f' (view x) = (f x).mapError g) (xs : List α) :
    (xs.map view).mapM f' = (xs.mapM f).mapError g := by
  induction xs with
  | nil => rfl
  | cons x xs ih =>
    rw [List.map_cons, List.mapM_cons, List.mapM_cons, mapError_bind, same, ih]
    congr 1
    funext y
    rw [mapError_bind]
    rfl

theorem mapM_cons_ok {f : α → Except ε β} {x : α} {xs : List α} {ys : List β}
    (h : (x :: xs).mapM f = .ok ys) : ∃ y rest, f x = .ok y ∧ xs.mapM f = .ok rest ∧ ys = y :: rest := by
  rw [List.mapM_cons] at h
  obtain ⟨y, first, h⟩ := bind_ok h
  obtain ⟨rest, later, h⟩ := bind_ok h
  cases h
  exact ⟨y, rest, first, later, rfl⟩

/-- Every result comes from one of the inputs. -/
theorem mem_of_mapM_ok {f : α → Except ε β} {xs : List α} {ys : List β} (h : xs.mapM f = .ok ys) {y : β}
    (member : y ∈ ys) : ∃ x ∈ xs, f x = .ok y := by
  induction xs generalizing ys with
  | nil =>
    cases h
    cases member
  | cons x xs ih =>
    obtain ⟨z, rest, first, later, rfl⟩ := mapM_cons_ok h
    rcases List.mem_cons.mp member with rfl | member
    · exact ⟨x, List.mem_cons_self, first⟩
    · obtain ⟨u, present, made⟩ := ih later member
      exact ⟨u, List.mem_cons_of_mem _ present, made⟩

/-- Every input has a result. -/
theorem ok_of_mem_mapM {f : α → Except ε β} {xs : List α} {ys : List β} (h : xs.mapM f = .ok ys) {x : α}
    (member : x ∈ xs) : ∃ y, f x = .ok y := by
  induction xs generalizing ys with
  | nil => cases member
  | cons z xs ih =>
    obtain ⟨y, rest, first, later, rfl⟩ := mapM_cons_ok h
    rcases List.mem_cons.mp member with rfl | member
    · exact ⟨y, first⟩
    · exact ih later member

/-- A fault comes from one of the inputs. -/
theorem mem_of_mapM_error {f : α → Except ε β} {xs : List α} {e : ε} (h : xs.mapM f = .error e) :
    ∃ x ∈ xs, f x = .error e := by
  induction xs with
  | nil => cases h
  | cons x xs ih =>
    rw [List.mapM_cons] at h
    rcases bind_error h with first | ⟨y, _, h⟩
    · exact ⟨x, List.mem_cons_self, first⟩
    rcases bind_error h with later | ⟨ys, _, impossible⟩
    · obtain ⟨u, present, failed⟩ := ih later
      exact ⟨u, List.mem_cons_of_mem _ present, failed⟩
    · cases impossible

/-- A view of the results that each input determines. -/
theorem map_of_mapM_ok {γ : Type} {f : α → Except ε β} {view : β → γ} {key : α → γ} {xs : List α} {ys : List β}
    (h : xs.mapM f = .ok ys) (same : ∀ x y, f x = .ok y → view y = key x) : ys.map view = xs.map key := by
  induction xs generalizing ys with
  | nil =>
    cases h
    rfl
  | cons x xs ih =>
    obtain ⟨y, rest, first, later, rfl⟩ := mapM_cons_ok h
    rw [List.map_cons, List.map_cons, same x y first, ih later]

/-- Where two inputs of one result have one key, distinct keys make distinct results. -/
theorem nodup_of_mapM_ok {γ δ : Type} {f : α → Except ε β} {key : α → γ} {view : β → δ} {xs : List α}
    {ys : List β} (h : xs.mapM f = .ok ys) (distinct : (xs.map key).Nodup)
    (apart : ∀ x x' y y', f x = .ok y → f x' = .ok y' → view y = view y' → key x = key x') :
    (ys.map view).Nodup := by
  induction xs generalizing ys with
  | nil =>
    cases h
    exact List.nodup_nil
  | cons x xs ih =>
    obtain ⟨y, rest, first, later, rfl⟩ := mapM_cons_ok h
    rw [List.map_cons, List.nodup_cons] at distinct ⊢
    refine ⟨?_, ih later distinct.2⟩
    intro member
    obtain ⟨z, present, same⟩ := List.mem_map.mp member
    obtain ⟨u, source, made⟩ := mem_of_mapM_ok later present
    exact distinct.1 (List.mem_map.mpr ⟨u, source, apart u x z y made first same⟩)

end RouteScript.Fallible
