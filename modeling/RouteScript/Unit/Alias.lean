import RouteScript.Text.WordCharacter

/-!
# Aliases

An alias is a text that stands for another wherever it stands as a token: a word character at its
edge must not touch another word character. `expand` replaces aliases from left to right, the longest
one that fits first, and does not look at the replacements again.
-/

namespace RouteScript

abbrev Alias := Text × Text

namespace Alias

def before (a b : Alias) : Bool :=
  if a.1.length = b.1.length then Text.le a.1 b.1 else decide (b.1.length < a.1.length)

def separate (x y : Option CodePoint) : Bool :=
  !(x.any CodePoint.isWord && y.any CodePoint.isWord)

/-- The alias stands as a token at the beginning of `t`, where `previous` is the code point before. -/
def standsAt (previous : Option CodePoint) (t : Text) (a : Alias) : Bool :=
  match Text.after? a.1 t with
  | none => false
  | some rest => separate previous a.1.head? && separate a.1.getLast? rest.head?

/-- Replaces the aliases in `t`. The aliases are in the order in which they are tried. -/
def expandFrom (aliases : List Alias) (previous : Option CodePoint) : Text → Text
  | [] => []
  | c :: t =>
    match aliases.find? (standsAt previous (c :: t)) with
    | some (key, expansion) =>
      -- The rest is preceded by the end of the key, not by that of the expansion.
      expansion ++ expandFrom aliases key.getLast? (t.drop (key.length - 1))
    | none => c :: expandFrom aliases (some c) t
termination_by t => t.length
decreasing_by all_goals (simp only [List.length_drop, List.length_cons]; omega)

def expand (aliases : List Alias) (script : Text) : Text :=
  expandFrom (aliases.mergeSort before) none script

structure EmptyKey where
  deriving DecidableEq, Repr

def EmptyKey.message : EmptyKey → Text := fun _ => "string index out of range"

def checked (aliases : List Alias) : Except EmptyKey (List Alias) :=
  if aliases.any (·.1 = []) then .error ⟨⟩ else .ok aliases

def insert (aliases : List Alias) (key expansion : Text) : List Alias :=
  if aliases.any (·.1 = key) then
    -- A key that is given again keeps its place.
    aliases.map fun a => if a.1 = key then (key, expansion) else a
  else aliases ++ [(key, expansion)]

end Alias

end RouteScript
