import RouteScript.Proofs.Files.MissingFiles

/-!
# Why operations on paths fail

A path can be given to the system unless one of its names holds what no name can hold (`checkName_iff`), and then every
fault is a refusal of the system. Whether something is there can be asked of every path but one with a name that is too
long (`inspect_hasLongName`).
-/

namespace RouteScript

namespace Path

def HasLongName (p : Path) : Prop := ∃ name ∈ p.names, maxNameBytes < nameBytes name

end Path

namespace Disk

theorem follow_append {d : Disk} {here front there : List Text}
    (followed : d.follow here front = .ok (there, some .directory)) (rest : List Text) :
    d.follow here (front ++ rest) = d.follow there rest := by
  fun_induction follow d here front with
  | case1 here =>
    cases followed
    rfl
  | case2 here front ih =>
    rw [List.cons_append, follow_back]
    exact ih followed
  | case3 => cases followed
  | case4 here name front proper short next directory ih =>
    rw [List.cons_append, follow_down proper short directory]
    exact ih followed
  | case5 here name proper short next noDirectory =>
    obtain ⟨_, found⟩ := Prod.mk.inj (Except.ok.inj followed)
    exact absurd found noDirectory
  | case6 => cases followed

theorem follow_hasLongName {d : Disk} {here names : List Text} (failed : d.follow here names = .error .nameTooLong) :
    ∃ name ∈ names, maxNameBytes < nameBytes name := by
  fun_induction follow d here names with
  | case1 => cases failed
  | case2 here rest ih =>
    obtain ⟨name, member, long⟩ := ih failed
    exact ⟨name, List.mem_cons_of_mem _ member, long⟩
  | case3 here name rest _ long => exact ⟨name, List.mem_cons_self, long⟩
  | case4 here name rest _ _ next directory ih =>
    obtain ⟨name, member, long⟩ := ih failed
    exact ⟨name, List.mem_cons_of_mem _ member, long⟩
  | case5 => cases failed
  | case6 here name rest _ _ next found _ =>
    split at failed <;> cases failed

/-- Asking for what is there fails only at a name that is too long. -/
theorem inspect_hasLongName {d : Disk} {cwd : List Text} {p : Path} {fault : FileFault}
    (failed : d.inspect cwd p = .error fault) : fault = .refused .nameTooLong p ∧ p.HasLongName := by
  obtain ⟨q, rfl, refused⟩ := inspect_error_iff.mp failed
  obtain ⟨rfl, _, long⟩ := locate_nameTooLong_iff.mp refused
  exact ⟨rfl, follow_hasLongName long⟩

end Disk

def FileFault.IsRefusal (fault : FileFault) : Prop := ∃ code p, fault = .refused code p

namespace Disk

theorem locate_isRefusal {d : Disk} {cwd : List Text} {p : Path} {fault : FileFault} (named : p.checkName = .ok ())
    (failed : d.locate cwd p = .error fault) : fault.IsRefusal := by
  rw [locate, named] at failed
  obtain ⟨code, _, rfl⟩ := Fallible.mapError_error failed
  exact ⟨code, p, rfl⟩

theorem makeDirectory_isRefusal {d : Disk} {cwd : List Text} {p : Path} {fault : FileFault}
    (named : p.checkName = .ok ()) (failed : d.makeDirectory cwd p = .error fault) : fault.IsRefusal := by
  rcases Fallible.bind_error failed with failed | ⟨⟨there, found⟩, _, failed⟩
  · exact locate_isRefusal named failed
  · cases found with
    | none => cases failed
    | some e =>
      cases failed
      exact ⟨_, _, rfl⟩

theorem settle_error {d d' : Disk} {cwd : List Text} {p : Path} {fault fault' : FileFault}
    (settled : d.settle cwd p fault = (d', .error fault')) : fault' = fault := by
  unfold settle at settled
  split at settled
  · cases settled
  · cases settled
    rfl

theorem makeDirectories_isRefusal {d d' : Disk} {cwd : List Text} {p : Path} {fault : FileFault}
    (named : p.checkName = .ok ()) (failed : d.makeDirectories cwd p = (d', .error fault)) : fault.IsRefusal := by
  fun_induction Disk.makeDirectories d cwd p generalizing d' with
  | case1 => cases failed
  | case2 =>
    cases failed
    exact ⟨_, _, rfl⟩
  | case3 p q first filled between fault' above ih =>
    cases failed
    exact ih (Path.checkName_parent named) above
  | case4 => cases failed
  | case5 =>
    cases failed
    exact ⟨_, _, rfl⟩
  | case6 p q first filled between above fault' _ second ih =>
    obtain rfl := settle_error failed
    exact makeDirectory_isRefusal named second
  | case7 p fault' first second =>
    obtain rfl := settle_error failed
    exact makeDirectory_isRefusal named second

theorem write_isRefusal {d : Disk} {cwd : List Text} {p : Path} {content : Bytes} {fault : FileFault}
    (named : p.checkName = .ok ()) (failed : d.write cwd p content = .error fault) : fault.IsRefusal := by
  rcases Fallible.bind_error failed with failed | ⟨⟨there, found⟩, _, failed⟩
  · exact locate_isRefusal named failed
  · cases found with
    | none => cases failed
    | some e =>
      cases e with
      | file _ => cases failed
      | directory =>
        cases failed
        exact ⟨_, _, rfl⟩

end Disk

end RouteScript
