import TrustedAppId.Proofs.FileTree.Storing
/-! Trees in which texts have been stored by given paths and by no others. The paths are followed in
the tree as it was to begin with; storing a text leads no path elsewhere. -/
namespace TrustedAppId.FileTree

/-- Nothing but the files that the paths lead to has changed; some of these files may be new. -/
structure ChangesOnly (paths : List String) (old new : FileTree) : Prop where
  extends' : Extends old new
  elsewhere : ∀ place, (∀ path ∈ paths, old.resolve .create path ≠ .ok place) →
    new.get? place = old.get? place

variable {old new : FileTree} {path : String} {paths : List String}

theorem Stores.changesOnly {contents : Contents} {place : Location}
    (h : Stores old path contents new place) (mem : path ∈ paths) : ChangesOnly paths old new := by
  refine ⟨h.extends', ?_⟩
  intro other others
  apply h.elsewhere
  rintro rfl
  exact others path mem h.led

namespace ChangesOnly

theorem refl (paths : List String) (tree : FileTree) : ChangesOnly paths tree tree :=
  ⟨.refl tree, fun _ _ => rfl⟩

theorem trans {a b c : FileTree} (first : ChangesOnly paths a b) (second : ChangesOnly paths b c) :
    ChangesOnly paths a c := by
  refine ⟨first.extends'.trans second.extends', ?_⟩
  intro place others
  have others' : ∀ path ∈ paths, b.resolve .create path ≠ .ok place := by
    intro path mem led
    exact others path mem (first.extends'.resolve_back led)
  exact (second.elsewhere place others').trans (first.elsewhere place others)

/-- What no path leads to any more has been kept as it was. -/
theorem kept (h : ChangesOnly paths old new) {place : Location}
    (others : ∀ path ∈ paths, new.resolve .lookup path ≠ .ok place) :
    new.get? place = old.get? place := by
  apply h.elsewhere
  intro path mem led
  exact others path mem (h.extends'.resolve led (by decide))

theorem directory_iff (h : ChangesOnly paths old new) (place : Location) :
    new.get? place = some .directory ↔ old.get? place = some .directory :=
  h.extends'.directory_iff place

end ChangesOnly

end TrustedAppId.FileTree
