import TrustedAppId.Proofs.FileTree.Changes
import TrustedAppId.Proofs.FileTree.Writable
/-! Storing again. A text that is stored where it already stands changes nothing, and two texts that
have been stored one after the other can be stored again in that order, be it at two places or at
one. The trees are then the same entry for entry, and not just for every path. -/
namespace TrustedAppId.FileTree

variable {tree old between new : FileTree} {path other : String} {place place' : Location}
  {entry : Entry} {contents contents' : Contents} {paths : List String}

theorem put_put (place : Location) (first second : Entry) (entries : List (Location × Entry)) :
    put place second (put place first entries) = put place second entries := by
  induction entries with
  | nil => simp only [put, if_true]
  | cons here rest ih =>
    obtain ⟨name, old⟩ := here
    by_cases same : name = place
    · simp only [put, same, if_true]
    · simp only [put, same, if_false, ih]

theorem put_of_lookup {entries : List (Location × Entry)}
    (found : entries.lookup place = some entry) : put place entry entries = entries := by
  induction entries with
  | nil => contradiction
  | cons here rest ih =>
    obtain ⟨name, old⟩ := here
    by_cases same : place = name
    · subst same
      rw [List.lookup_cons_self, Option.some.injEq] at found
      rw [put, if_pos rfl, found]
    · rw [List.lookup_cons, beq_false_of_ne same] at found
      rw [put, if_neg (Ne.symm same), ih found]

theorem set_set (tree : FileTree) (place : Location) (first second : Entry) :
    (tree.set place first).set place second = tree.set place second := by
  simp only [set, put_put]

theorem set_of_get? (proper : place ≠ []) (found : tree.get? place = some entry) :
    tree.set place entry = tree := by
  rw [get?, if_neg proper] at found
  rw [set, put_of_lookup found]

theorem ne_nil_of_file (file : tree.get? place = some (.file contents)) : place ≠ [] := by
  rintro rfl
  rw [get?, if_pos rfl] at file
  cases file

namespace Stores

theorem write_again (stores : Stores old path contents new place) :
    new.write path contents = .ok new := by
  refine write_eq_ok_iff.mpr ⟨place, stores.extends'.resolve stores.led (by decide), ?_,
    set_of_get? (ne_nil_of_file stores.stored) stores.stored⟩
  rw [stores.stored]
  exact nofun

/-- The first text may have been lost to the second one. It is then lost again. -/
theorem write_both_again (first : Stores old path contents between place)
    (second : Stores between other contents' new place') :
    ∃ tree, new.write path contents = .ok tree ∧ tree.write other contents' = .ok new := by
  have file : ∃ contents, new.get? place = some (.file contents) := by
    by_cases same : place = place'
    · exact ⟨contents', same ▸ second.stored⟩
    · exact ⟨contents, (second.elsewhere place same).trans first.stored⟩
  obtain ⟨found, file⟩ := file
  have again : Extends new (new.set place (.file contents)) := .set (by rw [file]; rfl) contents
  have proper := ne_nil_of_file second.stored
  refine ⟨new.set place (.file contents), write_eq_ok_iff.mpr ⟨place, ?_, ?_, rfl⟩,
    write_eq_ok_iff.mpr ⟨place', ?_, ?_, ?_⟩⟩
  · exact (first.extends'.trans second.extends').resolve first.led (by decide)
  · rw [file]
    exact nofun
  · exact (second.extends'.trans again).resolve second.led (by decide)
  · rw [ne_eq, again.directory_iff, second.stored]
    exact nofun
  · by_cases same : place = place'
    · subst same
      rw [set_set, set_of_get? proper second.stored]
    · have kept := (second.elsewhere place same).trans first.stored
      rw [set_of_get? (ne_nil_of_file kept) kept, set_of_get? proper second.stored]

end Stores

/-! A path that has been spared. -/

/-- The path leads to the same place in both trees, or to none, and the same is found there. -/
structure Spared (path : String) (old new : FileTree) : Prop where
  led : new.resolve .lookup path = old.resolve .lookup path
  found : ∀ place, old.resolve .lookup path = .ok place → new.get? place = old.get? place

namespace Spared

theorem refl (path : String) (tree : FileTree) : Spared path tree tree :=
  ⟨rfl, fun _ _ => rfl⟩

theorem read (h : Spared path old new) : new.read path = old.read path := by
  unfold FileTree.read
  rw [h.led]
  cases led : old.resolve .lookup path with
  | error fault => rfl
  | ok place => simp only [bind, Except.bind, h.found place led]

end Spared

/-- No file is found by both paths. -/
def Unshared (tree : FileTree) (path other : String) : Prop :=
  ∀ place contents, tree.get? place = some (.file contents) →
    tree.resolve .lookup path = .ok place → tree.resolve .lookup other ≠ .ok place

/-- A file that is read is spared by all that is stored by paths to other places. -/
theorem ChangesOnly.spared {text : String} (h : ChangesOnly paths old new) (rooted : old.Rooted)
    (unshared : ∀ other ∈ paths, old.Unshared path other) (read : old.read path = .ok text) :
    Spared path old new := by
  obtain ⟨place, led, file⟩ := resolve_of_read read
  have led' := rooted.resolve_create_of_file led file
  have kept : new.get? place = old.get? place := by
    apply h.elsewhere
    intro other mem stores
    have finds : old.resolve .lookup other = .ok place :=
      (Extends.refl old).resolve stores (by decide)
    exact unshared other mem place _ file led finds
  refine ⟨(h.extends'.resolve led' (by decide)).trans led.symm, ?_⟩
  intro place' same
  obtain rfl := Except.ok.inj (led.symm.trans same)
  exact kept

end TrustedAppId.FileTree
