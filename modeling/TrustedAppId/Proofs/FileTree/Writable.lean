import TrustedAppId.Proofs.FileTree.Apart
/-! Paths that can be written. Storing texts makes no path writable and leaves none unwritable, and
it brings no two paths together. What is stored by one path is not seen by a path to another
place. -/
namespace TrustedAppId.FileTree

variable {tree old new : FileTree} {purpose : Purpose} {path other text : String}
  {place here : Location} {contents : Contents} {links : Nat} {todo : List String} {slash : Bool}

/-! Places of files. -/

theorem Leads.not_file_of_slash (start : tree.IsDirectoryPath here)
    (led : Leads tree purpose links here todo slash place) (closed : slash = true) :
    tree.get? place ≠ some (.file contents) := by
  induction led with
  | done =>
    rw [start _ (List.prefix_refl _)]
    exact nofun
  | here _ ih => exact ih start closed
  | up _ ih => exact ih start.dropLast closed
  | free _ _ found =>
    rw [found]
    exact nofun
  | file => contradiction
  | enter _ _ found _ ih => exact ih (start.append found) closed
  | link => contradiction
  | follow _ _ _ _ _ ih =>
    refine ih ?_ (by rw [closed, Bool.true_or])
    split
    · exact isDirectoryPath_nil tree
    · exact start

/-- Where a file is found, one may be stored. -/
theorem Leads.create_of_file (start : tree.IsDirectoryPath here) (follows : purpose ≠ .entry)
    (led : Leads tree purpose links here todo slash place)
    (file : tree.get? place = some (.file contents)) :
    Leads tree .create links here todo slash place := by
  induction led with
  | done => exact .done
  | here _ ih => exact .here (ih start file)
  | up _ ih => exact .up (ih start.dropLast file)
  | free _ _ found =>
    rw [found] at file
    contradiction
  | file proper found => exact .file proper found
  | enter proper _ found led ih =>
    refine .enter proper ?_ found (ih (start.append found) file)
    rintro ⟨-, rfl, closed⟩
    exact led.not_file_of_slash (start.append found) closed file
  | link _ entry _ => exact absurd entry follows
  | @follow _ here _ _ _ target _ proper _ _ found led ih =>
    have start' : tree.IsDirectoryPath
        (if (Path.ofString target).absolute then [] else here) := by
      split
      · exact isDirectoryPath_nil tree
      · exact start
    refine .follow proper ?_ (fun last => nomatch last.2.2) found (ih start' file)
    rintro ⟨-, rfl, closed⟩
    exact led.not_file_of_slash start' (by rw [closed, Bool.true_or]) file

theorem Rooted.resolve_create_of_file (rooted : tree.Rooted)
    (led : tree.resolve .lookup path = .ok place)
    (file : tree.get? place = some (.file contents)) : tree.resolve .create path = .ok place := by
  obtain ⟨accepted, leads⟩ := resolve_eq_ok_iff.mp led
  exact resolve_eq_ok_iff.mpr
    ⟨accepted, leads.create_of_file (rooted.startOf path) (by decide) file⟩

theorem Extends.resolve_create_iff (h : Extends old new) :
    new.resolve .create path = .ok place ↔ old.resolve .create path = .ok place := by
  constructor
  · exact h.resolve_back
  · intro led
    exact h.resolve led (by decide)

/-! Writable paths. -/

/-- A text can be stored by this path. -/
def Writable (tree : FileTree) (path : String) : Prop :=
  ∃ place, tree.resolve .create path = .ok place ∧ tree.get? place ≠ some .directory

theorem writable_iff_write (contents : Contents) :
    tree.Writable path ↔ ∃ new, tree.write path contents = .ok new := by
  simp only [write_eq_ok_iff]
  constructor
  · rintro ⟨place, led, other⟩
    exact ⟨_, place, led, other, rfl⟩
  · rintro ⟨_, place, led, other, -⟩
    exact ⟨place, led, other⟩

theorem Extends.writable_iff (h : Extends old new) : new.Writable path ↔ old.Writable path := by
  simp only [Writable, h.resolve_create_iff, ne_eq, h.directory_iff]

theorem Extends.write (h : Extends old new) (writable : old.Writable path) (contents : Contents) :
    ∃ tree, new.write path contents = .ok tree :=
  (writable_iff_write contents).mp (h.writable_iff.mpr writable)

/-! Separate paths. -/

/-- No text is stored at one place by both paths. -/
def Separate (tree : FileTree) (path other : String) : Prop :=
  ∀ place, tree.resolve .create path = .ok place → tree.resolve .create other ≠ .ok place

theorem Separate.symm (separate : tree.Separate path other) : tree.Separate other path := by
  intro place led led'
  exact separate place led' led

theorem Separate.of_extends (h : Extends old new) (separate : old.Separate path other) :
    new.Separate path other := by
  intro place led led'
  exact separate place (h.resolve_back led) (h.resolve_back led')

namespace Stores

theorem read (stores : Stores old path (.text text) new place) : new.read path = .ok text :=
  read_of_resolve (stores.extends'.resolve stores.led (by decide)) stores.stored

/-- A path to another place reads what it has read before. -/
theorem read_iff (stores : Stores old path contents new place) (rooted : old.Rooted)
    (separate : old.Separate path other) :
    new.read other = .ok text ↔ old.read other = .ok text := by
  constructor
  · intro found
    obtain ⟨place', led, file⟩ := resolve_of_read found
    have led' := (stores.extends'.rooted rooted).resolve_create_of_file led file
    have different : place' ≠ place := by
      rintro rfl
      exact separate place' stores.led (stores.extends'.resolve_back led')
    rw [stores.elsewhere place' different] at file
    exact read_of_resolve (stores.extends'.resolve_back led) file
  · intro found
    obtain ⟨place', led, file⟩ := resolve_of_read found
    have led' := rooted.resolve_create_of_file led file
    have different : place' ≠ place := by
      rintro rfl
      exact separate place' stores.led led'
    rw [← stores.elsewhere place' different] at file
    exact read_of_resolve (stores.extends'.resolve led' (by decide)) file

end Stores

end TrustedAppId.FileTree
