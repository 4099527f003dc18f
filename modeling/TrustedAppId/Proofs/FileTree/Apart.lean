import TrustedAppId.Proofs.FileTree.Storing
/-! Two trees that are equal apart from what one file holds. No path tells them apart by where it
leads, or fails to lead, and only a path that leads to the file does so by what is found there. -/
namespace TrustedAppId.FileTree

/-- Texts have been stored in one tree twice, in the same way but for the file at `place`. -/
structure Parallel (original : FileTree) (place : Location) (a b : FileTree) : Prop where
  left : Extends original a
  right : Extends original b
  apart : EqualApart place a b

variable {original a b : FileTree} {purpose : Purpose} {place : Location} {path : String}
  {old contents : Contents}

theorem Extends.file (h : Extends original a) (file : original.get? place = some (.file old)) :
    ∃ contents, a.get? place = some (.file contents) := by
  rcases h.get? place with same | ⟨_, stored⟩
  · exact ⟨old, same.trans file⟩
  · exact stored

namespace Parallel

theorem of_apart (apart : EqualApart place a b) (file : a.get? place = some (.file old))
    (found : b.get? place = some (.file contents)) : Parallel a place a b := by
  refine ⟨.refl a, ⟨apart.workingDirectory, ?_⟩, apart⟩
  intro other
  by_cases same : other = place
  · subst same
    exact .inr ⟨by rw [file]; rfl, contents, found⟩
  · exact .inl (apart.get? other same)

variable (h : Parallel original place a b) (file : original.get? place = some (.file old))

include h file

/-- An entry is the same in both trees, or is a file in both of them. -/
theorem get?_cases (other : Location) : b.get? other = a.get? other ∨
    ∃ first second, a.get? other = some (.file first) ∧ b.get? other = some (.file second) := by
  by_cases same : other = place
  · obtain ⟨first, here⟩ := h.left.file file
    obtain ⟨second, there⟩ := h.right.file file
    subst same
    exact .inr ⟨first, second, here, there⟩
  · exact .inl (h.apart.get? other same)

theorem walk_eq (links : Nat) (here : Location) (todo : List String) (slash : Bool) :
    walk b purpose links here todo slash = walk a purpose links here todo slash := by
  have same {other : Location} (kept : ∀ contents, a.get? other ≠ some (.file contents)) :
      b.get? other = a.get? other := by
    rcases h.get?_cases file other with same | ⟨first, _, found, _⟩
    · exact same
    · exact absurd found (kept first)
  have second_of_file {other : Location} {contents : Contents}
      (found : a.get? other = some (.file contents)) :
      ∃ second, b.get? other = some (.file second) := by
    rcases h.get?_cases file other with same | ⟨_, second, _, found'⟩
    · exact ⟨contents, same.trans found⟩
    · exact ⟨second, found'⟩
  fun_induction walk a purpose links here todo slash with
  | case1 => rw [walk]
  | case2 _ _ _ _ ih => rw [walk, if_pos rfl, ih]
  | case3 _ _ _ _ _ ih => rw [walk, if_neg (by decide), if_pos rfl, ih]
  | case4 _ _ _ _ _ dot up asked => rw [walk, if_neg dot, if_neg up, if_pos asked]
  | case5 _ _ _ _ _ dot up allowed long =>
    rw [walk, if_neg dot, if_neg up, if_neg allowed, if_pos long]
  | case6 links here slash name dot up long there found allowed =>
    have found' := (same (by simp [found])).trans found
    rw [walk_proper ⟨dot, up, Nat.not_lt.mp long⟩ allowed, found']
    exact if_pos rfl
  | case7 links here slash name rest dot up allowed long there found more =>
    have found' := (same (by simp [found])).trans found
    rw [walk_proper ⟨dot, up, Nat.not_lt.mp long⟩ allowed, found']
    exact if_neg more
  | case8 links here slash name rest dot up allowed long there found ih =>
    have found' := (same (by simp [found])).trans found
    rw [walk_proper ⟨dot, up, Nat.not_lt.mp long⟩ allowed, found']
    exact ih
  | case9 links here slash name rest dot up allowed long there contents found last =>
    obtain ⟨second, found'⟩ := second_of_file found
    rw [walk_proper ⟨dot, up, Nat.not_lt.mp long⟩ allowed, found']
    exact if_pos last
  | case10 links here slash name rest dot up allowed long there contents found more =>
    obtain ⟨second, found'⟩ := second_of_file found
    rw [walk_proper ⟨dot, up, Nat.not_lt.mp long⟩ allowed, found']
    exact if_neg more
  | case11 links here slash name rest dot up allowed long there target found last =>
    have found' := (same (by simp [found])).trans found
    rw [walk_proper ⟨dot, up, Nat.not_lt.mp long⟩ allowed, found']
    exact if_pos last
  | case12 here slash name rest dot up allowed long there target found last =>
    have found' := (same (by simp [found])).trans found
    rw [walk_proper ⟨dot, up, Nat.not_lt.mp long⟩ allowed, found']
    exact if_neg last
  | case13 here slash name rest dot up allowed long there target found last links path ih =>
    have found' := (same (by simp [found])).trans found
    rw [walk_proper ⟨dot, up, Nat.not_lt.mp long⟩ allowed, found']
    exact (if_neg last).trans ih

theorem resolve_eq (purpose : Purpose) (path : String) :
    b.resolve purpose path = a.resolve purpose path := by
  unfold resolve
  rw [h.apart.workingDirectory]
  simp only [h.walk_eq file]

theorem isDirectory_eq (path : String) : b.isDirectory path = a.isDirectory path := by
  unfold isDirectory
  rw [h.resolve_eq file]
  cases a.resolve .lookup path with
  | error fault => rfl
  | ok place' =>
    rcases h.get?_cases file place' with same | ⟨first, second, found, found'⟩
    · simp only [same]
    · simp [found, found']

variable (other : original.resolve .lookup path ≠ .ok place)

include other

theorem read_eq : b.read path = a.read path := by
  unfold read
  rw [h.resolve_eq file]
  cases led : a.resolve .lookup path with
  | error fault => rfl
  | ok place' =>
    have apart : place' ≠ place := by
      rintro rfl
      exact other (h.left.resolve_back led)
    simp only [bind, Except.bind, h.apart.get? place' apart]

/-- A write fails in both trees, in the same way, or stores its text in both. -/
theorem write_cases (rooted : original.Rooted) (contents : Contents) :
    (∃ fault, a.write path contents = .error fault ∧ b.write path contents = .error fault) ∨
    ∃ a' b', a.write path contents = .ok a' ∧ b.write path contents = .ok b' ∧
      Parallel original place a' b' := by
  cases led : a.resolve .create path with
  | error fault =>
    refine .inl ⟨fault, ?_, ?_⟩
    · rw [write, led]
      rfl
    · rw [write, h.resolve_eq file, led]
      rfl
  | ok place' =>
    have apart : place' ≠ place := by
      rintro rfl
      exact other ((Extends.refl original).resolve (h.left.resolve_back led) (by decide))
    have same := h.apart.get? place' apart
    by_cases directory : a.get? place' = some .directory
    · refine .inl ⟨.isDirectory, ?_, ?_⟩
      · simp [write, led, directory, bind, Except.bind]
      · simp [write, h.resolve_eq file, led, same, directory, bind, Except.bind]
    · refine .inr ⟨a.set place' (.file contents), b.set place' (.file contents),
        write_eq_ok_iff.mpr ⟨place', led, directory, rfl⟩,
        write_eq_ok_iff.mpr ⟨place', (h.resolve_eq file .create path).trans led,
          same ▸ directory, rfl⟩, ?_⟩
      have free : isFree (a.get? place') = true :=
        ((h.left.rooted rooted).isFree_or_directory (by decide) led).resolve_right directory
      have proper : place' ≠ [] := by
        rintro rfl
        exact directory (if_pos rfl)
      refine ⟨h.left.trans (.set free contents), h.right.trans (.set (same ▸ free) contents),
        h.apart.workingDirectory, ?_⟩
      intro other' different
      rw [get?_set proper, get?_set proper, h.apart.get? other' different]

end Parallel

theorem resolve_of_read {tree : FileTree} {text : String} (read : tree.read path = .ok text) :
    ∃ place, tree.resolve .lookup path = .ok place ∧
      tree.get? place = some (.file (.text text)) := by
  unfold FileTree.read at read
  cases led : tree.resolve .lookup path with
  | error fault =>
    rw [led] at read
    cases read
  | ok place =>
    rw [led] at read
    simp only [bind, Except.bind] at read
    split at read
    · next found => exact ⟨place, rfl, Except.ok.inj read ▸ found⟩
    all_goals cases read

/-- A write to one of two files that hold different texts leaves the other one as it is. -/
theorem read_write {tree new : FileTree} {other text was beside : String} (rooted : tree.Rooted)
    (first : tree.read path = .ok was) (second : tree.read other = .ok beside)
    (different : was ≠ beside) (written : tree.write path (.text text) = .ok new) :
    new.read path = .ok text ∧ new.read other = .ok beside := by
  obtain ⟨place, stores⟩ := rooted.stores written
  have led : tree.resolve .lookup path = .ok place :=
    (Extends.refl tree).resolve stores.led (by decide)
  obtain ⟨place', led', file⟩ := resolve_of_read first
  obtain rfl : place' = place := Except.ok.inj (led'.symm.trans led)
  obtain ⟨place'', led'', file'⟩ := resolve_of_read second
  have apart : tree.resolve .lookup other ≠ .ok place' := by
    intro same
    obtain rfl : place'' = place' := Except.ok.inj (led''.symm.trans same)
    rw [file, Option.some.injEq, Entry.file.injEq, Contents.text.injEq] at file'
    exact different file'
  have parallel := Parallel.of_apart stores.apart file stores.stored
  refine ⟨read_of_resolve (stores.extends'.resolve stores.led (by decide)) stores.stored, ?_⟩
  exact (parallel.read_eq file apart).trans second

end TrustedAppId.FileTree
