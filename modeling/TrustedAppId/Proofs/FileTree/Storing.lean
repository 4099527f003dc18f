import TrustedAppId.Proofs.FileTree.Resolution
/-! Reading and writing files by their paths. A write stores its text at one place, and from then on
the path leads to that place, whatever else is stored before it is read. -/
namespace TrustedAppId.FileTree

variable {tree old new : FileTree} {purpose : Purpose} {path text : String} {place : Location}
  {contents : Contents}

/-- Where following a path begins. -/
def startOf (tree : FileTree) (path : String) : Location :=
  if (Path.ofString path).absolute then [] else tree.workingDirectory

/-- A path that the system takes at all. -/
structure Accepted (path : String) : Prop where
  no_nul : path.toList.contains '\x00' = false
  not_empty : path.isEmpty = false
  short : path.utf8ByteSize < pathLimit

theorem resolve_eq_ok_iff : tree.resolve purpose path = .ok place ↔
    Accepted path ∧ Leads tree purpose linkLimit (tree.startOf path) (Path.ofString path).components
      (Path.ofString path).slash place := by
  unfold resolve
  constructor
  · intro led
    split at led
    · cases led
    split at led
    · cases led
    split at led
    · cases led
    · next nul empty long =>
      rw [Bool.not_eq_true] at nul empty
      exact ⟨⟨nul, empty, Nat.not_le.mp long⟩, walk_eq_ok_iff.mp led⟩
  · rintro ⟨accepted, led⟩
    rw [if_neg (Bool.not_eq_true _ ▸ accepted.no_nul),
      if_neg (Bool.not_eq_true _ ▸ accepted.not_empty), if_neg (Nat.not_le.mpr accepted.short)]
    exact walk_eq_ok_iff.mpr led

theorem Extends.startOf (h : Extends old new) (path : String) :
    new.startOf path = old.startOf path := by
  rw [FileTree.startOf, FileTree.startOf, h.workingDirectory]

theorem Extends.resolve (h : Extends old new) (led : old.resolve .create path = .ok place)
    (follows : purpose ≠ .entry) : new.resolve purpose path = .ok place := by
  obtain ⟨accepted, led⟩ := resolve_eq_ok_iff.mp led
  rw [resolve_eq_ok_iff, h.startOf]
  exact ⟨accepted, led.of_extends h follows⟩

theorem Extends.resolve_back (h : Extends old new) (led : new.resolve purpose path = .ok place) :
    old.resolve purpose path = .ok place := by
  obtain ⟨accepted, led⟩ := resolve_eq_ok_iff.mp led
  rw [h.startOf] at led
  exact resolve_eq_ok_iff.mpr ⟨accepted, led.to_extends h⟩

/-- A path that leads to a directory still leads there. -/
theorem Leads.to_directory (h : Extends old new) {links : Nat} {here : Location}
    {todo : List String} {slash : Bool} (led : Leads old purpose links here todo slash place)
    (directory : old.get? place = some .directory) :
    Leads new purpose links here todo slash place := by
  induction led with
  | done => exact .done
  | here _ ih => exact .here (ih directory)
  | up _ ih => exact .up (ih directory)
  | free _ _ found =>
    rw [found] at directory
    cases directory
  | file _ found =>
    rw [found] at directory
    cases directory
  | link _ _ found =>
    rw [found] at directory
    cases directory
  | enter proper allowed found _ ih =>
    have kept := h.get?_of_not_free (by rw [found]; rfl)
    exact .enter proper allowed (kept.trans found) (ih directory)
  | follow proper allowed last found _ ih =>
    have kept := h.get?_of_not_free (by rw [found]; rfl)
    exact .follow proper allowed last (kept.trans found) (ih directory)

theorem Extends.isDirectory (h : Extends old new) (found : old.isDirectory path = true) :
    new.isDirectory path = true := by
  rw [FileTree.isDirectory] at found ⊢
  split at found
  · next place led =>
    have directory := of_decide_eq_true found
    obtain ⟨accepted, leads⟩ := resolve_eq_ok_iff.mp led
    have led' : new.resolve .lookup path = .ok place := by
      rw [resolve_eq_ok_iff, h.startOf]
      exact ⟨accepted, leads.to_directory h directory⟩
    have kept := h.get?_of_not_free (by rw [directory]; rfl)
    rw [led']
    exact decide_eq_true (kept.trans directory)
  · contradiction

/-- No directory is made and none is lost. -/
theorem Extends.directory_iff (h : Extends old new) (place : Location) :
    new.get? place = some .directory ↔ old.get? place = some .directory := by
  constructor
  · intro found
    rcases h.get? place with same | ⟨-, contents, stored⟩
    · exact same.symm.trans found
    · rw [stored] at found
      cases found
  · intro found
    exact (h.get?_of_not_free (by rw [found]; rfl)).trans found

theorem Extends.rooted (h : Extends old new) (rooted : old.Rooted) : new.Rooted := by
  intro above hp
  rw [h.workingDirectory] at hp
  rw [h.get?_of_not_free (by rw [rooted above hp]; rfl), rooted above hp]

theorem Rooted.startOf (rooted : tree.Rooted) (path : String) :
    tree.IsDirectoryPath (tree.startOf path) := by
  unfold FileTree.startOf
  split
  · exact isDirectoryPath_nil tree
  · exact rooted

theorem Rooted.isFree_or_directory (rooted : tree.Rooted) (follows : purpose ≠ .entry)
    (led : tree.resolve purpose path = .ok place) :
    isFree (tree.get? place) = true ∨ tree.get? place = some .directory :=
  (resolve_eq_ok_iff.mp led).2.isFree_or_directory follows (rooted.startOf path)

theorem read_of_resolve (led : tree.resolve .lookup path = .ok place)
    (found : tree.get? place = some (.file (.text text))) : tree.read path = .ok text := by
  simp [read, led, found, bind, Except.bind]

theorem write_eq_ok_iff : tree.write path contents = .ok new ↔ ∃ place,
    tree.resolve .create path = .ok place ∧ tree.get? place ≠ some .directory ∧
      tree.set place (.file contents) = new := by
  unfold write
  cases led : tree.resolve .create path with
  | error fault => simp [bind, Except.bind]
  | ok place =>
    simp only [bind, Except.bind]
    split
    · next found => simp [found]
    · next other => simp [show tree.get? place ≠ some .directory from other]

/-- The text of a successful write is stored at the place that its path leads to. -/
structure Stores (old : FileTree) (path : String) (contents : Contents) (new : FileTree)
    (place : Location) : Prop where
  led : old.resolve .create path = .ok place
  extends' : Extends old new
  stored : new.get? place = some (.file contents)
  elsewhere : ∀ other, other ≠ place → new.get? other = old.get? other

theorem Stores.apart (h : Stores old path contents new place) : EqualApart place old new :=
  ⟨h.extends'.workingDirectory, h.elsewhere⟩

theorem Rooted.stores (rooted : old.Rooted) (written : old.write path contents = .ok new) :
    ∃ place, Stores old path contents new place := by
  obtain ⟨place, led, other, rfl⟩ := write_eq_ok_iff.mp written
  have free := (rooted.isFree_or_directory (by decide) led).resolve_right other
  have proper : place ≠ [] := by
    rintro rfl
    apply other
    rw [FileTree.get?, if_pos rfl]
  refine ⟨place, led, .set free contents, ?_, ?_⟩
  · rw [get?_set proper, if_pos rfl]
  · exact (EqualApart.set proper old _).get?

end TrustedAppId.FileTree
