import TrustedAppId.FileTree
/-! Where paths lead in a tree that texts have been stored in. Storing turns free names and files into
files and leaves directories and links as they are, so a path that led to a place for a file goes
on leading there. -/
namespace TrustedAppId.FileTree

theorem join_inj {directory first second : String} :
    join directory first = join directory second ↔ first = second := by
  have cancel {front : String} (same : front ++ first = front ++ second) : first = second := by
    have same := congrArg String.toList same
    rw [String.toList_append, String.toList_append] at same
    exact String.toList_inj.mp (List.append_cancel_left same)
  constructor
  · intro same
    unfold join at same
    split at same
    · exact same
    · split at same
      · exact cancel same
      · exact cancel same
  · rintro rfl
    rfl

theorem lookup_put (place other : Location) (entry : Entry) (entries : List (Location × Entry)) :
    (put place entry entries).lookup other =
      if other = place then some entry else entries.lookup other := by
  induction entries with
  | nil =>
    by_cases same : other = place
    · simp [put, same]
    · simp [put, List.lookup_cons, same, beq_false_of_ne same]
  | cons first rest ih =>
    obtain ⟨name, old⟩ := first
    by_cases here : name = place
    · by_cases same : other = place
      · simp [put, here, same]
      · simp [put, List.lookup_cons, here, same, beq_false_of_ne same]
    · by_cases same : other = name
      · simp [put, here, same]
      · simp [put, List.lookup_cons, here, ih, beq_false_of_ne same]

theorem get?_set {tree : FileTree} {place : Location} (proper : place ≠ []) (entry : Entry)
    (other : Location) :
    (tree.set place entry).get? other = if other = place then some entry else tree.get? other := by
  unfold get?
  by_cases root : other = []
  · simp [root, Ne.symm proper]
  · simp only [if_neg root]
    exact lookup_put place other entry tree.entries

/-- Equal apart from the entry at `place`. -/
structure EqualApart (place : Location) (a b : FileTree) : Prop where
  workingDirectory : b.workingDirectory = a.workingDirectory
  get? : ∀ other, other ≠ place → b.get? other = a.get? other

theorem EqualApart.symm {a b : FileTree} {place : Location} (h : EqualApart place a b) :
    EqualApart place b a := by
  refine ⟨h.workingDirectory.symm, ?_⟩
  intro other different
  exact (h.get? other different).symm

theorem EqualApart.trans {a b c : FileTree} {place : Location} (first : EqualApart place a b)
    (second : EqualApart place b c) : EqualApart place a c := by
  refine ⟨second.workingDirectory.trans first.workingDirectory, ?_⟩
  intro other different
  exact (second.get? other different).trans (first.get? other different)

theorem EqualApart.set {place : Location} (proper : place ≠ []) (tree : FileTree) (entry : Entry) :
    EqualApart place tree (tree.set place entry) := by
  refine ⟨rfl, ?_⟩
  intro other different
  rw [get?_set proper, if_neg different]

/-- A free name, or a file: what a text may be stored at. -/
def isFree : Option Entry → Bool
  | none | some (.file _) => true
  | _ => false

/-- `new` is `old` with texts stored at some places. -/
structure Extends (old new : FileTree) : Prop where
  workingDirectory : new.workingDirectory = old.workingDirectory
  get? : ∀ place, new.get? place = old.get? place ∨
    isFree (old.get? place) = true ∧ ∃ contents, new.get? place = some (.file contents)

theorem Extends.refl (tree : FileTree) : Extends tree tree := ⟨rfl, fun _ => .inl rfl⟩

theorem Extends.trans {a b c : FileTree} (first : Extends a b) (second : Extends b c) :
    Extends a c := by
  refine ⟨second.workingDirectory.trans first.workingDirectory, ?_⟩
  intro place
  rcases second.get? place with same | ⟨free, stored⟩
  · rw [same]
    exact first.get? place
  · refine .inr ⟨?_, stored⟩
    rcases first.get? place with same | ⟨free', _⟩
    · rwa [← same]
    · exact free'

theorem Extends.set {tree : FileTree} {place : Location} (free : isFree (tree.get? place) = true)
    (contents : Contents) : Extends tree (tree.set place (.file contents)) := by
  have proper : place ≠ [] := by
    rintro rfl
    simp [FileTree.get?, isFree] at free
  refine ⟨rfl, ?_⟩
  intro other
  rw [get?_set proper]
  by_cases same : other = place
  · subst same
    exact .inr ⟨free, contents, if_pos rfl⟩
  · exact .inl (if_neg same)

/-- Directories and links stay. -/
theorem Extends.get?_of_not_free {old new : FileTree} (h : Extends old new) {place : Location}
    (kept : isFree (old.get? place) = false) : new.get? place = old.get? place := by
  rcases h.get? place with same | ⟨free, _⟩
  · exact same
  · rw [kept] at free
    contradiction

/-! Following a path, as a relation. -/

/-- A name that stands for an entry of a directory. -/
structure Proper (name : String) : Prop where
  not_here : name ≠ "."
  not_up : name ≠ ".."
  short : name.utf8ByteSize ≤ longestName

/-- A new file is asked for by a path that ends in a slash. -/
def asksTooMuch (purpose : Purpose) (rest : List String) (slash : Bool) : Prop :=
  purpose = .create ∧ rest = [] ∧ slash = true

/-- Following `todo` from the directory `here` leads to a location. -/
inductive Leads (tree : FileTree) (purpose : Purpose) :
    Nat → Location → List String → Bool → Location → Prop
  | done {links here slash} : Leads tree purpose links here [] slash here
  | here {links here rest slash place} : Leads tree purpose links here rest slash place →
      Leads tree purpose links here ("." :: rest) slash place
  | up {links here rest slash place} : Leads tree purpose links here.dropLast rest slash place →
      Leads tree purpose links here (".." :: rest) slash place
  | free {links here name slash} : Proper name → ¬ asksTooMuch purpose [] slash →
      tree.get? (here ++ [name]) = none →
      Leads tree purpose links here [name] slash (here ++ [name])
  | file {links here name contents} : Proper name →
      tree.get? (here ++ [name]) = some (.file contents) →
      Leads tree purpose links here [name] false (here ++ [name])
  | enter {links here name rest slash place} : Proper name → ¬ asksTooMuch purpose rest slash →
      tree.get? (here ++ [name]) = some .directory →
      Leads tree purpose links (here ++ [name]) rest slash place →
      Leads tree purpose links here (name :: rest) slash place
  | link {links here name target} : Proper name → purpose = .entry →
      tree.get? (here ++ [name]) = some (.link target) →
      Leads tree purpose links here [name] false (here ++ [name])
  | follow {links here name rest slash target place} : Proper name →
      ¬ asksTooMuch purpose rest slash → ¬ (rest = [] ∧ slash = false ∧ purpose = .entry) →
      tree.get? (here ++ [name]) = some (.link target) →
      Leads tree purpose links (if (Path.ofString target).absolute then [] else here)
        ((Path.ofString target).components ++ rest)
        (slash || (rest = [] && (Path.ofString target).slash)) place →
      Leads tree purpose (links + 1) here (name :: rest) slash place

theorem leads_of_walk {tree : FileTree} {purpose : Purpose} {links : Nat} {here place : Location}
    {todo : List String} {slash : Bool} (led : walk tree purpose links here todo slash = .ok place) :
    Leads tree purpose links here todo slash place := by
  fun_induction walk tree purpose links here todo slash with
  | case1 => exact Except.ok.inj led ▸ .done
  | case2 _ _ _ _ ih => exact .here (ih led)
  | case3 _ _ _ _ _ ih => exact .up (ih led)
  | case4 | case5 | case7 | case10 | case12 => contradiction
  | case6 links here slash name dot up long there found allowed =>
    exact Except.ok.inj led ▸ .free ⟨dot, up, Nat.not_lt.mp long⟩ allowed found
  | case8 links here slash name rest dot up allowed long there found ih =>
    exact .enter ⟨dot, up, Nat.not_lt.mp long⟩ allowed found (ih led)
  | case9 links here slash name rest dot up allowed long there contents found last =>
    obtain ⟨rfl, open'⟩ := last
    rw [Bool.not_eq_true] at open'
    exact Except.ok.inj led ▸ open' ▸ .file ⟨dot, up, Nat.not_lt.mp long⟩ found
  | case11 links here slash name rest dot up allowed long there target found last =>
    obtain ⟨rfl, open', entry⟩ := last
    rw [Bool.not_eq_true] at open'
    exact Except.ok.inj led ▸ open' ▸ .link ⟨dot, up, Nat.not_lt.mp long⟩ entry found
  | case13 here slash name rest dot up allowed long there target found last links path ih =>
    simp only [Bool.not_eq_true] at last
    simp only [dite_eq_ite] at ih
    exact .follow ⟨dot, up, Nat.not_lt.mp long⟩ allowed last found (ih led)

/-- What happens at a name depends on the entry of that name. -/
theorem walk_proper {tree : FileTree} {purpose : Purpose} {name : String} (proper : Proper name)
    {rest : List String} {slash : Bool} (allowed : ¬ asksTooMuch purpose rest slash) (links : Nat)
    (here : Location) :
    walk tree purpose links here (name :: rest) slash =
      match tree.get? (here ++ [name]) with
      | none => if rest = [] then .ok (here ++ [name]) else .error .notFound
      | some .directory => walk tree purpose links (here ++ [name]) rest slash
      | some (.file _) => if rest = [] ∧ ¬ slash then .ok (here ++ [name]) else .error .notDirectory
      | some (.link target) =>
        if rest = [] ∧ ¬ slash ∧ purpose = .entry then .ok (here ++ [name])
        else match links with
          | 0 => .error .tooManyLinks
          | links + 1 =>
            walk tree purpose links (if (Path.ofString target).absolute then [] else here)
              ((Path.ofString target).components ++ rest)
              (slash || (rest = [] && (Path.ofString target).slash)) := by
  unfold asksTooMuch at allowed
  rw [walk, if_neg proper.not_here, if_neg proper.not_up, if_neg allowed]
  exact if_neg (Nat.not_lt.mpr proper.short)

theorem not_asksTooMuch_false (purpose : Purpose) (rest : List String) :
    ¬ asksTooMuch purpose rest false := by
  simp [asksTooMuch]

theorem walk_of_leads {tree : FileTree} {purpose : Purpose} {links : Nat} {here place : Location}
    {todo : List String} {slash : Bool} (led : Leads tree purpose links here todo slash place) :
    walk tree purpose links here todo slash = .ok place := by
  induction led with
  | done => rw [walk]
  | here _ ih => rw [walk, if_pos rfl, ih]
  | up _ ih => rw [walk, if_neg (by decide), if_pos rfl, ih]
  | free proper allowed found => simp [walk_proper proper allowed, found]
  | file proper found => simp [walk_proper proper (not_asksTooMuch_false _ _), found]
  | enter proper allowed found _ ih => simp [walk_proper proper allowed, found, ih]
  | link proper entry found => simp [walk_proper proper (not_asksTooMuch_false _ _), found, entry]
  | follow proper allowed last found _ ih => simp [walk_proper proper allowed, found, ih, last]

theorem walk_eq_ok_iff {tree : FileTree} {purpose : Purpose} {links : Nat} {here place : Location}
    {todo : List String} {slash : Bool} :
    walk tree purpose links here todo slash = .ok place ↔
      Leads tree purpose links here todo slash place :=
  ⟨leads_of_walk, walk_of_leads⟩

/-! Resolution before and after texts are stored. -/

variable {old new : FileTree} {purpose : Purpose} {links : Nat} {here place : Location}
  {todo : List String} {slash : Bool}

/-- The place for a file that a path led to stays the one that it leads to. -/
theorem Leads.of_extends (h : Extends old new) (led : Leads old .create links here todo slash place)
    (follows : purpose ≠ .entry) :
    Leads new purpose links here todo slash place := by
  have weaken {rest : List String} {slash : Bool} (allowed : ¬ asksTooMuch .create rest slash) :
      ¬ asksTooMuch purpose rest slash := by
    intro asked
    exact allowed ⟨rfl, asked.2⟩
  induction led with
  | done => exact .done
  | here _ ih => exact .here ih
  | up _ ih => exact .up ih
  | @free links here name slash proper allowed found =>
    have closed : slash = false := by simpa [asksTooMuch] using allowed
    subst closed
    rcases h.get? (here ++ [name]) with same | ⟨_, contents, stored⟩
    · exact .free proper (weaken allowed) (same.trans found)
    · exact .file proper stored
  | @file links here name contents proper found =>
    rcases h.get? (here ++ [name]) with same | ⟨_, contents, stored⟩
    · exact .file proper (same.trans found)
    · exact .file proper stored
  | enter proper allowed found _ ih =>
    have kept := h.get?_of_not_free (by rw [found]; rfl)
    exact .enter proper (weaken allowed) (kept.trans found) ih
  | link _ entry _ => contradiction
  | follow proper allowed last found _ ih =>
    have kept := h.get?_of_not_free (by rw [found]; rfl)
    exact .follow proper (weaken allowed) (fun last => follows last.2.2) (kept.trans found) ih

/-- Storing texts lets no path lead where it did not lead before. -/
theorem Leads.to_extends (h : Extends old new) (led : Leads new purpose links here todo slash place) :
    Leads old purpose links here todo slash place := by
  have kept {place : Location} (other : ∀ contents, new.get? place ≠ some (.file contents)) :
      old.get? place = new.get? place := by
    rcases h.get? place with same | ⟨_, contents, stored⟩
    · exact same.symm
    · exact absurd stored (other contents)
  induction led with
  | done => exact .done
  | here _ ih => exact .here ih
  | up _ ih => exact .up ih
  | free proper allowed found => exact .free proper allowed ((kept (by simp [found])).trans found)
  | @file links here name contents proper found =>
    rcases h.get? (here ++ [name]) with same | ⟨free, _⟩
    · exact .file proper (same.symm.trans found)
    · cases before : old.get? (here ++ [name]) with
      | none => exact .free proper (not_asksTooMuch_false _ _) before
      | some entry =>
        rw [before] at free
        cases entry with
        | file contents => exact .file proper before
        | directory | link => contradiction
  | enter proper allowed found _ ih =>
    exact .enter proper allowed ((kept (by simp [found])).trans found) ih
  | link proper entry found => exact .link proper entry ((kept (by simp [found])).trans found)
  | follow proper allowed last found _ ih =>
    exact .follow proper allowed last ((kept (by simp [found])).trans found) ih

/-- A location and all that lie above it are directories. -/
def IsDirectoryPath (tree : FileTree) (place : Location) : Prop :=
  ∀ above, above <+: place → tree.get? above = some .directory

/-- Relative paths begin in a directory. -/
def Rooted (tree : FileTree) : Prop := tree.IsDirectoryPath tree.workingDirectory

theorem isDirectoryPath_nil (tree : FileTree) : tree.IsDirectoryPath [] := by
  intro above hp
  rw [List.prefix_nil.mp hp, FileTree.get?, if_pos rfl]

theorem IsDirectoryPath.append {tree : FileTree} {here : Location} (h : tree.IsDirectoryPath here)
    {name : String} (found : tree.get? (here ++ [name]) = some .directory) :
    tree.IsDirectoryPath (here ++ [name]) := by
  intro above hp
  rcases List.prefix_concat_iff.mp hp with rfl | hp
  · exact found
  · exact h above hp

theorem IsDirectoryPath.dropLast {tree : FileTree} {here : Location}
    (h : tree.IsDirectoryPath here) : tree.IsDirectoryPath here.dropLast := by
  intro above hp
  exact h above (hp.trans (List.dropLast_prefix here))

/-- A path that follows links leads to a directory or to a place for a file. -/
theorem Leads.isFree_or_directory {tree : FileTree} (follows : purpose ≠ .entry)
    (start : tree.IsDirectoryPath here) (led : Leads tree purpose links here todo slash place) :
    isFree (tree.get? place) = true ∨ tree.get? place = some .directory := by
  induction led with
  | done => exact .inr (start _ (List.prefix_refl _))
  | here _ ih => exact ih start
  | up _ ih => exact ih start.dropLast
  | free _ _ found => exact .inl (by rw [found]; rfl)
  | file _ found => exact .inl (by rw [found]; rfl)
  | enter _ _ found _ ih => exact ih (start.append found)
  | link _ entry _ => exact absurd entry follows
  | follow _ _ _ _ _ ih =>
    apply ih
    split
    · exact isDirectoryPath_nil tree
    · exact start

end TrustedAppId.FileTree
