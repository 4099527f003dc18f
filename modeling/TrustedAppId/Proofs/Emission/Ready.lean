import TrustedAppId.Proofs.Emission.Torn
import TrustedAppId.Proofs.FileTree.Writable
/-! Emissions with nothing in their way. They succeed with any random identifier, and their files
hold its artifacts unless both of them are one file. -/
namespace TrustedAppId.Emission

open FileTree

/-- There is nothing in the way of an emission. -/
structure Ready (e : Emission) (tree : FileTree) : Prop where
  directory : tree.isDirectory e.directory = true
  buildVar : tree.Writable e.buildVarPath
  header : tree.Writable e.headerPath

variable {e : Emission} {u : Uuid} {tree final : FileTree} {result : Emitted}

theorem Ready.store (ready : e.Ready tree) (rooted : tree.Rooted) (random : u.isRandom = true) :
    (e.store u tree).1 = .ok ⟨u, e.buildVarPath, e.headerPath⟩ := by
  obtain ⟨between, written⟩ :=
    (writable_iff_write (.text (BuildVar.render e.variableName u))).mp ready.buildVar
  obtain ⟨place, stores⟩ := rooted.stores written
  obtain ⟨final, written'⟩ :=
    stores.extends'.write ready.header (.text (Header.render e.macroName u))
  simp only [Emission.store, random, ready.directory, written, written', Bool.not_true,
    Bool.false_eq_true, if_false]

/-- What has been stored is there, in two files. -/
theorem holds_of_store (rooted : tree.Rooted) (separate : tree.Separate e.buildVarPath e.headerPath)
    (stored : e.store u tree = (.ok result, final)) :
    e.Holds (BuildVar.render e.variableName u) (Header.render e.macroName u) final := by
  obtain ⟨-, between, first, second, stores, stores'⟩ := store_eq_ok rooted stored
  have apart := (separate.of_extends stores.extends').symm
  constructor
  · rw [stores'.read_iff (stores.extends'.rooted rooted) apart]
    exact stores.read
  · exact stores'.read

/-! Two files in one directory: nothing is in the way of another pair of artifacts. -/

theorem write_pairTree (buildVar header text : String) :
    (pairTree buildVar header).write linkedEmission.buildVarPath (.text text) =
        .ok (pairTree text header) ∧
      (pairTree buildVar header).write linkedEmission.headerPath (.text text) =
        .ok (pairTree buildVar text) := by
  obtain ⟨first, second⟩ := resolve_pairTree buildVar header .create
  unfold FileTree.write
  rw [first, second]
  exact ⟨rfl, rfl⟩

theorem isDirectory_pairTree (buildVar header : String) :
    (pairTree buildVar header).isDirectory linkedEmission.directory = true := by
  have dot : FileTree.Path.ofString "." = ⟨false, ["."], false⟩ := by decide
  simp +decide [FileTree.isDirectory, FileTree.resolve, pairTree, linkedEmission, dot,
    FileTree.walk, FileTree.get?]

theorem ready_pairTree (buildVar header : String) :
    linkedEmission.Ready (pairTree buildVar header) := by
  obtain ⟨first, second⟩ := resolve_pairTree buildVar header .create
  exact ⟨isDirectory_pairTree buildVar header, ⟨_, first, nofun⟩, ⟨_, second, nofun⟩⟩

theorem store_pairTree (buildVar header : String) {u : Uuid} (random : u.isRandom = true) :
    linkedEmission.store u (pairTree buildVar header) =
      (.ok ⟨u, linkedEmission.buildVarPath, linkedEmission.headerPath⟩,
        pairTree (BuildVar.render linkedEmission.variableName u)
          (Header.render linkedEmission.macroName u)) := by
  simp only [store, random, isDirectory_pairTree, (write_pairTree _ _ _).1,
    (write_pairTree _ _ _).2, Bool.not_true, Bool.false_eq_true, if_false]

end TrustedAppId.Emission
