import TrustedAppId.Proofs.FileTree.Rewriting
import TrustedAppId.Proofs.Program.Recording
/-! Replaying a tape once more. What a replay comes to depends on the tree alone, and it leaves a
tree in which it comes to the same again, whatever has stopped it; so all replays that follow one
another with the same options are like the first one. -/
namespace TrustedAppId

variable {e : Emission} {path : String} {tree : FileTree}

/-! An emission over its own artifacts. -/

namespace Emission

theorem changesOnly_store (rooted : tree.Rooted) (u : Uuid) :
    FileTree.ChangesOnly [e.buildVarPath, e.headerPath] tree (e.store u tree).2 := by
  unfold store
  split
  · exact .refl _ _
  split
  · exact .refl _ _
  split
  · exact .refl _ _
  next between written =>
  obtain ⟨first, stores⟩ := rooted.stores written
  have changes : FileTree.ChangesOnly [e.buildVarPath, e.headerPath] tree between :=
    stores.changesOnly (.head _)
  split
  · exact changes
  next final written' =>
  obtain ⟨second, stores'⟩ := (stores.extends'.rooted rooted).stores written'
  exact changes.trans (stores'.changesOnly (.tail _ (.head _)))

/-- Storing the artifacts goes as far as it has gone before, and ends in the same way. -/
theorem store_store (rooted : tree.Rooted) (u : Uuid) :
    e.store u (e.store u tree).2 = e.store u tree := by
  by_cases random : u.isRandom = true
  swap
  · simp only [store, random, Bool.not_false, if_true]
  cases directory : tree.isDirectory e.directory with
  | false => simp only [store, random, directory, Bool.not_true, Bool.not_false, Bool.false_eq_true,
      if_false, if_true]
  | true =>
    cases written : tree.write e.buildVarPath (.text (BuildVar.render e.variableName u)) with
    | error fault => simp only [store, random, directory, written, Bool.not_true,
        Bool.false_eq_true, if_false]
    | ok between =>
      obtain ⟨first, stores⟩ := rooted.stores written
      have directory' := stores.extends'.isDirectory directory
      cases written' : between.write e.headerPath (.text (Header.render e.macroName u)) with
      | error fault =>
        simp only [store, random, directory, directory', written, written', stores.write_again,
          Bool.not_true, Bool.false_eq_true, if_false]
      | ok final =>
        obtain ⟨second, stores'⟩ := (stores.extends'.rooted rooted).stores written'
        obtain ⟨again, buildVar, header⟩ := stores.write_both_again stores'
        have directory'' := stores'.extends'.isDirectory directory'
        simp only [store, random, directory, directory'', written, written', buildVar, header,
          Bool.not_true, Bool.false_eq_true, if_false]

theorem emitted_emitted (rooted : tree.Rooted) (answer : Except Error Uuid) :
    e.emitted answer (e.emitted answer tree).2 = e.emitted answer tree := by
  cases answer with
  | error fault => rfl
  | ok u => exact store_store rooted u

theorem changesOnly_emitted (rooted : tree.Rooted) (answer : Except Error Uuid) :
    FileTree.ChangesOnly [e.buildVarPath, e.headerPath] tree (e.emitted answer tree).2 := by
  cases answer with
  | error fault => exact .refl _ _
  | ok u => exact changesOnly_store rooted u

end Emission

namespace Program

/-! A replay. -/

/-- The tape that a path leads to. -/
def tapeAt (path : String) (tree : FileTree) : Except Error Cassette := do
  Cassette.read path (← (tree.read path).mapError (.file path))

/-- What emitting with the identifiers of a tape comes to. -/
def replayed (e : Emission) (path : String) (tree : FileTree) : Except Error Uuid × FileTree :=
  match tapeAt path tree, e.checkNames with
  | .error fault, _ | .ok _, .error fault => (.error fault, tree)
  | .ok tape, .ok () =>
    let emitted := e.emitted (Replayer.ofCassette tape).nextId.1 tree
    (emitted.1.map Emission.Emitted.id, emitted.2)

theorem run_load (path : String) (s : Surroundings) :
    (Cassette.load path).run.run s = (tapeAt path s.tree, s) := by
  have fileText : (Run.fileText path).run.run s = ((s.tree.read path).mapError (.file path), s) :=
    rfl
  simp only [Cassette.load, Script.run_run_bind, fileText, tapeAt]
  cases (s.tree.read path).mapError (Error.file path) with
  | error fault => rfl
  | ok text => rfl

theorem run_openReplay (path : String) (s : Surroundings) : (Context.openReplay path).run.run s =
    ((tapeAt path s.tree).map fun tape => .replaying (.ofCassette tape), s) := by
  simp only [Context.openReplay, Script.run_run_bind, run_load]
  cases tapeAt path s.tree with
  | error fault => rfl
  | ok tape => rfl

theorem run_generate_replay {options : CassetteOptions} (replays : options.replay = some path)
    (e : Emission) (s : Surroundings) : ∃ events, (generate e options).run.run s =
      ((replayed e path s.tree).1, { s with tree := (replayed e path s.tree).2, events }) := by
  simp only [generate, replays, Script.run_run_bind, run_openReplay, replayed]
  cases tapeAt path s.tree with
  | error fault => exact ⟨s.events, rfl⟩
  | ok tape =>
    obtain ⟨events, effect⟩ := e.exec_emit (.replaying (.ofCassette tape)) s
    refine ⟨events, ?_⟩
    simp only [Except.map, attempt, Context.run_lift_perform, effect]
    cases e.checkNames with
    | error fault => rfl
    | ok =>
      simp only [Context.draw]
      cases (e.emitted (Replayer.ofCassette tape).nextId.1 s.tree).1 with
      | error fault => rfl
      | ok emitted => rfl

/-- A tape in a file that is none of the artifacts is spared by its replay. -/
theorem spared_replayed (rooted : tree.Rooted) (first : tree.Unshared path e.buildVarPath)
    (second : tree.Unshared path e.headerPath) :
    FileTree.Spared path tree (replayed e path tree).2 := by
  unfold replayed
  split
  · exact .refl _ _
  · exact .refl _ _
  next tape _ found _ =>
  obtain ⟨text, read, -⟩ := bind_eq_ok_iff.mp found
  refine (Emission.changesOnly_emitted rooted _).spared rooted ?_ (mapError_eq_ok_iff.mp read)
  intro other mem
  rcases List.mem_pair.mp mem with rfl | rfl
  · exact first
  · exact second

theorem replayed_replayed (rooted : tree.Rooted) (first : tree.Unshared path e.buildVarPath)
    (second : tree.Unshared path e.headerPath) :
    replayed e path (replayed e path tree).2 = replayed e path tree := by
  have same : tapeAt path (replayed e path tree).2 = tapeAt path tree := by
    rw [tapeAt, tapeAt, (spared_replayed rooted first second).read]
  rw [replayed, same]
  unfold replayed
  cases tapeAt path tree with
  | error fault => rfl
  | ok tape =>
    cases e.checkNames with
    | error fault => rfl
    | ok => simp only [Emission.emitted_emitted rooted]

/-! A command line that replays. -/

variable {home : String} {arguments : List String} {line : CommandLine} {options : CassetteOptions}

/-- What an accepted command line that asks for the tape at `path` comes to. -/
def rehearsed (home : String) (line : CommandLine) (path : String) (tree : FileTree) :
    Except Failure Uuid × FileTree :=
  if line.explicit.isSome && line.top.isSet then (.error .misplacedOptions, tree)
  else ((replayed (emission home line) path tree).1.mapError .run,
    (replayed (emission home line) path tree).2)

theorem rehearsed_rehearsed (rooted : tree.Rooted)
    (first : tree.Unshared path (emission home line).buildVarPath)
    (second : tree.Unshared path (emission home line).headerPath) :
    rehearsed home line path (rehearsed home line path tree).2 = rehearsed home line path tree := by
  unfold rehearsed
  split
  · rfl
  · simp only [replayed_replayed rooted first second]

theorem spared_rehearsed (rooted : tree.Rooted)
    (first : tree.Unshared path (emission home line).buildVarPath)
    (second : tree.Unshared path (emission home line).headerPath) :
    FileTree.Spared path tree (rehearsed home line path tree).2 := by
  unfold rehearsed
  split
  · exact .refl _ _
  · exact spared_replayed rooted first second

section

variable (accepted : CommandLine.read arguments = .ok line)
  (generates : line.command = .generate options) (replays : options.replay = some path)

include accepted generates replays

theorem process_rehearsed (home : String) (setting : Option String) (s : Surroundings) :
    let o := process setting home arguments s
    o.result = (rehearsed home line path s.tree).1 ∧
      o.after.tree = (rehearsed home line path s.tree).2 ∧
      o.printed = output (rehearsed home line path s.tree).1 := by
  obtain ⟨result, after, printed⟩ := process_eq setting home arguments s
  dsimp only
  rw [printed, result, after]
  cases placed : line.explicit.isSome && line.top.isSet with
  | true =>
    rw [run_of_misplaced accepted placed, rehearsed, if_pos placed]
    exact ⟨rfl, rfl, rfl⟩
  | false =>
    obtain ⟨events, effect⟩ := run_generate_replay replays (emission home line) s
    rw [run_of_read accepted placed, generates, carryOut, effect, rehearsed,
      if_neg (Bool.not_eq_true _ ▸ placed)]
    exact ⟨rfl, rfl, rfl⟩

/-- Command lines that are the same are carried out one after the other, each in the tree that the
one before has left. All else may have changed in between. -/
def Repeats (home : String) (arguments : List String) (setting : Nat → Option String)
    (s : Nat → Surroundings) : Prop :=
  ∀ n, (s (n + 1)).tree = (process (setting n) home arguments (s n)).after.tree

theorem rehearsed_of_repeats {setting : Nat → Option String} {s : Nat → Surroundings}
    (rooted : (s 0).tree.Rooted)
    (first : (s 0).tree.Unshared path (emission home line).buildVarPath)
    (second : (s 0).tree.Unshared path (emission home line).headerPath)
    (repeats : Repeats home arguments setting s) (n : Nat) :
    rehearsed home line path (s n).tree = rehearsed home line path (s 0).tree := by
  induction n with
  | zero => rfl
  | succ n ih =>
    obtain ⟨-, left, -⟩ :=
      process_rehearsed accepted generates replays home (setting n) (s n)
    rw [repeats n, left, ih, rehearsed_rehearsed rooted first second]

/-- All replays with the same options are like the first one, provided the tape is in a file that is
none of the artifacts, if in any: they have its result, print what it prints and leave the tree that
it leaves. The tape is spared. -/
theorem process_repeats {setting : Nat → Option String} {s : Nat → Surroundings}
    (rooted : (s 0).tree.Rooted)
    (first : (s 0).tree.Unshared path (emission home line).buildVarPath)
    (second : (s 0).tree.Unshared path (emission home line).headerPath)
    (repeats : Repeats home arguments setting s) (n : Nat) :
    let once := process (setting 0) home arguments (s 0)
    let again := process (setting n) home arguments (s n)
    again.result = once.result ∧ again.printed = once.printed ∧
      again.after.tree = once.after.tree ∧ FileTree.Spared path (s 0).tree again.after.tree := by
  have same := rehearsed_of_repeats accepted generates replays rooted first second repeats n
  obtain ⟨result, left, printed⟩ :=
    process_rehearsed accepted generates replays home (setting 0) (s 0)
  obtain ⟨result', left', printed'⟩ :=
    process_rehearsed accepted generates replays home (setting n) (s n)
  dsimp only
  rw [result, left, printed, result', left', printed', same]
  exact ⟨rfl, rfl, rfl, spared_rehearsed rooted first second⟩

end

/-! A directory in which `uuid.h` is a directory itself: each replay stores the build variable and
fails at the header. -/

def jammedTape : Cassette := tapeOf Emission.linkedEmission tapeId Emission.linked.time

def jammedTree (buildVar : Option Contents) : FileTree where
  entries := (["uuid.h"], .directory) :: (["tape.yaml"], .file (.text jammedTape.write)) ::
    buildVar.toList.map fun contents => (["uuid.mk"], .file contents)
  workingDirectory := []

def retried : List String := ["generate", "--out-dir", ".", "--replay", "tape.yaml"]

def retriedLine : CommandLine where
  explicit := some (.generate ⟨none, some "tape.yaml"⟩)
  top := .none
  directory := some "."
  variableName := defaultName
  macroName := defaultName
  verbosity := 0

/-- The surroundings of the first try and of all later ones. -/
def tries : Nat → Surroundings
  | 0 => { Emission.linked with tree := jammedTree none }
  | n + 1 => (process none "" retried (tries n)).after

open FileTree in
theorem resolve_jammedTree (file : Option Contents) (purpose : Purpose) :
    (jammedTree file).resolve purpose "tape.yaml" = .ok ["tape.yaml"] ∧
      (jammedTree file).resolve purpose Emission.linkedEmission.buildVarPath = .ok ["uuid.mk"] ∧
      (jammedTree file).resolve purpose Emission.linkedEmission.headerPath = .ok ["uuid.h"] := by
  have tape : Path.ofString "tape.yaml" = ⟨false, ["tape.yaml"], false⟩ := by decide
  have buildVar : Path.ofString Emission.linkedEmission.buildVarPath =
      ⟨false, [".", "uuid.mk"], false⟩ := by decide
  have header : Path.ofString Emission.linkedEmission.headerPath =
      ⟨false, [".", "uuid.h"], false⟩ := by decide
  unfold resolve
  rw [tape, buildVar, header]
  cases file <;> simp +decide [walk, jammedTree, get?, List.lookup_cons]

theorem store_jammedTree : Emission.linkedEmission.store tapeId (jammedTree none) =
    (.error (.file Emission.linkedEmission.headerPath .isDirectory),
      jammedTree (some (.text (BuildVar.render defaultName tapeId)))) := by
  have here : (jammedTree none).isDirectory Emission.linkedEmission.directory = true := by
    have dot : FileTree.Path.ofString "." = ⟨false, ["."], false⟩ := by decide
    simp +decide [FileTree.isDirectory, FileTree.resolve, jammedTree, Emission.linkedEmission, dot,
      FileTree.walk]
  have first (contents : Contents) : (jammedTree none).write
      Emission.linkedEmission.buildVarPath contents = .ok (jammedTree (some contents)) := by
    rw [FileTree.write, (resolve_jammedTree none .create).2.1]
    rfl
  have second (contents contents' : Contents) : (jammedTree (some contents)).write
      Emission.linkedEmission.headerPath contents' = .error .isDirectory := by
    rw [FileTree.write, (resolve_jammedTree (some contents) .create).2.2]
    rfl
  simp only [Emission.store, first, second, here]
  rfl

theorem rehearsed_jammedTree : rehearsed "" retriedLine "tape.yaml" (jammedTree none) =
    (.error (.run (.file Emission.linkedEmission.headerPath .isDirectory)),
      jammedTree (some (.text (BuildVar.render defaultName tapeId)))) := by
  have loaded : tapeAt "tape.yaml" (jammedTree none) = .ok jammedTape := by
    have read : (jammedTree none).read "tape.yaml" = .ok jammedTape.write :=
      FileTree.read_of_resolve (resolve_jammedTree none .lookup).1 rfl
    have means : Cassette.read "tape.yaml" jammedTape.write = .ok jammedTape :=
      read_write_tapeOf _ _ _ _
    exact bind_eq_ok_iff.mpr ⟨_, mapError_eq_ok_iff.mpr read, means⟩
  have served : (Replayer.ofCassette jammedTape).nextId.1 = .ok tapeId :=
    (Replayer.nextId_of_serves (Replayer.serves_ofCassette rfl)).1
  have names : Emission.linkedEmission.checkNames = .ok () :=
    Emission.checkNames_eq_ok_iff.mpr ⟨by decide, by decide⟩
  have emission : emission "" retriedLine = Emission.linkedEmission := rfl
  have replayed : replayed Emission.linkedEmission "tape.yaml" (jammedTree none) =
      (.error (.file Emission.linkedEmission.headerPath .isDirectory),
        jammedTree (some (.text (BuildVar.render defaultName tapeId)))) := by
    simp only [Program.replayed, loaded, names, served, Emission.emitted, store_jammedTree]
    rfl
  rw [rehearsed, if_neg (by decide), emission, replayed]
  rfl

theorem process_repeats_jammed :
    CommandLine.read retried = .ok retriedLine ∧ (tries 0).tree.Rooted ∧
      (tries 0).tree.Unshared "tape.yaml" Emission.linkedEmission.buildVarPath ∧
      (tries 0).tree.Unshared "tape.yaml" Emission.linkedEmission.headerPath ∧
      Repeats "" retried (fun _ => none) tries ∧
      ∀ n, let again := process none "" retried (tries n)
        again.result = .error (.run (.file Emission.linkedEmission.headerPath .isDirectory)) ∧
        again.printed = "" ∧
        again.after.tree = jammedTree (some (.text (BuildVar.render defaultName tapeId))) ∧
        FileTree.Spared "tape.yaml" (jammedTree none) again.after.tree := by
  have accepted : CommandLine.read retried = .ok retriedLine := rfl
  have rooted : (tries 0).tree.Rooted := FileTree.isDirectoryPath_nil _
  obtain ⟨tape, buildVar, header⟩ := resolve_jammedTree none .lookup
  have first : (tries 0).tree.Unshared "tape.yaml" Emission.linkedEmission.buildVarPath := by
    intro place contents file led led'
    have same := (tape.symm.trans led).trans (led'.symm.trans buildVar)
    contradiction
  have second : (tries 0).tree.Unshared "tape.yaml" Emission.linkedEmission.headerPath := by
    intro place contents file led led'
    have same := (tape.symm.trans led).trans (led'.symm.trans header)
    contradiction
  have repeats : Repeats "" retried (fun _ => none) tries := fun _ => rfl
  refine ⟨accepted, rooted, first, second, repeats, ?_⟩
  intro n
  obtain ⟨result, left, printed⟩ := process_rehearsed accepted rfl rfl "" none (tries 0)
  obtain ⟨result', printed', left', spared⟩ :=
    process_repeats accepted rfl rfl rooted first second repeats n
  have jammed := rehearsed_jammedTree
  rw [show (tries 0).tree = jammedTree none from rfl, jammed] at result left printed
  exact ⟨result'.trans result, printed'.trans printed, left'.trans left, spared⟩

end Program

end TrustedAppId
