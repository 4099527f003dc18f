import TrustedAppId.Proofs.Replay.Simulation
/-! Recording sessions and their cassettes. A session stores its cassette in the file that its path
leads to; opened again, the cassette serves what the session has drawn. -/
namespace TrustedAppId

variable {original : FileTree} {place : Location} {old : Contents} {path : String} {r : Recorder}
  {s : Surroundings}

namespace RecordingSession

theorem finish_eq (path : String) (r : Recorder) (s : Surroundings) :
    (finish ⟨path, some r⟩).run.run s =
      match s.tree.write path (.text (r.cassette s.time).write) with
      | .ok tree => (.ok path, { s with tree })
      | .error fault => (.error (.file path fault), s) := by
  have written (text : String) : (Run.putFile path text).run.run s =
      match s.tree.write path (.text text) with
      | .ok tree => (.ok (), { s with tree })
      | .error fault => (.error (.file path fault), s) := by
    rw [Run.putFile, ExceptT.run_mk, Script.run]
    cases s.tree.write path (.text text) with
    | ok tree => rfl
    | error fault => rfl
  have now : Run.now.run.run s = (.ok s.time, s) := rfl
  simp only [finish, Script.run_run_bind, now, written]
  cases s.tree.write path (.text (r.cassette s.time).write) with
  | ok tree => rfl
  | error fault => rfl

variable (rooted : original.Rooted) (extends' : FileTree.Extends original s.tree)

include rooted extends'

/-- A session that finishes has stored its cassette, in the file that has been there all along. -/
theorem stores_of_finish (led : original.resolve .lookup path = .ok place)
    (finished : ((finish ⟨path, some r⟩).run.run s).1 = .ok path) :
    FileTree.Stores s.tree path (.text (r.cassette s.time).write)
      ((finish ⟨path, some r⟩).run.run s).2.tree place := by
  rw [finish_eq] at finished ⊢
  cases written : s.tree.write path (.text (r.cassette s.time).write) with
  | error fault => simp only [written, reduceCtorEq] at finished
  | ok tree =>
    obtain ⟨place', stores⟩ := (extends'.rooted rooted).stores written
    have led' := (FileTree.Extends.refl original).resolve (extends'.resolve_back stores.led)
      (by decide : FileTree.Purpose.lookup ≠ .entry)
    obtain rfl : place' = place := Except.ok.inj (led'.symm.trans led)
    exact stores

omit rooted in
theorem finish_of_resolve (file : original.get? place = some (.file old))
    (led : original.resolve .create path = .ok place) :
    ((finish ⟨path, some r⟩).run.run s).1 = .ok path := by
  obtain ⟨contents, there⟩ := extends'.file file
  have written : s.tree.write path (.text (r.cassette s.time).write) = .ok _ :=
    FileTree.write_eq_ok_iff.mpr
      ⟨place, extends'.resolve led (by decide), by simp [there], rfl⟩
  rw [finish_eq, written]

end RecordingSession

theorem Context.openReplay_eq {c : Cassette} (loaded : (Cassette.load path).run.run s = (.ok c, s)) :
    (openReplay path).run.run s = (.ok (.replaying (.ofCassette c)), s) := by
  simp only [openReplay, Script.run_run_bind, loaded]
  rfl

/-- Records steps on the cassette at `path`: carries them out, closes the context and lets the
session write the cassette. -/
def recordSteps (path : String) (began : Timestamp) (steps : List Step) (s : Surroundings) :
    List Answer × Except Error String × Surroundings :=
  let (session, context) := RecordingSession.start path began
  let (answers, context, s) := context.carryOut steps s
  let (finished, s) := (session.afterClosing context).finish.run.run s
  (answers, finished, s)

/-- Carries out steps with the identifiers of the cassette at `path`. -/
def replaySteps (path : String) (steps : List Step) (s : Surroundings) :
    Except Error (List Answer × Context × Surroundings) :=
  match (Context.openReplay path).run.run s with
  | (.error fault, _) => .error fault
  | (.ok context, s) => .ok (context.carryOut steps s)

/-- The recorder of a session that is opened at this time. -/
def openedAt (began : Timestamp) : Recorder := .start ("ta-uuidgen-" ++ began.label)

variable {began : Timestamp} {steps : List Step}

theorem recordSteps_eq
    (context : ((Context.recording (openedAt began)).carryOut steps s).2.1 = .recording r) :
    recordSteps path began steps s =
      (((Context.recording (openedAt began)).carryOut steps s).1,
        (RecordingSession.finish ⟨path, some r⟩).run.run
          ((Context.recording (openedAt began)).carryOut steps s).2.2) := by
  rw [openedAt] at context ⊢
  simp only [recordSteps, RecordingSession.start, context]
  rfl

section

variable (rooted : s.tree.Rooted) (file : s.tree.get? place = some (.file old))
  (others : ∀ step ∈ steps, ∀ used ∈ step.paths, s.tree.resolve .lookup used ≠ .ok place)
  (neverFails : s.ids.NeverFails)

include rooted file others neverFails

/-- A recording finishes if its cassette can be written to begin with. -/
theorem recordSteps_finishes (led : s.tree.resolve .create path = .ok place) :
    (recordSteps path began steps s).2.1 = .ok path := by
  obtain ⟨ids, -, run⟩ := recorded_carryOut file rooted neverFails (.refl s.tree) others
    (openedAt began)
  rw [recordSteps_eq run.context]
  exact RecordingSession.finish_of_resolve run.extends' file led

/-- A recording that finishes has its cassette in the file that was there before. -/
theorem recordSteps_stored (led : s.tree.resolve .lookup path = .ok place)
    (finished : (recordSteps path began steps s).2.1 = .ok path) :
    ∃ text, (recordSteps path began steps s).2.2.tree.get? place = some (.file (.text text)) := by
  obtain ⟨ids, -, run⟩ := recorded_carryOut file rooted neverFails (.refl s.tree) others
    (openedAt began)
  rw [recordSteps_eq run.context] at finished ⊢
  exact ⟨_, (RecordingSession.stores_of_finish rooted run.extends' led finished).stored⟩

/-- Steps that have been recorded come to the same when they are replayed from the cassette, in the
tree as it was before but for the cassette's own file. Then the cassette is used up. Identifiers on
a cassette are counted in 64 bits, so there must not be more of them. -/
theorem replaySteps_recordSteps {s' : Surroundings} (few : steps.countP Step.draws ≤ Nat.pow 2 64)
    (led : s.tree.resolve .lookup path = .ok place)
    (finished : (recordSteps path began steps s).2.1 = .ok path)
    (apart : FileTree.EqualApart place s.tree s'.tree)
    (cassette : s'.tree.get? place = (recordSteps path began steps s).2.2.tree.get? place) :
    ∃ answers context s'', replaySteps path steps s' = .ok (answers, context, s'') ∧
      answers = (recordSteps path began steps s).1 ∧
      FileTree.EqualApart place (recordSteps path began steps s).2.2.tree s''.tree ∧
      ∃ fault, (context.exec Run.draw.run s'').1 = .error (.cassette fault) := by
  obtain ⟨ids, count, run⟩ := recorded_carryOut file rooted neverFails (.refl s.tree) others
    (openedAt began)
  rw [recordSteps_eq run.context] at finished cassette ⊢
  have stores := RecordingSession.stores_of_finish rooted run.extends' led finished
  have parallel := FileTree.Parallel.of_apart apart file (cassette.trans stores.stored)
  let tape := ((openedAt began).recordIds ids).cassette
    ((Context.recording (openedAt began)).carryOut steps s).2.2.time
  have means : Cassette.read path tape.write = .ok tape :=
    Recorder.read_write_recordIds (count ▸ few) _ path _
  have there := FileTree.read_of_resolve ((parallel.resolve_eq file .lookup path).trans led)
    (cassette.trans stores.stored)
  have opened := Context.openReplay_eq (Cassette.load_of_read there means)
  have serves : (Replayer.ofCassette tape).Serves (ids ++ []) := by
    rw [List.append_nil]
    exact Replayer.serves_ofCassette rfl
  obtain ⟨same, ⟨left, inReplay, nothing⟩, after⟩ := run.followed _ s' [] serves parallel
  refine ⟨_, _, _, by rw [replaySteps, opened], same, stores.apart.symm.trans after.apart, ?_⟩
  obtain ⟨fault, failed⟩ := Replayer.nextId_of_serves_nil nothing
  refine ⟨fault, ?_⟩
  rw [inReplay, Context.exec_run_draw]
  exact failed

end

/-! Five steps in a studio with one directory and a blank tape. Only the first identifier is of
version 4. -/

def tapeId : Uuid := ⟨0x8aaaf200245041e4abe20002a5d5c51b⟩

def studio : Surroundings where
  tree := Cassette.tapeTree (.text "")
  ids := ⟨fun n => .ok (if n = 0 then tapeId else ⟨0x8aaaf200245011e4abe20002a5d5c51b⟩), 0⟩
  time := Cassette.leapSecond
  events := []

def takes : List Step :=
  [.emit ⟨"out", "TA_UUID", "TA_UUID"⟩, .emit ⟨"out", "1", "TA_UUID"⟩,
    .emit ⟨"gone", "TA_UUID", "TA_UUID"⟩, .nextId, .verify ⟨"out", "TA_UUID", "TA_UUID"⟩]

open FileTree

theorem others_takes (step : Step) (mem : step ∈ takes) (used : String) (path : used ∈ step.paths) :
    studio.tree.resolve .lookup used ≠ .ok ["tape.yaml"] := by
  have paths : takes.flatMap Step.paths = ["out/uuid.mk", "out/uuid.h", "gone/uuid.mk",
      "gone/uuid.h", "out/uuid.mk", "out/uuid.h"] := by decide
  have mem := List.mem_flatMap.mpr ⟨step, mem, path⟩
  have buildVar : Path.ofString "out/uuid.mk" = ⟨false, ["out", "uuid.mk"], false⟩ := by decide
  have header : Path.ofString "out/uuid.h" = ⟨false, ["out", "uuid.h"], false⟩ := by decide
  have buildVar' : Path.ofString "gone/uuid.mk" = ⟨false, ["gone", "uuid.mk"], false⟩ := by decide
  have header' : Path.ofString "gone/uuid.h" = ⟨false, ["gone", "uuid.h"], false⟩ := by decide
  simp only [paths, List.mem_cons, List.not_mem_nil, or_false] at mem
  unfold resolve
  rcases mem with rfl | rfl | rfl | rfl | rfl | rfl <;>
    simp +decide [buildVar, header, buildVar', header', walk, studio, Cassette.tapeTree, get?,
      List.lookup_cons]

theorem replaySteps_recordSteps_studio :
    takes.countP Step.draws ≤ Nat.pow 2 64 ∧ studio.tree.Rooted ∧ studio.ids.NeverFails ∧
      studio.tree.get? ["tape.yaml"] = some (.file (.text "")) ∧
      studio.tree.resolve .lookup "tape.yaml" = .ok ["tape.yaml"] ∧
      (∀ step ∈ takes, ∀ used ∈ step.paths,
        studio.tree.resolve .lookup used ≠ .ok ["tape.yaml"]) ∧
      let recording := recordSteps "tape.yaml" Cassette.leapSecond takes studio
      recording.2.1 = .ok "tape.yaml" ∧ ∃ s', EqualApart ["tape.yaml"] studio.tree s'.tree ∧
        s'.tree.get? ["tape.yaml"] = recording.2.2.tree.get? ["tape.yaml"] ∧
        ∃ answers context s'', replaySteps "tape.yaml" takes s' = .ok (answers, context, s'') ∧
          answers = recording.1 ∧ EqualApart ["tape.yaml"] recording.2.2.tree s''.tree ∧
          ∃ fault, (context.exec Run.draw.run s'').1 = .error (.cassette fault) := by
  have few : takes.countP Step.draws ≤ Nat.pow 2 64 := by decide
  have rooted : studio.tree.Rooted := isDirectoryPath_nil _
  have neverFails : studio.ids.NeverFails := fun _ => ⟨_, rfl⟩
  have file : studio.tree.get? ["tape.yaml"] = some (.file (.text "")) := by decide
  have led : studio.tree.resolve .lookup "tape.yaml" = .ok ["tape.yaml"] :=
    Cassette.resolve_tapeTree _ _
  have finished : (recordSteps "tape.yaml" Cassette.leapSecond takes studio).2.1 =
      .ok "tape.yaml" :=
    recordSteps_finishes rooted file others_takes neverFails
      (Cassette.resolve_tapeTree _ _)
  obtain ⟨text, stored⟩ :=
    recordSteps_stored rooted file others_takes neverFails led finished
  have proper : ["tape.yaml"] ≠ [] := List.cons_ne_nil _ _
  let after : Surroundings :=
    { studio with tree := studio.tree.set ["tape.yaml"] (.file (.text text)) }
  have apart : EqualApart ["tape.yaml"] studio.tree after.tree := .set proper studio.tree _
  have cassette : after.tree.get? ["tape.yaml"] =
      (recordSteps "tape.yaml" Cassette.leapSecond takes studio).2.2.tree.get? ["tape.yaml"] := by
    rw [stored]
    exact (get?_set proper _ _).trans (if_pos rfl)
  exact ⟨few, rooted, neverFails, file, led, others_takes, finished, after, apart, cassette,
    replaySteps_recordSteps rooted file others_takes neverFails few led finished apart cassette⟩

end TrustedAppId
