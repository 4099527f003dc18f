import TrustedAppId.Proofs.Emission.Ready
import TrustedAppId.Proofs.Program.Outcome
import TrustedAppId.Proofs.Replay.Booth
/-! Generating with a tape. A recording is finished whatever has become of the emission, and its
tape holds the identifier that was drawn. Replaying the tape emits that identifier again, into any
directory that is ready for it. -/
namespace TrustedAppId

open Emission

/-- An emission on its own. -/
def Emission.alone (e : Emission) (s : Surroundings) :
    Except Error Emitted × Context × Surroundings := Context.direct.exec e.emit.run s

/-- The identifiers that an emission takes if it is offered `u`. -/
def Emission.taken (e : Emission) (u : Uuid) : List Uuid := if e.checkNames.isOk then [u] else []

variable {e : Emission} {path : String} {s : Surroundings} {u : Uuid}

/-! Recording. -/

/-- To be recorded makes no difference to an emission. -/
theorem Emission.exec_emit_recording (drawn : s.ids.next.1 = .ok u) (r : Recorder) : ∃ events,
    (Context.recording r).exec e.emit.run s =
      ((e.alone s).1, .recording (r.recordIds (e.taken u)),
        { s with tree := (e.alone s).2.2.tree, ids := (e.alone s).2.2.ids, events }) := by
  obtain ⟨events, effect⟩ := e.exec_emit (.recording r) s
  obtain ⟨events', effect'⟩ := e.exec_emit .direct s
  refine ⟨events, ?_⟩
  rw [alone, effect, effect', taken]
  cases e.checkNames with
  | error fault => rfl
  | ok =>
    simp only [Context.draw, drawn]
    rfl

namespace Program

/-- The tape of an emission that is recorded. -/
def tapeOf (e : Emission) (u : Uuid) (time : Timestamp) : Cassette :=
  ((openedAt time).recordIds (e.taken u)).cassette time

/-- The tape is written behind the emission, and what becomes of it counts first. -/
theorem run_generate_record (drawn : s.ids.next.1 = .ok u) :
    let run := (generate e ⟨some path, none⟩).run.run s
    (run.1, run.2.tree) =
      match (e.alone s).2.2.tree.write path (.text (tapeOf e u s.time).write) with
      | .ok tree => ((e.alone s).1.map Emitted.id, tree)
      | .error fault => (.error (.file path fault), (e.alone s).2.2.tree) := by
  obtain ⟨events, effect⟩ := exec_emit_recording (e := e) drawn (openedAt s.time)
  have now : Run.now.run.run s = (.ok s.time, s) := rfl
  have finished := RecordingSession.finish_eq path ((openedAt s.time).recordIds (e.taken u))
    { s with tree := (e.alone s).2.2.tree, ids := (e.alone s).2.2.ids, events }
  rw [openedAt] at effect finished
  simp only [generate, Script.run_run_bind, now, RecordingSession.start, attempt,
    Context.run_lift_perform, effect, RecordingSession.afterClosing, finished, tapeOf, openedAt]
  cases (e.alone s).2.2.tree.write path _ with
  | error fault => rfl
  | ok tree =>
    cases (e.alone s).1 with
    | error fault => rfl
    | ok emitted => rfl

theorem interactions_tapeOf (e : Emission) (u : Uuid) (time : Timestamp) :
    (tapeOf e u time).interactions = if e.checkNames.isOk then
      [⟨0, idPort, idMethod, .null, .string u.text⟩] else [] := by
  have interactions := Recorder.interactions_recordIds ("ta-uuidgen-" ++ time.label) (e.taken u)
  rw [taken] at interactions
  rw [tapeOf, taken]
  refine interactions.trans ?_
  split
  · rfl
  · rfl

theorem read_write_tapeOf (e : Emission) (u : Uuid) (time : Timestamp) (path : String) :
    Cassette.read path (tapeOf e u time).write = .ok (tapeOf e u time) := by
  have few : (e.taken u).length ≤ Nat.pow 2 64 := by
    rw [taken]
    split
    · exact Nat.one_le_two_pow
    · exact Nat.zero_le _
  exact Recorder.read_write_recordIds few _ path time

theorem extends_alone (e : Emission) (rooted : s.tree.Rooted) :
    FileTree.Extends s.tree (e.alone s).2.2.tree :=
  (Context.direct.perform e.emit.run).extends_run rooted

/-- If there is room for the tape, it is stored behind the emission, which decides the result. -/
theorem stores_of_writable (rooted : s.tree.Rooted) (drawn : s.ids.next.1 = .ok u)
    (writable : s.tree.Writable path) :
    let run := (generate e ⟨some path, none⟩).run.run s
    run.1 = (e.alone s).1.map Emitted.id ∧ ∃ place,
      FileTree.Stores (e.alone s).2.2.tree path (.text (tapeOf e u s.time).write) run.2.tree
        place := by
  have extends' := extends_alone e rooted
  obtain ⟨tree, written⟩ := extends'.write writable (.text (tapeOf e u s.time).write)
  have run := @run_generate_record e path s u drawn
  rw [written] at run
  obtain ⟨result, rfl⟩ := Prod.mk.inj run
  exact ⟨result, (extends'.rooted rooted).stores written⟩

/-! Replaying. -/

/-- A tape that serves `u` lets `u` be emitted, wherever there is nothing in the way. -/
theorem store_of_replay {c : Cassette} (loaded : (Cassette.load path).run.run s = (.ok c, s))
    (serves : (Replayer.ofCassette c).Serves [u]) (names : e.checkNames = .ok ())
    (random : u.isRandom = true) (rooted : s.tree.Rooted) (ready : e.Ready s.tree) :
    let run := (generate e ⟨none, some path⟩).run.run s
    run.1 = .ok u ∧
      e.store u s.tree = (.ok ⟨u, e.buildVarPath, e.headerPath⟩, run.2.tree) := by
  obtain ⟨events, effect⟩ := e.exec_emit (.replaying (.ofCassette c)) s
  obtain ⟨served, -⟩ := Replayer.nextId_of_serves serves
  have stored := ready.store rooted random
  simp only [names, Context.draw, served, emitted, stored] at effect
  simp only [generate, Script.run_run_bind, Context.openReplay_eq loaded, attempt,
    Context.run_lift_perform, effect]
  exact ⟨rfl, Prod.ext stored rfl⟩

/-! Both. -/

theorem watch_generate (filter : LogFilter) (e : Emission) (options : CassetteOptions)
    (s : Surroundings) :
    let run := (generate e options).run.run s
    let o := (generate e options).run.watch filter s
    o.result = run.1 ∧ o.after = run.2 ∧ o.printed = output (run.1.mapError .run) :=
  ⟨Script.result_watch _ _ _, Script.after_watch _ _ _, reports_generate _ _ _⟩

/-- Any later replay of the tape in `tree` prints `u` and writes its artifacts, if there is nothing
in their way. -/
def Replays (e : Emission) (path : String) (u : Uuid) (tree : FileTree) : Prop :=
  ∀ (filter : LogFilter) (e' : Emission) (s' : Surroundings), s'.tree.Rooted →
    s'.tree.read path = tree.read path → e'.variableName = e.variableName →
    e'.macroName = e.macroName → e'.Ready s'.tree →
    s'.tree.Separate e'.buildVarPath e'.headerPath →
    let o := (generate e' ⟨none, some path⟩).run.watch filter s'
    o.result = .ok u ∧ o.printed = u.text ++ "\n" ∧
      e'.Holds (BuildVar.render e.variableName u) (Header.render e.macroName u) o.after.tree

theorem replays_tapeOf {tree : FileTree} {time : Timestamp}
    (stored : tree.read path = .ok (tapeOf e u time).write) (names : e.checkNames = .ok ())
    (random : u.isRandom = true) : Replays e path u tree := by
  intro filter e' s' rooted same variableName macroName ready separate
  have names' : e'.checkNames = .ok () := by
    rw [checkNames_eq_ok_iff, variableName, macroName]
    exact checkNames_eq_ok_iff.mp names
  have loaded := Cassette.load_of_read (same.trans stored) (read_write_tapeOf e u time path)
  have recorded : (tapeOf e u time).interactions =
      ((Recorder.start ("ta-uuidgen-" ++ time.label)).recordIds [u]).interactions := by
    rw [tapeOf, taken, names]
    rfl
  obtain ⟨emitted, stored'⟩ :=
    store_of_replay loaded (Replayer.serves_ofCassette recorded) names' random rooted ready
  obtain ⟨result, after, printed⟩ := watch_generate filter e' ⟨none, some path⟩ s'
  rw [emitted] at result printed
  refine ⟨result, printed, ?_⟩
  rw [after, ← variableName, ← macroName]
  exact holds_of_store rooted separate stored'

/-- The outcome of recording an emission for which `u` was drawn. -/
structure Records (e : Emission) (path : String) (s : Surroundings) (u : Uuid)
    (o : Outcome (Except Error Uuid)) : Prop where
  result : o.result = (e.alone s).1.map Emitted.id
  tape : ∃ c, ((Cassette.load path).run.run o.after).1 = .ok c ∧ c.interactions =
    if e.checkNames.isOk then [⟨0, idPort, idMethod, .null, .string u.text⟩] else []
  artifacts : ∀ file ∈ [e.buildVarPath, e.headerPath], ∀ text,
    o.after.tree.read file = .ok text ↔ (e.alone s).2.2.tree.read file = .ok text
  written : ∀ v, o.result = .ok v → s.tree.Separate e.buildVarPath e.headerPath →
    v = u ∧ e.Holds (BuildVar.render e.variableName u) (Header.render e.macroName u) o.after.tree
  replayed : e.checkNames = .ok () → u.isRandom = true → Replays e path u o.after.tree

/-- An emission that succeeds has stored the identifier that was drawn. -/
theorem holds_of_alone {emitted : Emitted} (rooted : s.tree.Rooted)
    (drawn : s.ids.next.1 = .ok u) (separate : s.tree.Separate e.buildVarPath e.headerPath)
    (succeeded : (e.alone s).1 = .ok emitted) : emitted.id = u ∧
      e.Holds (BuildVar.render e.variableName u) (Header.render e.macroName u)
        (e.alone s).2.2.tree := by
  obtain ⟨-, v, drawn', stored⟩ := store_of_emit succeeded
  obtain rfl : u = v := Except.ok.inj (drawn.symm.trans drawn')
  exact ⟨(store_eq_ok rooted stored).1, holds_of_store rooted separate stored⟩

theorem records_of_writable (filter : LogFilter) (rooted : s.tree.Rooted)
    (drawn : s.ids.next.1 = .ok u) (first : s.tree.Separate path e.buildVarPath)
    (second : s.tree.Separate path e.headerPath) (writable : s.tree.Writable path) :
    Records e path s u ((generate e ⟨some path, none⟩).run.watch filter s) := by
  obtain ⟨result, after, -⟩ := watch_generate filter e ⟨some path, none⟩ s
  obtain ⟨emitted, place, stores⟩ := stores_of_writable (e := e) rooted drawn writable
  have extends' := extends_alone e rooted
  have same : ∀ file ∈ [e.buildVarPath, e.headerPath], ∀ text,
      ((generate e ⟨some path, none⟩).run.run s).2.tree.read file = .ok text ↔
        (e.alone s).2.2.tree.read file = .ok text := by
    intro file mem text
    refine stores.read_iff (extends'.rooted rooted) (.of_extends extends' ?_)
    rcases List.mem_pair.mp mem with rfl | rfl
    · exact first
    · exact second
  constructor
  · exact result.trans emitted
  · rw [after]
    refine ⟨tapeOf e u s.time, ?_, interactions_tapeOf e u s.time⟩
    rw [Cassette.load_of_read stores.read (read_write_tapeOf e u s.time path)]
  · rw [after]
    exact same
  · rw [result, after, emitted]
    intro v succeeded separate
    cases alone : (e.alone s).1 with
    | error fault =>
      rw [alone] at succeeded
      contradiction
    | ok emitted' =>
      rw [alone] at succeeded
      obtain rfl : emitted'.id = v := Except.ok.inj succeeded
      obtain ⟨rfl, buildVar, header⟩ := holds_of_alone rooted drawn separate alone
      exact ⟨rfl, (same _ List.mem_cons_self _).mpr buildVar,
        (same _ (List.mem_cons_of_mem _ List.mem_cons_self) _).mpr header⟩
  · rw [after]
    exact replays_tapeOf stores.read

/-- A recording succeeds if there is room for the tape and the emission succeeds. The tape holds the
identifier that was drawn even if the emission fails. -/
theorem generate_record (filter : LogFilter) (rooted : s.tree.Rooted)
    (drawn : s.ids.next.1 = .ok u) (first : s.tree.Separate path e.buildVarPath)
    (second : s.tree.Separate path e.headerPath) :
    let o := (generate e ⟨some path, none⟩).run.watch filter s
    (s.tree.Writable path → Records e path s u o) ∧
      (¬ s.tree.Writable path → (∃ fault, o.result = .error (.file path fault)) ∧
        o.printed = "" ∧ o.after.tree = (e.alone s).2.2.tree) := by
  refine ⟨records_of_writable filter rooted drawn first second, ?_⟩
  intro blocked
  obtain ⟨result, after, printed⟩ := watch_generate filter e ⟨some path, none⟩ s
  have run := @run_generate_record e path s u drawn
  cases written : (e.alone s).2.2.tree.write path (.text (tapeOf e u s.time).write) with
  | ok tree =>
    have writable := (FileTree.writable_iff_write _).mpr ⟨tree, written⟩
    exact absurd ((extends_alone e rooted).writable_iff.mp writable) blocked
  | error fault =>
    rw [written] at run
    obtain ⟨failed, left⟩ := Prod.mk.inj run
    rw [failed] at result printed
    exact ⟨⟨fault, result⟩, printed, after ▸ left⟩

/-! One emission in the studio, and its tape. -/

def take : Emission := ⟨"out", "TA_UUID", "TA_UUID"⟩

open FileTree in
theorem separate_take {file : String} (mem : file ∈ ["out/uuid.mk", "out/uuid.h"]) :
    studio.tree.Separate "tape.yaml" file := by
  intro place led
  have tape : studio.tree.resolve .create "tape.yaml" = .ok ["tape.yaml"] :=
    Cassette.resolve_tapeTree _ _
  obtain rfl : ["tape.yaml"] = place := Except.ok.inj (tape.symm.trans led)
  have buildVar : Path.ofString "out/uuid.mk" = ⟨false, ["out", "uuid.mk"], false⟩ := by decide
  have header : Path.ofString "out/uuid.h" = ⟨false, ["out", "uuid.h"], false⟩ := by decide
  unfold resolve
  rcases List.mem_pair.mp mem with rfl | rfl
  · simp +decide [buildVar, walk, studio, Cassette.tapeTree, get?, List.lookup_cons]
  · simp +decide [header, walk, studio, Cassette.tapeTree, get?, List.lookup_cons]

theorem generate_record_take :
    studio.tree.Rooted ∧ studio.ids.next.1 = .ok tapeId ∧
      studio.tree.Separate "tape.yaml" take.buildVarPath ∧
      studio.tree.Separate "tape.yaml" take.headerPath ∧ studio.tree.Writable "tape.yaml" ∧
      Records take "tape.yaml" studio tapeId
        ((generate take ⟨some "tape.yaml", none⟩).run.watch ⟨[]⟩ studio) := by
  have rooted : studio.tree.Rooted := FileTree.isDirectoryPath_nil _
  have first : studio.tree.Separate "tape.yaml" take.buildVarPath := separate_take (by decide)
  have second : studio.tree.Separate "tape.yaml" take.headerPath := separate_take (by decide)
  have writable : studio.tree.Writable "tape.yaml" :=
    ⟨_, Cassette.resolve_tapeTree _ _, by decide⟩
  obtain ⟨records, -⟩ := generate_record ⟨[]⟩ rooted rfl first second
  exact ⟨rooted, rfl, first, second, writable, records writable⟩

end Program

end TrustedAppId
