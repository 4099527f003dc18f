import TrustedAppId.Proofs.Replay.Sessions
/-! A recording session move by move. Its context may be used, closed or replaced, and the session
may be asked for its cassette, in any order. What has been recorded is at all times what the
generator of the session has returned; calls that fail leave no trace. -/
namespace TrustedAppId

/-! The generator. -/

namespace IdStream

variable (ids : IdStream)

/-- The generator after this many requests. -/
def after (count : Nat) : IdStream := { ids with drawn := ids.drawn + count }

/-- The identifiers that this many requests return, those that fail left out. -/
def returned (count : Nat) : List Uuid :=
  (List.range count).filterMap fun i => (ids.draw (ids.drawn + i)).toOption

theorem returned_succ (count : Nat) :
    ids.returned (count + 1) = ids.returned count ++ (ids.after count).next.1.toOption.toList := by
  rw [returned, List.range_succ, List.filterMap_append, returned]
  congr 1

theorem length_returned_le (count : Nat) : (ids.returned count).length ≤ count :=
  (List.length_filterMap_le _ _).trans_eq List.length_range

end IdStream

theorem Recorder.recordIds_returned (r : Recorder) (ids : IdStream) (count : Nat) :
    r.recordIds (ids.returned (count + 1)) =
      (r.recordIds (ids.returned count)).recordId (ids.after count).next.1 := by
  rw [IdStream.returned_succ, recordIds_append]
  cases (ids.after count).next.1 with
  | error fault => rfl
  | ok u => rfl

/-- A script leads no path elsewhere. -/
theorem Script.extends_run {α : Type} (m : Script α) {s : Surroundings} (rooted : s.tree.Rooted) :
    FileTree.Extends s.tree (m.run s).2.tree := by
  induction m generalizing s with
  | done a => exact .refl _
  | draw next ih => exact ih _ (s := { s with ids := s.ids.next.2 }) rooted
  | isDirectory path next ih => exact ih _ rooted
  | read path next ih => exact ih _ rooted
  | write path text next ih =>
    rw [run]
    cases written : s.tree.write path (.text text) with
    | ok tree =>
      obtain ⟨place, stores⟩ := rooted.stores written
      have rooted' := stores.extends'.rooted rooted
      exact stores.extends'.trans (ih _ (s := { s with tree }) rooted')
    | error fault => exact ih _ rooted
  | now next ih => exact ih _ rooted
  | log event next ih => exact ih (s := { s with events := event :: s.events }) rooted
  | print text next ih => exact ih rooted

/-! Moves. -/

/-- A session and the context that is open, if any. -/
structure Booth where
  /-- Absent once the session has been asked for its cassette. -/
  session : Option RecordingSession
  context : Option Context
  /-- The context is the one that the session was started with. -/
  own : Bool
  surroundings : Surroundings

inductive Move where
  /-- A step in the context that is open. -/
  | call (step : Step)
  | close
  /-- Another context with a generator of its own, instead of the one that is open. -/
  | replace (other : Context) (ids : IdStream)
  | finish

namespace Move

/-- A move that closes no context. -/
def keeps : Move → Bool
  | .call _ | .finish => true
  | .close | .replace .. => false

/-- A move that asks for an identifier. -/
def asks : Move → Bool
  | .call step => step.draws
  | .close | .replace .. | .finish => false

end Move

/-- How often the generator of a session is asked: only until its context is closed. -/
def asked (moves : List Move) : Nat := (moves.takeWhile Move.keeps).countP Move.asks

theorem asked_call (step : Step) (rest : List Move) :
    asked (.call step :: rest) = (if step.draws then 1 else 0) + asked rest := by
  rw [asked, List.takeWhile_cons_of_pos rfl, List.countP_cons, Nat.add_comm]
  rfl

namespace Booth

def start (path : String) (began : Timestamp) (s : Surroundings) : Booth :=
  let (session, context) := RecordingSession.start path began
  ⟨some session, some context, true, s⟩

/-- Closes the context. The session is told of its own one only. -/
def close (b : Booth) : Booth :=
  match b.context with
  | none => b
  | some context =>
    { b with
      session := if b.own then b.session.map (·.afterClosing context) else b.session
      context := none
      own := false }

def finished (b : Booth) (session : RecordingSession) : Except Error String × Surroundings :=
  session.finish.run.run b.surroundings

def step (b : Booth) : Move → Booth
  | .call step =>
    match b.context with
    | none => b
    | some context =>
      let (_, context, surroundings) := context.exec step.script b.surroundings
      { b with context := some context, surroundings }
  | .close => b.close
  | .replace other ids =>
    { b.close with context := some other, surroundings := { b.surroundings with ids } }
  | .finish =>
    match b.session with
    | none => b
    | some session => { b with session := none, surroundings := (b.finished session).2 }

def run (b : Booth) (moves : List Move) : Booth := moves.foldl step b

/-- Where recordings go: into the context, and from there to the session. -/
def recorder? (b : Booth) : Option Recorder :=
  if b.own then
    match b.context with
    | some (.recording r) => some r
    | _ => none
  else b.session.bind RecordingSession.recorder

/-- What has been recorded, and whether the context of the session is still open. -/
structure Holds (path : String) (r : Recorder) (open' : Bool) (b : Booth) : Prop where
  own : b.own = open'
  context : open' = true → b.context = some (.recording r)
  session : ∀ session, b.session = some session →
    session = ⟨path, if open' then none else some r⟩

variable {b : Booth} {path : String} {r : Recorder} {open' : Bool}

/-- As long as there is a context or a session to hold it, there is a recorder, and it is this. -/
theorem Holds.recorder?_eq (h : Holds path r open' b)
    (held : open' = true ∨ ∃ session, b.session = some session) : b.recorder? = some r := by
  rw [recorder?, h.own]
  cases open' with
  | true =>
    rw [h.context rfl]
    rfl
  | false =>
    obtain ⟨session, there⟩ := held.resolve_left Bool.false_ne_true
    rw [there, h.session session there]
    rfl

theorem Holds.recorder (h : Holds path r open' b) {r' : Recorder} (there : b.recorder? = some r') :
    r' = r := by
  have held : open' = true ∨ ∃ session, b.session = some session := by
    cases open' with
    | true => exact .inl rfl
    | false =>
      rw [recorder?, h.own] at there
      obtain ⟨session, found, -⟩ := Option.bind_eq_some_iff.mp there
      exact .inr ⟨session, found⟩
  exact Option.some.inj (there.symm.trans (h.recorder?_eq held))

/-- A step in the context of the session. -/
theorem Holds.call (h : Holds path r true b) (step : Step) :
    (b.step (.call step)).surroundings.ids =
        (if step.draws then b.surroundings.ids.next.2 else b.surroundings.ids) ∧
      Holds path (if step.draws then r.recordId b.surroundings.ids.next.1 else r) true
        (b.step (.call step)) := by
  rw [Booth.step, h.context rfl]
  dsimp only
  cases draws : step.draws with
  | true =>
    obtain ⟨events, effect⟩ := Step.exec_of_draws (.recording r) b.surroundings draws
    rw [effect]
    exact ⟨rfl, h.own, fun _ => rfl, h.session⟩
  | false =>
    obtain ⟨events, effect⟩ :=
      Step.exec_of_not_draws (.recording r) b.surroundings draws b.surroundings.ids.next.1
    rw [effect]
    exact ⟨rfl, h.own, fun _ => rfl, h.session⟩

theorem Holds.close (h : Holds path r open' b) : Holds path r false b.close := by
  rw [Booth.close]
  cases opened : b.context with
  | none =>
    cases open' with
    | true =>
      rw [h.context rfl] at opened
      cases opened
    | false => exact h
  | some context =>
    refine ⟨rfl, nofun, ?_⟩
    intro session there
    dsimp only at there
    rw [h.own] at there
    cases open' with
    | true =>
      rw [h.context rfl, Option.some.injEq] at opened
      obtain ⟨before, found, rfl⟩ := Option.map_eq_some_iff.mp there
      rw [h.session before found, ← opened]
      rfl
    | false => exact h.session session there

theorem Holds.finish (h : Holds path r open' b) : Holds path r open' (b.step .finish) := by
  rw [Booth.step]
  cases b.session with
  | none => exact h
  | some session => exact ⟨h.own, h.context, nofun⟩

/-- Once the context has been closed, nothing more is recorded. -/
theorem Holds.step (h : Holds path r false b) (move : Move) : Holds path r false (b.step move) := by
  cases move with
  | call step =>
    rw [Booth.step]
    cases b.context with
    | none => exact h
    | some context => exact ⟨h.own, nofun, h.session⟩
  | close => exact h.close
  | replace other ids => exact ⟨h.close.own, nofun, h.close.session⟩
  | finish => exact h.finish

theorem Holds.run (h : Holds path r false b) (moves : List Move) :
    Holds path r false (b.run moves) := by
  induction moves generalizing b with
  | nil => exact h
  | cons move rest ih => exact ih (h.step move)

/-- To finish too early changes nothing. -/
theorem finished_of_open (h : Holds path r true b) {session : RecordingSession}
    (there : b.session = some session) :
    b.finished session = (.error (.cassette .recorderInUse), b.surroundings) := by
  rw [h.session session there]
  rfl

theorem finished_of_closed (h : Holds path r false b) {session : RecordingSession}
    (there : b.session = some session) :
    b.finished session = (RecordingSession.finish ⟨path, some r⟩).run.run b.surroundings := by
  rw [h.session session there]
  rfl

/-- The generator has been asked `count` times, and what it has returned has been recorded. -/
structure Tells (path : String) (began : Timestamp) (ids : IdStream) (count : Nat) (b : Booth) :
    Prop where
  holds : Holds path ((openedAt began).recordIds (ids.returned count)) true b
  generator : b.surroundings.ids = ids.after count

variable {began : Timestamp} {ids : IdStream} {count : Nat}

theorem Tells.call (h : Tells path began ids count b) (step : Step) :
    Tells path began ids (if step.draws then count + 1 else count) (b.step (.call step)) := by
  obtain ⟨generator, holds⟩ := h.holds.call step
  rw [h.generator] at generator holds
  cases draws : step.draws with
  | true =>
    rw [draws, if_pos rfl] at generator holds
    rw [if_pos rfl]
    refine ⟨?_, generator⟩
    rw [Recorder.recordIds_returned]
    exact holds
  | false =>
    rw [draws, if_neg Bool.false_ne_true] at generator holds
    rw [if_neg Bool.false_ne_true]
    exact ⟨holds, generator⟩

theorem Tells.finish (h : Tells path began ids count b) :
    Tells path began ids count (b.step .finish) := by
  refine ⟨h.holds.finish, ?_⟩
  rw [Booth.step]
  cases there : b.session with
  | none => exact h.generator
  | some session =>
    dsimp only
    rw [finished_of_open h.holds there]
    exact h.generator

/-- What any moves come to: recordings are made only until the context is closed. -/
theorem Tells.run (h : Tells path began ids count b) (moves : List Move) :
    Holds path ((openedAt began).recordIds (ids.returned (count + asked moves)))
        (moves.all Move.keeps) (b.run moves) ∧
      (moves.all Move.keeps = true →
        (b.run moves).surroundings.ids = ids.after (count + asked moves)) := by
  induction moves generalizing b count with
  | nil => exact ⟨h.holds, fun _ => h.generator⟩
  | cons move rest ih =>
    cases move with
    | call step =>
      have more : count + asked (.call step :: rest) =
          (if step.draws then count + 1 else count) + asked rest := by
        rw [asked_call]
        split <;> omega
      rw [more]
      exact ih (h.call step)
    | finish => exact ih h.finish
    | close => exact ⟨h.holds.close.run rest, nofun⟩
    | replace other ids =>
      have closed := h.holds.close
      have replaced : Holds path ((openedAt began).recordIds (_ : List Uuid)) false
          (b.step (.replace other ids)) := ⟨closed.own, nofun, closed.session⟩
      exact ⟨replaced.run rest, nofun⟩

theorem tells_start (path : String) (began : Timestamp) (s : Surroundings) :
    Tells path began s.ids 0 (start path began s) := by
  constructor
  · refine ⟨rfl, fun _ => rfl, ?_⟩
    rintro _ ⟨⟩
    rfl
  · rfl

theorem rooted_step (rooted : b.surroundings.tree.Rooted) (move : Move) :
    (b.step move).surroundings.tree.Rooted := by
  have same : b.close.surroundings = b.surroundings := by
    rw [Booth.close]
    cases b.context <;> rfl
  cases move with
  | call step =>
    rw [Booth.step]
    cases b.context with
    | none => exact rooted
    | some context => exact ((context.perform step.script).extends_run rooted).rooted rooted
  | close =>
    rw [Booth.step, same]
    exact rooted
  | replace other ids => exact rooted
  | finish =>
    rw [Booth.step]
    cases b.session with
    | none => exact rooted
    | some session => exact (session.finish.run.extends_run rooted).rooted rooted

theorem rooted_run (rooted : b.surroundings.tree.Rooted) (moves : List Move) :
    (b.run moves).surroundings.tree.Rooted := by
  induction moves generalizing b with
  | nil => exact rooted
  | cons move rest ih => exact ih (rooted_step rooted move)

end Booth

namespace RecordingSession

variable {path : String} {s : Surroundings}

theorem finish_ne_recorderInUse (path : String) (r : Recorder) (s : Surroundings) :
    ((finish ⟨path, some r⟩).run.run s).1 ≠ .error (.cassette .recorderInUse) := by
  rw [finish_eq]
  cases s.tree.write path (.text (r.cassette s.time).write) with
  | ok tree => nofun
  | error fault => nofun

/-- A session that has been handed its recorder stores a cassette that holds what was recorded, if
anything can be stored by its path. -/
theorem load_of_finish (rooted : s.tree.Rooted) {ids : List Uuid}
    (few : ids.length ≤ Nat.pow 2 64) (began : Timestamp) {text : String} {tree : FileTree}
    (writable : s.tree.write path (.text text) = .ok tree) :
    let finished := (finish ⟨path, some ((openedAt began).recordIds ids)⟩).run.run s
    finished.1 = .ok path ∧ ∃ c, (Cassette.load path).run.run finished.2 = (.ok c, finished.2) ∧
      c.interactions = ((openedAt began).recordIds ids).interactions := by
  let tape := ((openedAt began).recordIds ids).cassette s.time
  obtain ⟨place, led, other, -⟩ := FileTree.write_eq_ok_iff.mp writable
  obtain ⟨tree', written⟩ : ∃ tree', s.tree.write path (.text tape.write) = .ok tree' :=
    ⟨_, FileTree.write_eq_ok_iff.mpr ⟨place, led, other, rfl⟩⟩
  obtain ⟨place', stores⟩ := rooted.stores written
  have there := FileTree.read_of_resolve (stores.extends'.resolve stores.led (by decide))
    stores.stored
  have means : Cassette.read path tape.write = .ok tape :=
    Recorder.read_write_recordIds few _ path _
  intro finished
  have effect : finished = (.ok path, { s with tree := tree' }) := by
    rw [show finished = _ from finish_eq path _ s, written]
  rw [effect]
  exact ⟨rfl, tape, Cassette.load_of_read there means, rfl⟩

end RecordingSession

namespace Booth

/-- After any moves a session has recorded the identifiers that its generator has returned, in their
order. It can be finished as soon as its context has been closed, and not before; the cassette that
it then stores holds them. Identifiers on a cassette are counted in 64 bits. -/
theorem run_records (path : String) (began : Timestamp) {s : Surroundings}
    (rooted : s.tree.Rooted) (moves : List Move) :
    let b := (start path began s).run moves
    let kept := moves.all Move.keeps
    let recorded : List Interaction := (s.ids.returned (asked moves)).zipIdx.map
      fun (u, seq) => ⟨seq, idPort, idMethod, .null, .string u.text⟩
    (∀ r, b.recorder? = some r → r.interactions = recorded) ∧
    (kept = true → b.surroundings.ids = s.ids.after (asked moves) ∧ b.recorder?.isSome = true) ∧
    ∀ session, b.session = some session →
      b.recorder?.isSome = true ∧
      ((b.finished session).1 = .error (.cassette .recorderInUse) ↔ kept = true) ∧
      (kept = true → (b.finished session).2 = b.surroundings) ∧
      (kept = false → ∀ text tree, b.surroundings.tree.write path (.text text) = .ok tree →
        asked moves ≤ Nat.pow 2 64 → (b.finished session).1 = .ok path ∧
          ∃ c, (Cassette.load path).run.run (b.finished session).2 =
            (.ok c, (b.finished session).2) ∧ c.interactions = recorded) := by
  intro b kept recorded
  obtain ⟨holds, generator⟩ := (tells_start path began s).run moves
  rw [Nat.zero_add] at holds generator
  have rooted' : b.surroundings.tree.Rooted := rooted_run (b := start path began s) rooted moves
  have lists : ((openedAt began).recordIds (s.ids.returned (asked moves))).interactions =
      recorded := Recorder.interactions_recordIds _ _
  change Holds path _ kept b at holds
  change kept = true → b.surroundings.ids = _ at generator
  refine ⟨?_, ?_, ?_⟩
  · intro r there
    rw [holds.recorder there]
    exact lists
  · intro open'
    refine ⟨generator open', ?_⟩
    rw [holds.recorder?_eq (.inl open')]
    rfl
  · intro session there
    have recorder := holds.recorder?_eq (.inr ⟨session, there⟩)
    refine ⟨by rw [recorder]; rfl, ?_⟩
    clear_value kept
    cases kept with
    | true =>
      rw [finished_of_open holds there]
      exact ⟨iff_of_true rfl rfl, fun _ => rfl, nofun⟩
    | false =>
      rw [finished_of_closed holds there]
      refine ⟨iff_of_false (RecordingSession.finish_ne_recorderInUse _ _ _) nofun, nofun, ?_⟩
      intro _ text tree writable few
      have few' := (IdStream.length_returned_le s.ids (asked moves)).trans few
      obtain ⟨succeeded, c, loaded, listed⟩ :=
        RecordingSession.load_of_finish rooted' few' began writable
      exact ⟨succeeded, c, loaded, listed.trans lists⟩

/-! Two of three calls of the generator fail, and the identifier that the other one returns is
recorded although it is not random, so that it cannot be emitted. Finishing is tried too early, and
then works. -/

def timedId : Uuid := ⟨0x8aaaf200245011e4abe20002a5d5c51b⟩

def faltering : Surroundings :=
  { studio with
    ids := ⟨fun n => if n = 1 then .ok timedId else .error (.cassette (.source "exhausted")), 0⟩ }

def hasty : List Move :=
  [.call .nextId, .call (.emit ⟨"out", "TA_UUID", "TA_UUID"⟩), .call .nextId]

/-- The booth after these moves. -/
def afterwards (moves : List Move) : Booth :=
  (start "tape.yaml" Cassette.leapSecond faltering).run moves

theorem run_records_hasty : faltering.tree.Rooted ∧
    (∃ session, (afterwards hasty).session = some session ∧
      ((afterwards hasty).finished session).1 = .error (.cassette .recorderInUse)) ∧
    ∃ session, (afterwards (hasty ++ [.close])).session = some session ∧
      let finished := (afterwards (hasty ++ [.close])).finished session
      finished.1 = .ok "tape.yaml" ∧ ∃ c, (Cassette.load "tape.yaml").run.run finished.2 =
        (.ok c, finished.2) ∧
        c.interactions = [⟨0, "id_gen", "generate_id", .null, .string timedId.text⟩] := by
  have rooted : faltering.tree.Rooted := FileTree.isDirectoryPath_nil _
  obtain ⟨session, early⟩ : ∃ session, (afterwards hasty).session = some session := ⟨_, rfl⟩
  obtain ⟨session', late⟩ : ∃ session, (afterwards (hasty ++ [.close])).session = some session :=
    ⟨_, rfl⟩
  have same : (afterwards (hasty ++ [.close])).surroundings.tree = studio.tree := rfl
  have writable : studio.tree.write "tape.yaml" (.text "") = .ok _ :=
    FileTree.write_eq_ok_iff.mpr
      ⟨["tape.yaml"], Cassette.resolve_tapeTree _ _, by decide, rfl⟩
  obtain ⟨-, -, tooEarly⟩ := run_records "tape.yaml" Cassette.leapSecond rooted hasty
  obtain ⟨-, -, inTime⟩ := run_records "tape.yaml" Cassette.leapSecond rooted (hasty ++ [.close])
  refine ⟨rooted, ⟨_, early, (tooEarly _ early).2.1.mpr rfl⟩, _, late, ?_⟩
  exact (inTime _ late).2.2.2 rfl "" _ (same ▸ writable) (by decide)

end Booth

end TrustedAppId
