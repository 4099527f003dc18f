import TrustedAppId.Proofs.Cassette.Replaying
import TrustedAppId.Proofs.Replay.Steps
/-! Replaying a recording. Whatever a sequence of steps draws while it is recorded is served again by
the cassette, step by step, so that each step comes to the same answer and the same tree. -/
namespace TrustedAppId

/-- Carries out steps one after the other. -/
def Context.carryOut (c : Context) : List Step → Surroundings → List Answer × Context × Surroundings
  | [], s => ([], c, s)
  | step :: rest, s =>
    let (answer, c, s) := c.exec step.script s
    let (answers, c, s) := c.carryOut rest s
    (answer :: answers, c, s)

theorem Context.carryOut_cons {c next : Context} {step : Step} {s : Surroundings}
    (goesOn : (c.exec step.script s).2.1 = next) (steps : List Step) :
    c.carryOut (step :: steps) s =
      ((c.exec step.script s).1 :: (next.carryOut steps (c.exec step.script s).2.2).1,
        (next.carryOut steps (c.exec step.script s).2.2).2) := by
  rw [carryOut, ← goesOn]

def IdStream.NeverFails (ids : IdStream) : Prop := ∀ n, ∃ u, ids.draw n = .ok u

variable {α : Type} {original : FileTree} {place : Location} {old : Contents}

/-- A replay has come to the same as the recording, and has the identifiers `later` left. -/
structure Follows (original : FileTree) (place : Location) (later : List Uuid)
    (recorded replayed : α × Context × Surroundings) : Prop where
  answer : replayed.1 = recorded.1
  serves : ∃ r, replayed.2.1 = .replaying r ∧ r.Serves later
  parallel : FileTree.Parallel original place recorded.2.2.tree replayed.2.2.tree

/-- A run that draws `ids` while it is recorded, and that a replay of them follows. -/
structure Recorded (original : FileTree) (place : Location)
    (run : Context → Surroundings → α × Context × Surroundings) (r : Recorder) (s : Surroundings)
    (ids : List Uuid) : Prop where
  context : (run (.recording r) s).2.1 = .recording (r.recordIds ids)
  neverFails : (run (.recording r) s).2.2.ids.NeverFails
  extends' : FileTree.Extends original (run (.recording r) s).2.2.tree
  followed : ∀ replayer s' later, Replayer.Serves replayer (ids ++ later) →
    FileTree.Parallel original place s.tree s'.tree →
    Follows original place later (run (.recording r) s) (run (.replaying replayer) s')

variable {s : Surroundings} (file : original.get? place = some (.file old))
  (rooted : original.Rooted)

include file rooted

theorem recorded_step {step : Step} (neverFails : s.ids.NeverFails)
    (extends' : FileTree.Extends original s.tree)
    (others : ∀ path ∈ step.paths, original.resolve .lookup path ≠ .ok place) (r : Recorder) :
    ∃ ids, ids.length = (if step.draws then 1 else 0) ∧
      Recorded original place (fun c s => c.exec step.script s) r s ids := by
  have twin : FileTree.Parallel original place s.tree s.tree :=
    ⟨extends', extends', rfl, fun _ _ => rfl⟩
  have stored (answer : Except Error Uuid) :
      FileTree.Extends original (step.outcome answer s.tree).2 :=
    (Step.outcome_parallel twin file rooted others answer).2.left
  cases draws : step.draws with
  | true =>
    obtain ⟨u, drawn⟩ := neverFails s.ids.drawn
    obtain ⟨events, effect⟩ := Step.exec_of_draws (.recording r) s draws
    have answer : s.ids.next.1 = .ok u := drawn
    refine ⟨[u], rfl, ?_, ?_, ?_, ?_⟩
    · rw [effect, ← Recorder.recordId_ok, ← answer]
      rfl
    · rw [effect]
      exact neverFails
    · rw [effect]
      exact stored _
    · intro replayer s' later serves parallel
      obtain ⟨events', effect'⟩ := Step.exec_of_draws (.replaying replayer) s' draws
      obtain ⟨served, left⟩ := Replayer.nextId_of_serves serves
      obtain ⟨same, after⟩ := Step.outcome_parallel parallel file rooted others (.ok u)
      rw [effect, effect']
      have first : (Context.draw (.recording r) s).1 = .ok u := answer
      have second : (Context.draw (.replaying replayer) s').1 = .ok u := served
      rw [first, second]
      exact ⟨same, ⟨replayer.nextId.2, rfl, left⟩, after⟩
  | false =>
    let answer := s.ids.next.1
    obtain ⟨events, effect⟩ := Step.exec_of_not_draws (.recording r) s draws answer
    refine ⟨[], rfl, ?_, ?_, ?_, ?_⟩
    · rw [effect]
      rfl
    · rw [effect]
      exact neverFails
    · rw [effect]
      exact stored _
    · intro replayer s' later serves parallel
      obtain ⟨events', effect'⟩ := Step.exec_of_not_draws (.replaying replayer) s' draws answer
      obtain ⟨same, after⟩ := Step.outcome_parallel parallel file rooted others answer
      rw [effect, effect']
      exact ⟨same, ⟨replayer, rfl, serves⟩, after⟩

theorem recorded_carryOut {steps : List Step} (neverFails : s.ids.NeverFails)
    (extends' : FileTree.Extends original s.tree)
    (others : ∀ step ∈ steps, ∀ path ∈ step.paths, original.resolve .lookup path ≠ .ok place)
    (r : Recorder) : ∃ ids, ids.length = steps.countP Step.draws ∧
      Recorded original place (fun c s => c.carryOut steps s) r s ids := by
  induction steps generalizing r s with
  | nil =>
    exact ⟨[], rfl, rfl, neverFails, extends', fun replayer s' later serves parallel =>
      ⟨rfl, ⟨replayer, rfl, serves⟩, parallel⟩⟩
  | cons step steps ih =>
    obtain ⟨here, others⟩ := List.forall_mem_cons.mp others
    obtain ⟨first, count, head⟩ := recorded_step file rooted neverFails extends' here r
    obtain ⟨rest, count', tail⟩ := ih head.neverFails head.extends' others (r.recordIds first)
    have goesOn := Context.carryOut_cons head.context steps
    refine ⟨first ++ rest, ?_, ?_, ?_, ?_, ?_⟩
    · rw [List.length_append, List.countP_cons, count, count', Nat.add_comm]
    · rw [goesOn, Recorder.recordIds_append]
      exact tail.context
    · rw [goesOn]
      exact tail.neverFails
    · rw [goesOn]
      exact tail.extends'
    · intro replayer s' later serves parallel
      rw [List.append_assoc] at serves
      obtain ⟨answer, ⟨replayer', there, left⟩, between⟩ := head.followed _ _ _ serves parallel
      obtain ⟨answers, last, after⟩ := tail.followed _ _ _ left between
      rw [goesOn, Context.carryOut_cons there]
      exact ⟨List.cons_eq_cons.mpr ⟨answer, answers⟩, last, after⟩

end TrustedAppId
