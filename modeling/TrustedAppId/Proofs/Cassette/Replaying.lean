import TrustedAppId.Context
import TrustedAppId.Proofs.Cassette.RoundTrip
import TrustedAppId.Proofs.Cassette.Serving
import TrustedAppId.Proofs.Uuid.RoundTrip
/-! Identifiers on cassettes. A replayer serves those that were recorded, one after the other, and
then nothing more. -/
namespace TrustedAppId

/-- What a recorder is told of an identifier. -/
def idCall (u : Uuid) : Call := ⟨idPort, idMethod, .null, .string u.text⟩

def idPair : Pair := (idPort, idMethod)

namespace Recorder

def recordIds (r : Recorder) (ids : List Uuid) : Recorder := r.recordAll (ids.map idCall)

theorem recordId_ok (r : Recorder) (u : Uuid) : r.recordId (.ok u) = r.recordIds [u] := rfl

theorem recordIds_append (r : Recorder) (first second : List Uuid) :
    r.recordIds (first ++ second) = (r.recordIds first).recordIds second := by
  rw [recordIds, List.map_append, recordAll, List.foldl_append]
  rfl

/-- The interactions of a recording of identifiers, numbered from zero. -/
theorem interactions_recordIds (name : String) (ids : List Uuid) :
    ((start name).recordIds ids).interactions =
      ids.zipIdx.map fun (u, seq) => ⟨seq, idPort, idMethod, .null, .string u.text⟩ := by
  rw [recordIds, interactions_recordAll, List.zipIdx_map, List.map_map]
  rfl

/-- A recording of identifiers reads back from its text. -/
theorem read_write_recordIds {ids : List Uuid} (few : ids.length ≤ Nat.pow 2 64)
    (name path : String) (now : Timestamp) :
    Cassette.read path (((start name).recordIds ids).cassette now).write =
      .ok (((start name).recordIds ids).cassette now) := by
  refine Cassette.read_write (Cassette.keeps_recordAll ?_ ?_ name) path
  · rwa [List.length_map]
  · intro call mem
    obtain ⟨u, -, rfl⟩ := List.mem_map.mp mem
    exact ⟨.null, .string _⟩

end Recorder

theorem Value.toUuid_text (u : Uuid) : (Value.string u.text).toUuid = .ok u := by
  rw [toUuid, Uuid.text, String.toList_ofList, Uuid.read_chars]
  rfl

namespace Replayer

/-- The replayer still has these identifiers to serve. -/
def Serves (r : Replayer) (ids : List Uuid) : Prop :=
  ((r.queue idPair).drop (r.servedCount idPair)).map Interaction.output =
    ids.map fun u => .string u.text

theorem serves_ofCassette {c : Cassette} {name : String} {ids : List Uuid}
    (recorded : c.interactions = ((Recorder.start name).recordIds ids).interactions) :
    (ofCassette c).Serves ids := by
  rw [Recorder.recordIds, Recorder.interactions_recordAll] at recorded
  have queue : (ofCassette c).queue idPair = c.interactions := by
    rw [Replayer.queue, ofCassette, List.filter_eq_self, recorded]
    intro i mem
    obtain ⟨⟨call, seq⟩, listed, rfl⟩ := List.mem_map.mp mem
    have inside : call ∈ ids.map idCall := by
      rw [(List.mem_zipIdx listed).2.2]
      exact List.getElem_mem _
    obtain ⟨u, -, rfl⟩ := List.mem_map.mp inside
    exact decide_eq_true rfl
  have outputs : c.interactions.map Interaction.output = (ids.map idCall).map Call.output := by
    rw [recorded, List.map_map, ← List.zipIdx_map_fst 0 (ids.map idCall), List.map_map]
    simp only [List.zipIdx_map_fst]
    rfl
  rw [Serves, queue, servedCount, ofCassette, List.lookup_nil, Option.getD_none, List.drop_zero,
    outputs, List.map_map]
  rfl

variable {r : Replayer} {u : Uuid} {ids : List Uuid}

@[simp] theorem queue_advance (r : Replayer) (pair other : Pair) :
    (r.advance pair).queue other = r.queue other := rfl

theorem next_of_found {port method : String} {i : Interaction}
    (found : (r.queue (port, method))[r.servedCount (port, method)]? = some i) :
    r.next port method = .ok (i, r.advance (port, method)) := by
  have some : r.queue (port, method) ≠ [] := by
    intro empty
    rw [empty] at found
    contradiction
  simp only [next, lookup_queues, if_neg some, found]

theorem next_of_not_found {port method : String}
    (found : (r.queue (port, method))[r.servedCount (port, method)]? = none) :
    ∃ fault, r.next port method = .error (.cassette fault) := by
  by_cases empty : r.queue (port, method) = []
  · simp only [next, lookup_queues, if_pos empty]
    exact ⟨_, rfl⟩
  · simp only [next, lookup_queues, if_neg empty, found]
    exact ⟨_, rfl⟩

theorem nextId_of_serves (serves : r.Serves (u :: ids)) :
    r.nextId.1 = .ok u ∧ r.nextId.2.Serves ids := by
  rw [Serves, List.map_cons, List.map_eq_cons_iff] at serves
  obtain ⟨i, rest, left, output, outputs⟩ := serves
  have next : r.next idPort idMethod = .ok (i, r.advance idPair) :=
    next_of_found ((List.head?_drop).symm.trans (congrArg List.head? left))
  have served : r.nextId = (.ok u, r.advance idPair) := by
    simp only [nextId, next, output, Value.toUuid_text]
    rfl
  rw [served]
  refine ⟨rfl, ?_⟩
  rw [Serves, servedCount_advance, queue_advance, ← List.tail_drop, left, List.tail_cons, outputs]

/-- All failures of a replay are those of its cassette. -/
theorem cassette_of_nextId {fault : Error} (failed : r.nextId.1 = .error fault) :
    ∃ cause, fault = .cassette cause := by
  cases found : (r.queue idPair)[r.servedCount idPair]? with
  | none =>
    obtain ⟨cause, next⟩ := next_of_not_found found
    rw [nextId, next] at failed
    exact ⟨cause, (Except.error.inj failed).symm⟩
  | some i =>
    rw [nextId, next_of_found found] at failed
    dsimp only at failed
    cases spelt : i.output.toUuid with
    | error cause =>
      rw [spelt] at failed
      exact ⟨_, (Except.error.inj failed).symm⟩
    | ok u =>
      rw [spelt] at failed
      cases failed

theorem nextId_of_serves_nil (serves : r.Serves []) :
    ∃ fault, r.nextId.1 = .error (.cassette fault) := by
  rw [Serves, List.map_nil, List.map_eq_nil_iff] at serves
  obtain ⟨fault, next⟩ : ∃ fault, r.next idPort idMethod = .error (.cassette fault) :=
    next_of_not_found ((List.head?_drop).symm.trans (congrArg List.head? serves))
  refine ⟨fault, ?_⟩
  rw [nextId, next]

end Replayer

end TrustedAppId
