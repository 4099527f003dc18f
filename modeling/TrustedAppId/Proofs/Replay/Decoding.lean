import TrustedAppId.Proofs.Replay.Sessions
import TrustedAppId.Proofs.Uuid.Spellings
/-! Identifiers decoded from a cassette. However a replay has got there, the next identifier is
decoded from the next output that the cassette has for it, in whatever spelling; an output that
spells none is used up all the same. -/
namespace TrustedAppId

/-! Outputs. -/

namespace Value

/-- The output is a text that spells `u`. -/
def Spells (v : Value) (u : Uuid) : Prop := ∃ text, v = .string text ∧ Uuid.Spells u text.toList

theorem toUuid_eq_ok_iff {v : Value} {u : Uuid} : v.toUuid = .ok u ↔ v.Spells u := by
  constructor
  · intro decoded
    cases v with
    | string text =>
      exact ⟨text, rfl, Uuid.read_eq_ok_iff_spells.mp (mapError_eq_ok_iff.mp decoded)⟩
    | _ => contradiction
  · rintro ⟨text, rfl, spells⟩
    exact mapError_eq_ok_iff.mpr (Uuid.read_eq_ok_iff_spells.mpr spells)

/-- The canonical spelling in place of any other. -/
def canonical (v : Value) : Value :=
  match v.toUuid with
  | .ok u => .string u.text
  | .error _ => v

theorem toUuid_canonical (v : Value) : v.canonical.toUuid = v.toUuid := by
  rw [canonical]
  cases decoded : v.toUuid with
  | ok u => exact toUuid_text u
  | error fault => exact decoded

end Value

def Interaction.canonical (i : Interaction) : Interaction := { i with output := i.output.canonical }

def Cassette.canonical (c : Cassette) : Cassette :=
  { c with interactions := c.interactions.map Interaction.canonical }

/-! The next identifier. -/

/-- The identifier that an interaction holds. -/
def Interaction.decode (i : Interaction) : Except Error Uuid :=
  i.output.toUuid.mapError fun fault => .cassette (.output fault)

namespace Replayer

theorem nextId_eq_step (r : Replayer) :
    r.nextId = ((r.step idPair).1 >>= Interaction.decode, (r.step idPair).2) := by
  have same : r.next idPair.1 idPair.2 = r.next idPort idMethod := rfl
  rw [nextId, step, same]
  cases r.next idPort idMethod with
  | error fault => rfl
  | ok found => rfl

/-- The replayer of `c` after `k` requests for an identifier. -/
def Drawn (c : Cassette) (k : Nat) (r : Replayer) : Prop := After c (List.replicate k idPair) r

variable {c : Cassette} {k : Nat} {r : Replayer}

theorem Drawn.start (c : Cassette) : Drawn c 0 (ofCassette c) := After.start c

theorem Drawn.next (drawn : Drawn c k r) : Drawn c (k + 1) r.nextId.2 := by
  have after := (After.step drawn idPair).2
  rw [nextId_eq_step, Drawn, List.replicate_succ']
  exact after

/-- Each identifier is decoded from the output in its place. -/
theorem Drawn.nextId (drawn : Drawn c k r) :
    (∃ i, (c.recorded idPair)[k]? = some i ∧ r.nextId.1 = i.decode) ∨
      (c.recorded idPair)[k]? = none ∧ ∃ fault, r.nextId.1 = .error (.cassette fault) := by
  have answers := (After.step drawn idPair).1
  rw [List.count_replicate_self] at answers
  rw [nextId_eq_step]
  cases answer : (r.step idPair).1 with
  | ok i =>
    rw [answer] at answers
    cases answers with
    | served found => exact .inl ⟨i, found, rfl⟩
  | error fault =>
    rw [answer] at answers
    cases answers with
    | exhausted some used _ =>
      exact .inr ⟨List.getElem?_eq_none used, _, rfl⟩
    | unknown none _ _ =>
      rw [none]
      exact .inr ⟨rfl, _, rfl⟩

end Replayer

/-! Steps. -/

namespace Context

variable {c : Cassette} {k : Nat} {r : Replayer}

theorem drawn_step (drawn : r.Drawn c k) (step : Step) (s : Surroundings) :
    ∃ r', ((replaying r).exec step.script s).2.1 = .replaying r' ∧
      r'.Drawn c (k + if step.draws then 1 else 0) := by
  cases draws : step.draws with
  | true =>
    obtain ⟨events, effect⟩ := Step.exec_of_draws (.replaying r) s draws
    refine ⟨r.nextId.2, ?_, drawn.next⟩
    rw [effect]
    rfl
  | false =>
    obtain ⟨events, effect⟩ := Step.exec_of_not_draws (.replaying r) s draws (.ok ⟨0⟩)
    refine ⟨r, ?_, drawn⟩
    rw [effect]

theorem drawn_carryOut (drawn : r.Drawn c k) (steps : List Step) (s : Surroundings) :
    ∃ r', ((replaying r).carryOut steps s).2.1 = .replaying r' ∧
      r'.Drawn c (k + steps.countP Step.draws) := by
  induction steps generalizing k r s with
  | nil => exact ⟨r, rfl, drawn⟩
  | cons step steps ih =>
    obtain ⟨between, goesOn, drawn'⟩ := drawn_step drawn step s
    rw [carryOut_cons goesOn]
    obtain ⟨last, ends, drawn''⟩ := ih drawn' ((replaying r).exec step.script s).2.2
    refine ⟨last, ends, ?_⟩
    rw [List.countP_cons, Nat.add_comm (List.countP _ _), ← Nat.add_assoc]
    exact drawn''

end Context

/-! Canonical spellings. -/

namespace Replayer

def canonical (r : Replayer) : Replayer :=
  { r with interactions := r.interactions.map Interaction.canonical }

theorem enqueue_canonical (i : Interaction) (queues : List (Pair × List Interaction)) :
    enqueue i.canonical (queues.map (Prod.map id (List.map Interaction.canonical))) =
      (enqueue i queues).map (Prod.map id (List.map Interaction.canonical)) := by
  have pair : i.canonical.pair = i.pair := rfl
  induction queues with
  | nil => rfl
  | cons first others ih =>
    obtain ⟨other, queue⟩ := first
    rw [List.map_cons, Prod.map_apply, enqueue, enqueue, pair, id]
    split
    · simp
    · rw [ih]
      rfl

theorem queues_canonical (r : Replayer) : r.canonical.queues =
    r.queues.map (Prod.map id (List.map Interaction.canonical)) := by
  obtain ⟨interactions, served⟩ := r
  induction interactions using List.reverseRecOn with
  | nil => rfl
  | append_singleton interactions i ih =>
    have front : canonical ⟨interactions ++ [i], served⟩ =
        ⟨(interactions.map Interaction.canonical) ++ [i.canonical], served⟩ := by
      simp [canonical]
    rw [front, queues_concat, queues_concat, ← enqueue_canonical, ← ih]
    rfl

theorem available_canonical (r : Replayer) : r.canonical.available = r.available := by
  rw [available, queues_canonical, List.map_map]
  rfl

theorem lookup_canonical (pair : Pair) (queues : List (Pair × List Interaction)) :
    (queues.map (Prod.map id (List.map Interaction.canonical))).lookup pair =
      (queues.lookup pair).map (List.map Interaction.canonical) := by
  induction queues with
  | nil => rfl
  | cons first others ih =>
    obtain ⟨other, queue⟩ := first
    rw [List.map_cons, Prod.map_apply, id, List.lookup_cons, List.lookup_cons, ih]
    cases pair == other with
    | true => rfl
    | false => rfl

theorem nextId_canonical (r : Replayer) :
    r.canonical.nextId = (r.nextId.1, r.nextId.2.canonical) := by
  have count (pair : Pair) : r.canonical.servedCount pair = r.servedCount pair := rfl
  rw [nextId, nextId, next, next, queues_canonical, lookup_canonical, available_canonical, count]
  cases r.queues.lookup (idPort, idMethod) with
  | none => rfl
  | some queue =>
    rw [Option.map_some]
    dsimp only
    rw [List.getElem?_map]
    cases found : queue[r.servedCount (idPort, idMethod)]? with
    | none =>
      simp
    | some i =>
      have decoded : i.canonical.output.toUuid = i.output.toUuid := i.output.toUuid_canonical
      simp only [Option.map_some, decoded]
      rfl

end Replayer

namespace Context

variable {r : Replayer} {s s' : Surroundings}

theorem exec_canonical (same : s'.tree = s.tree) (step : Step) : ∃ r',
    ((replaying r).exec step.script s).2.1 = .replaying r' ∧
      ((replaying r.canonical).exec step.script s').2.1 = .replaying r'.canonical ∧
      ((replaying r.canonical).exec step.script s').1 = ((replaying r).exec step.script s).1 ∧
      ((replaying r.canonical).exec step.script s').2.2.tree =
        ((replaying r).exec step.script s).2.2.tree := by
  cases draws : step.draws with
  | true =>
    obtain ⟨events, effect⟩ := Step.exec_of_draws (.replaying r) s draws
    obtain ⟨events', effect'⟩ := Step.exec_of_draws (.replaying r.canonical) s' draws
    have answer : (draw (.replaying r.canonical) s').1 = (draw (.replaying r) s).1 := by
      rw [draw, draw, r.nextId_canonical]
    have left : r.canonical.nextId.2 = r.nextId.2.canonical := by
      rw [r.nextId_canonical]
    rw [effect, effect', same, answer]
    exact ⟨r.nextId.2, rfl, congrArg Context.replaying left, rfl, rfl⟩
  | false =>
    obtain ⟨events, effect⟩ := Step.exec_of_not_draws (.replaying r) s draws (.ok ⟨0⟩)
    obtain ⟨events', effect'⟩ := Step.exec_of_not_draws (.replaying r.canonical) s' draws (.ok ⟨0⟩)
    rw [effect, effect', same]
    exact ⟨_, rfl, rfl, rfl, rfl⟩

/-- Steps come to the same with the canonical spellings. -/
theorem carryOut_canonical (same : s'.tree = s.tree) (steps : List Step) :
    ((replaying r.canonical).carryOut steps s').1 = ((replaying r).carryOut steps s).1 ∧
      ((replaying r.canonical).carryOut steps s').2.2.tree =
        ((replaying r).carryOut steps s).2.2.tree := by
  induction steps generalizing r s s' with
  | nil => exact ⟨rfl, same⟩
  | cons step steps ih =>
    obtain ⟨r', goesOn, goesOn', answer, between⟩ := @exec_canonical r s s' same step
    rw [carryOut_cons goesOn, carryOut_cons goesOn']
    obtain ⟨answers, after⟩ := @ih r' _ _ between
    exact ⟨List.cons_eq_cons.mpr ⟨answer, answers⟩, after⟩

end Context

/-- An emission that draws a failure fails with it, and leaves the tree as it is. -/
theorem Emission.exec_emit_of_failed {e : Emission} (valid : e.checkNames = .ok ()) {r : Replayer}
    {fault : Error} (failed : r.nextId.1 = .error fault) (s : Surroundings) :
    ((Context.replaying r).exec e.emit.run s).1 = .error fault ∧
      ((Context.replaying r).exec e.emit.run s).2.2.tree = s.tree := by
  obtain ⟨events, effect⟩ := e.exec_emit (.replaying r) s
  rw [effect, valid]
  simp only [Context.draw, failed, emitted]
  exact ⟨trivial, trivial⟩

/-- However many identifiers a replay has drawn in its steps, the next one is decoded from the
output that comes next on the cassette, and is `u` if and only if that is a spelling of `u`. If it
is none, the cassette is at fault and an emission leaves the tree as it is. In its canonical
spelling each identifier makes the same of all steps. -/
theorem nextId_of_carryOut (c : Cassette) (steps : List Step) (s : Surroundings) :
    ∃ r s', ((Context.replaying (.ofCassette c)).carryOut steps s).2 = (.replaying r, s') ∧
      (∀ u, r.nextId.1 = .ok u ↔
        ∃ i, (c.recorded idPair)[steps.countP Step.draws]? = some i ∧ i.output.Spells u) ∧
      ((∀ u, r.nextId.1 ≠ .ok u) → ∃ fault, r.nextId.1 = .error (.cassette fault) ∧
        ∀ e : Emission, e.checkNames = .ok () →
          ((Context.replaying r).exec e.emit.run s').1 = .error (.cassette fault) ∧
            ((Context.replaying r).exec e.emit.run s').2.2.tree = s'.tree) ∧
      ((Context.replaying (.ofCassette c.canonical)).carryOut steps s).1 =
        ((Context.replaying (.ofCassette c)).carryOut steps s).1 ∧
      ((Context.replaying (.ofCassette c.canonical)).carryOut steps s).2.2.tree = s'.tree := by
  obtain ⟨r, ends, drawn⟩ := Context.drawn_carryOut (.start c) steps s
  rw [Nat.zero_add] at drawn
  obtain ⟨answers, after⟩ := @Context.carryOut_canonical (.ofCassette c) s s rfl steps
  refine ⟨r, _, Prod.ext ends rfl, ?_, ?_, answers, after⟩
  · intro u
    rcases drawn.nextId with ⟨i, found, decoded⟩ | ⟨none, fault, failed⟩
    · rw [decoded, Interaction.decode, mapError_eq_ok_iff, Value.toUuid_eq_ok_iff]
      constructor
      · intro spells
        exact ⟨i, found, spells⟩
      · rintro ⟨j, found', spells⟩
        rw [Option.some.inj (found.symm.trans found')]
        exact spells
    · rw [failed, none]
      constructor
      · exact nofun
      · rintro ⟨i, found, -⟩
        contradiction
  · intro none
    cases failed : r.nextId.1 with
    | ok u => exact absurd failed (none u)
    | error fault =>
      obtain ⟨cause, rfl⟩ := Replayer.cassette_of_nextId failed
      exact ⟨cause, rfl, fun e valid => e.exec_emit_of_failed valid failed _⟩

/-- A cassette with digits in braces, which are no spelling, and with a label in capitals. -/
def foreignTape : Cassette where
  name := "foreign"
  recordedAt := Cassette.leapSecond
  toolVersion := "0.1"
  interactions := [
    ⟨0, idPort, idMethod, .null, .string "\x7b8aaaf200245041e4abe20002a5d5c51b\x7d"⟩,
    ⟨1, idPort, idMethod, .null, .string "URN:UUID:8aaaf200-2450-41e4-abe2-0002a5d5c51b"⟩]

theorem nextId_foreignTape :
    (∃ s, (Cassette.load "tape.yaml").run.run s = (.ok foreignTape, s)) ∧
      (∃ fault, (Replayer.ofCassette foreignTape).nextId.1 = .error (.cassette fault)) ∧
      (Replayer.ofCassette foreignTape).nextId.2.nextId.1 = .ok tapeId := by
  have keeps : ∀ i ∈ foreignTape.interactions, Cassette.Keeps i := by
    rw [foreignTape, List.forall_mem_cons, List.forall_mem_singleton]
    exact ⟨⟨by decide, .null, .string _⟩, by decide, .null, .string _⟩
  have stored : (Cassette.tapeTree (.text foreignTape.write)).read "tape.yaml" =
      .ok foreignTape.write :=
    FileTree.read_of_resolve (Cassette.resolve_tapeTree _ _) rfl
  refine ⟨⟨{ studio with tree := Cassette.tapeTree (.text foreignTape.write) }, ?_⟩, ?_, ?_⟩
  · exact Cassette.load_of_read stored (Cassette.read_write keeps "tape.yaml")
  · exact ⟨_, rfl⟩
  · rfl

end TrustedAppId
