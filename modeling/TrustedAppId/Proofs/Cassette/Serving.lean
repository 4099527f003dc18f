import Mathlib.Data.List.Induction
import Mathlib.Data.String.Basic
import TrustedAppId.Cassette.Replayer
/-! What a replayer answers to a sequence of requests. Each request for a pair is answered by the
next interaction that the cassette has for it; requests for other pairs and requests that fail make
no difference. -/
namespace TrustedAppId

namespace Replayer

/-! The queues. -/

theorem lookup_enqueue (i : Interaction) (queues : List (Pair × List Interaction)) (pair : Pair) :
    (enqueue i queues).lookup pair =
      if i.pair = pair then some ((queues.lookup pair).getD [] ++ [i]) else queues.lookup pair := by
  induction queues with
  | nil =>
    by_cases same : i.pair = pair
    · simp [enqueue, same]
    · simp [enqueue, List.lookup_cons, same, beq_false_of_ne (Ne.symm same)]
  | cons first others ih =>
    obtain ⟨other, queue⟩ := first
    by_cases here : other = i.pair
    · by_cases same : i.pair = pair
      · simp [enqueue, here, same]
      · simp [enqueue, List.lookup_cons, here, same, beq_false_of_ne (Ne.symm same)]
    · by_cases same : pair = other
      · simp [enqueue, here, same, Ne.symm here]
      · simp [enqueue, List.lookup_cons, here, ih, beq_false_of_ne same]

theorem keys_enqueue (i : Interaction) (queues : List (Pair × List Interaction)) :
    (enqueue i queues).map Prod.fst =
      if i.pair ∈ queues.map Prod.fst then queues.map Prod.fst
      else queues.map Prod.fst ++ [i.pair] := by
  induction queues with
  | nil => rfl
  | cons first others ih =>
    obtain ⟨other, queue⟩ := first
    by_cases here : other = i.pair
    · simp [enqueue, here]
    · simp only [enqueue, here, if_false, List.map_cons, ih, List.mem_cons, Ne.symm here, false_or,
        List.cons_append]
      split <;> rfl

theorem queues_concat (interactions : List Interaction) (i : Interaction)
    (served : List (Pair × Nat)) :
    queues ⟨interactions ++ [i], served⟩ = enqueue i (queues ⟨interactions, served⟩) := by
  simp only [queues, List.foldl_append, List.foldl_cons, List.foldl_nil]

variable (r : Replayer) (pair other : Pair)

/-- The interactions of one pair, in their order. -/
def queue (r : Replayer) (pair : Pair) : List Interaction :=
  r.interactions.filter fun i => i.pair = pair

/-- A pair that occurs has a queue with all its interactions, and no other pair has one. -/
theorem lookup_queues :
    r.queues.lookup pair = if r.queue pair = [] then none else some (r.queue pair) := by
  obtain ⟨interactions, served⟩ := r
  induction interactions using List.reverseRecOn with
  | nil => rfl
  | append_singleton interactions i ih =>
    rw [queues_concat, lookup_enqueue, ih]
    simp only [queue, List.filter_append]
    by_cases same : i.pair = pair
    · by_cases first : interactions.filter (fun i => i.pair = pair) = []
      · simp [same, first]
      · simp [same, first]
    · simp [same]

theorem nodup_keys_queues : (r.queues.map Prod.fst).Nodup := by
  obtain ⟨interactions, served⟩ := r
  induction interactions using List.reverseRecOn with
  | nil => exact List.nodup_nil
  | append_singleton interactions i ih =>
    rw [queues_concat, keys_enqueue]
    split
    · exact ih
    · next new =>
      refine List.nodup_append.mpr ⟨ih, List.pairwise_singleton _ _, ?_⟩
      intro pair mem last single
      obtain rfl := List.mem_singleton.mp single
      rintro rfl
      exact new mem

theorem mem_keys_queues : pair ∈ r.queues.map Prod.fst ↔ ∃ i ∈ r.interactions, i.pair = pair := by
  obtain ⟨interactions, served⟩ := r
  induction interactions using List.reverseRecOn with
  | nil => simp [queues]
  | append_singleton interactions i ih =>
    rw [queues_concat, keys_enqueue]
    simp only [List.mem_append, List.mem_singleton, or_and_right, exists_or, exists_eq_left]
    rw [← ih]
    split
    · next old =>
      constructor
      · exact .inl
      · rintro (mem | rfl)
        · exact mem
        · exact old
    · rw [List.mem_append, List.mem_singleton, eq_comm (a := pair)]

/-! The counts. -/

theorem servedCount_advance : (r.advance pair).servedCount pair = r.servedCount pair + 1 := by
  rw [servedCount, advance, List.lookup_cons_self, Option.getD_some]

theorem servedCount_advance_of_ne (different : other ≠ pair) :
    (r.advance pair).servedCount other = r.servedCount other := by
  have kept (served : List (Pair × Nat)) :
      (served.filter fun entry => entry.1 ≠ pair).lookup other = served.lookup other := by
    induction served with
    | nil => rfl
    | cons entry served ih =>
      obtain ⟨first, count⟩ := entry
      by_cases same : first = pair
      · rw [List.filter_cons_of_neg (by simp [same]), ih, List.lookup_cons, same,
          beq_false_of_ne different]
      · rw [List.filter_cons_of_pos (by simp [same]), List.lookup_cons, List.lookup_cons, ih]
  rw [servedCount, advance, List.lookup_cons, beq_false_of_ne different]
  exact congrArg (Option.getD · 0) (kept r.served)

/-! One request. -/

/-- The answer to a request, and the replayer behind it. -/
def step (r : Replayer) (pair : Pair) : Except Error Interaction × Replayer :=
  match r.next pair.1 pair.2 with
  | .ok (i, r) => (.ok i, r)
  | .error fault => (.error fault, r)

/-- The answers to requests one after the other. -/
def serve (r : Replayer) : List Pair → List (Except Error Interaction)
  | [] => []
  | pair :: rest => (r.step pair).1 :: (r.step pair).2.serve rest

end Replayer

namespace Cassette

/-- The interactions of one pair, in the order of the cassette. -/
def recorded (c : Cassette) (pair : Pair) : List Interaction :=
  c.interactions.filter fun i => i.pair = pair

/-- All pairs of a cassette as text, each of them once, sorted. -/
structure Lists (c : Cassette) (available : List String) : Prop where
  sorted : available.Pairwise (· ≤ ·)
  each : ∃ pairs : List Pair, pairs.Nodup ∧
    (∀ pair, pair ∈ pairs ↔ ∃ i ∈ c.interactions, i.pair = pair) ∧
    available.Perm (pairs.map Pair.text)

/-- How a message names what has been asked for. -/
def requestText (pair : Pair) : String :=
  "port=" ++ Text.quoted pair.1 ++ " method=" ++ Text.quoted pair.2

/-- The answer to a request for a pair when `earlier` requests for it have gone before. -/
inductive Answers (c : Cassette) (pair : Pair) (earlier : Nat) : Except Error Interaction → Prop
  | served {i} : (c.recorded pair)[earlier]? = some i → c.Answers pair earlier (.ok i)
  | exhausted {fault} : c.recorded pair ≠ [] → (c.recorded pair).length ≤ earlier →
      fault.message = "cassette exhausted: all " ++ toString (c.recorded pair).length ++
        " interactions for " ++ requestText pair ++ " have been consumed" →
      c.Answers pair earlier (.error (.cassette fault))
  | unknown {fault available} : c.recorded pair = [] → c.Lists available →
      fault.message = "no interactions recorded for " ++ requestText pair ++
        "; available port::method pairs: [" ++ ", ".intercalate available ++ "]" →
      c.Answers pair earlier (.error (.cassette fault))

end Cassette

namespace Replayer

theorem lists_available {c : Cassette} {r : Replayer} (same : r.interactions = c.interactions) :
    c.Lists r.available := by
  have ordered (a b : String) : (!decide (b < a)) = true ↔ a ≤ b := by
    rw [Bool.not_eq_true', decide_eq_false_iff_not, not_lt]
  refine ⟨?_, r.queues.map Prod.fst, r.nodup_keys_queues, ?_, ?_⟩
  · have sorted : r.available.Pairwise fun a b => (!decide (b < a)) = true :=
      List.pairwise_mergeSort (fun a b c => by simpa only [ordered] using le_trans)
        (fun a b => by simpa only [Bool.or_eq_true, ordered] using le_total a b) _
    exact sorted.imp fun h => (ordered _ _).mp h
  · intro pair
    rw [mem_keys_queues, same]
  · rw [available, List.map_map]
    exact List.mergeSort_perm _ _

/-- The replayer of a cassette after some requests: of each pair as much has been served as was
asked for and is there. -/
structure After (c : Cassette) (calls : List Pair) (r : Replayer) : Prop where
  interactions : r.interactions = c.interactions
  count : ∀ pair, r.servedCount pair = min (calls.count pair) (c.recorded pair).length

variable {c : Cassette} {calls : List Pair} {r : Replayer}

theorem After.start (c : Cassette) : After c [] (ofCassette c) := by
  refine ⟨rfl, ?_⟩
  intro pair
  rw [List.count_nil, Nat.zero_min]
  rfl

/-- A failure leaves the counts as they are: requests for a pair that is used up count no more. -/
theorem After.failed (h : After c calls r) {pair : Pair}
    (used : (c.recorded pair).length ≤ calls.count pair) : After c (calls ++ [pair]) r := by
  refine ⟨h.interactions, ?_⟩
  intro other
  rw [h.count, List.count_append, List.count_singleton]
  by_cases same : pair = other
  · subst same
    omega
  · simp [same]

theorem After.advance (h : After c calls r) {pair : Pair}
    (more : calls.count pair < (c.recorded pair).length) :
    After c (calls ++ [pair]) (r.advance pair) := by
  refine ⟨h.interactions, ?_⟩
  intro other
  rw [List.count_append, List.count_singleton]
  by_cases same : pair = other
  · subst same
    rw [servedCount_advance, h.count, beq_self_eq_true, if_pos rfl]
    omega
  · rw [servedCount_advance_of_ne r pair other (Ne.symm same), h.count, beq_false_of_ne same]
    simp

theorem After.step (h : After c calls r) (pair : Pair) :
    c.Answers pair (calls.count pair) (r.step pair).1 ∧
      After c (calls ++ [pair]) (r.step pair).2 := by
  have found := r.lookup_queues pair
  have queue : r.queue pair = c.recorded pair := by
    rw [Replayer.queue, h.interactions, Cassette.recorded]
  rw [queue] at found
  by_cases none : c.recorded pair = []
  · rw [if_pos none] at found
    simp only [Replayer.step, next, found]
    exact ⟨.unknown none (lists_available h.interactions) rfl, h.failed (by simp [none])⟩
  · rw [if_neg none] at found
    simp only [Replayer.step, next, found, h.count]
    by_cases more : calls.count pair < (c.recorded pair).length
    · rw [Nat.min_eq_left (Nat.le_of_lt more), List.getElem?_eq_getElem more]
      exact ⟨.served (List.getElem?_eq_getElem more), h.advance more⟩
    · have used := Nat.le_of_not_lt more
      rw [Nat.min_eq_right used, List.getElem?_eq_none (Nat.le_refl _)]
      exact ⟨.exhausted none used rfl, h.failed used⟩

theorem After.serve (h : After c calls r) (before after : List Pair) (pair : Pair) :
    ∃ answer, (r.serve (before ++ pair :: after))[before.length]? = some answer ∧
      c.Answers pair ((calls ++ before).count pair) answer := by
  -- Each request in front of the one in question is moved to those that have been answered.
  induction before generalizing calls r with
  | nil =>
    rw [List.append_nil]
    exact ⟨_, rfl, (h.step pair).1⟩
  | cons first before ih =>
    obtain ⟨answer, found, answers⟩ := ih (h.step first).2
    rw [List.append_assoc] at answers
    exact ⟨answer, found, answers⟩

theorem serve_answers (c : Cassette) (before after : List Pair) (pair : Pair) :
    ∃ answer, ((ofCassette c).serve (before ++ pair :: after))[before.length]? = some answer ∧
      c.Answers pair (before.count pair) answer :=
  (After.start c).serve before after pair

/-- Pairs of the same text have queues of their own. -/
example : (serve ⟨[⟨0, "a::b", "c", .null, .null⟩, ⟨1, "a", "b::c", .null, .null⟩], []⟩
    [("a", "b::c"), ("a::b", "c"), ("a", "b::c")]).map
      (fun answer => answer.toOption.map Interaction.seq) = [some 1, some 0, none] := by
  decide

end Replayer

end TrustedAppId
