import TrustedAppId.Cassette
import TrustedAppId.Error
/-! Replaying: each port and method has a queue of interactions, in the order of the cassette, and a
count of those that have been served, whatever is asked of other ports and methods in between. -/
namespace TrustedAppId

/-- Port and method. -/
abbrev Pair := String × String

def Pair.text (pair : Pair) : String := pair.1 ++ "::" ++ pair.2

def Interaction.pair (i : Interaction) : Pair := (i.port, i.method)

structure Replayer where
  interactions : List Interaction
  /-- How many interactions of each pair have been served; a pair that is not listed has none. -/
  served : List (Pair × Nat)

namespace Replayer

def ofCassette (c : Cassette) : Replayer := ⟨c.interactions, []⟩

/-- Adds an interaction at the end of the queue of its pair; the first one begins a queue. -/
def enqueue (i : Interaction) : List (Pair × List Interaction) → List (Pair × List Interaction)
  | [] => [(i.pair, [i])]
  | (pair, queue) :: others =>
    if pair = i.pair then (pair, queue ++ [i]) :: others else (pair, queue) :: enqueue i others

/-- The queues of all pairs that occur. -/
def queues (r : Replayer) : List (Pair × List Interaction) :=
  r.interactions.foldl (fun queues i => enqueue i queues) []

def servedCount (r : Replayer) (pair : Pair) : Nat := (r.served.lookup pair).getD 0

def advance (r : Replayer) (pair : Pair) : Replayer :=
  let others := r.served.filter fun entry => entry.1 ≠ pair
  { r with served := (pair, r.servedCount pair + 1) :: others }

/-- The pairs of the cassette as text, each of them once, sorted. -/
def available (r : Replayer) : List String :=
  (r.queues.map fun (pair, _) => pair.text).mergeSort fun a b => !(b < a)

/-- The next interaction of a port and method. A failure leaves the replayer as it is. -/
def next (r : Replayer) (port method : String) : Except Error (Interaction × Replayer) :=
  let pair := (port, method)
  match r.queues.lookup pair with
  | none => .error (.cassette (.noPair port method r.available))
  | some queue =>
    match queue[r.servedCount pair]? with
    | some interaction => .ok (interaction, r.advance pair)
    | none => .error (.cassette (.exhausted queue.length port method))

end TrustedAppId.Replayer
