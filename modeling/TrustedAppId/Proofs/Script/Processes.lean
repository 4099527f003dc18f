import TrustedAppId.Proofs.FileTree.Storing
import TrustedAppId.Proofs.Script.Contexts
/-! Processes that share a tree. Each carries out a script of its own, one request at a time, with
identifiers and events of its own; between two of its requests any others may be carried out. What a
script writes among others is told by a rule for each request and one for sequences. -/
namespace TrustedAppId

variable {α β : Type}

/-- A script in the course of being carried out, and what belongs to it alone. -/
structure Process (α : Type) where
  context : Context
  script : Script α
  ids : IdStream
  time : Timestamp
  /-- The events so far, last one first. -/
  events : List Event

namespace Process

def surroundings (p : Process α) (tree : FileTree) : Surroundings := ⟨tree, p.ids, p.time, p.events⟩

/-- Carries out the next request, if there is one. -/
def step (p : Process α) (tree : FileTree) : Process α × FileTree :=
  match p.script with
  | .done _ => (p, tree)
  | .draw next =>
    let (id, context, s) := p.context.draw (p.surroundings tree)
    ({ p with context, script := next id, ids := s.ids }, tree)
  | .isDirectory path next => ({ p with script := next (tree.isDirectory path) }, tree)
  | .read path next => ({ p with script := next (tree.read path) }, tree)
  | .write path text next =>
    match tree.write path (.text text) with
    | .ok tree => ({ p with script := next (.ok ()) }, tree)
    | .error fault => ({ p with script := next (.error fault) }, tree)
  | .now next => ({ p with script := next p.time }, tree)
  | .log event next => ({ p with script := next, events := event :: p.events }, tree)
  | .print _ next => ({ p with script := next }, tree)

/-- The path by which the next request stores a text, if it does so. -/
def stores? (p : Process α) (tree : FileTree) : Option String :=
  match p.script with
  | .write path text _ =>
    match tree.write path (.text text) with
    | .ok _ => some path
    | .error _ => none
  | _ => none

/-- A process that is left alone comes to what its script comes to. -/
theorem exec_step (p : Process α) (tree : FileTree) :
    (p.step tree).1.context.exec (p.step tree).1.script
        ((p.step tree).1.surroundings (p.step tree).2) =
      p.context.exec p.script (p.surroundings tree) := by
  obtain ⟨context, script, ids, time, events⟩ := p
  cases script with
  | done a => rfl
  | draw next =>
    rw [Context.exec_draw]
    cases context <;> rfl
  | isDirectory path next =>
    exact (context.exec_isDirectory ⟨tree, ids, time, events⟩ path next).symm
  | read path next => exact (context.exec_read ⟨tree, ids, time, events⟩ path next).symm
  | write path text next =>
    simp only [step, surroundings, Context.exec_write]
    cases tree.write path (.text text) <;> rfl
  | now next => exact (context.exec_now ⟨tree, ids, time, events⟩ next).symm
  | log event next => exact (context.exec_log ⟨tree, ids, time, events⟩ event next).symm
  | print text next => exact (context.exec_print ⟨tree, ids, time, events⟩ text next).symm

end Process

/-- Processes and the tree that they share. -/
structure System (α : Type) where
  processes : List (Process α)
  tree : FileTree
  /-- The texts that have been stored, each by which process and by which path, last one first. -/
  stored : List (Nat × String)

namespace System

/-- Lets the process with this number carry out a request. -/
def step (sys : System α) (i : Nat) : System α :=
  match sys.processes[i]? with
  | none => sys
  | some p =>
    { processes := sys.processes.set i (p.step sys.tree).1
      tree := (p.step sys.tree).2
      stored := (p.stores? sys.tree).toList.map (i, ·) ++ sys.stored }

/-- Lets processes carry out requests in the order of these numbers. -/
def run (sys : System α) (schedule : List Nat) : System α := schedule.foldl step sys

theorem step_eq {sys : System α} {i : Nat} {p : Process α}
    (found : sys.processes[i]? = some p) : sys.step i =
      { processes := sys.processes.set i (p.step sys.tree).1
        tree := (p.step sys.tree).2
        stored := (p.stores? sys.tree).toList.map (i, ·) ++ sys.stored } := by
  rw [step, found]

theorem run_append (sys : System α) (first second : List Nat) :
    sys.run (first ++ second) = (sys.run first).run second := List.foldl_append

/-- The process that was the last one to store a text by this path. -/
def lastWriter? (sys : System α) (path : String) : Option Nat :=
  (sys.stored.find? fun entry => entry.2 = path).map Prod.fst

theorem lastWriter?_cons (processes : List (Process α)) (tree : FileTree) (i : Nat)
    (stored : List (Nat × String)) (path path' : String) :
    System.lastWriter? ⟨processes, tree, (i, path) :: stored⟩ path' =
      if path = path' then some i else System.lastWriter? ⟨processes, tree, stored⟩ path' := by
  rw [lastWriter?, List.find?_cons]
  by_cases same : path = path'
  · rw [if_pos same]
    simp only [same, decide_true, Option.map_some]
  · rw [if_neg same]
    simp only [same, decide_false]
    rfl

theorem exists_lastWriter? {sys : System α} {i : Nat} {path : String} (mem : (i, path) ∈ sys.stored) :
    ∃ j, sys.lastWriter? path = some j := by
  have found : (sys.stored.find? fun entry => entry.2 = path).isSome = true := by
    rw [List.find?_isSome]
    exact ⟨_, mem, decide_eq_true rfl⟩
  obtain ⟨entry, found⟩ := Option.isSome_iff_exists.mp found
  exact ⟨entry.1, by rw [lastWriter?, found]; rfl⟩

/-- No process has anything left to do. -/
def Finished (sys : System α) : Prop := ∀ p ∈ sys.processes, ∃ a, p.script = .done a

end System

/-! What a script does among others. -/

/-- A text and the path by which it is stored. -/
abbrev Stored := String × String

namespace Script

/-- In whatever trees its requests are made that come from `original` by storing texts, the script
stores the texts `todo`, in this order, and `after` holds of its result and of the texts that it has
not stored. It draws nothing. -/
def Plans (original : FileTree) (after : α → List Stored → Prop) : Script α → List Stored → Prop
  | .done a, todo => after a todo
  | .draw _, _ => False
  | .isDirectory path next, todo => ∀ tree, FileTree.Extends original tree →
    (next (tree.isDirectory path)).Plans original after todo
  | .read path next, todo => ∀ tree, FileTree.Extends original tree →
    (next (tree.read path)).Plans original after todo
  | .write path text next, todo => ∃ rest, todo = (path, text) :: rest ∧
    ∀ tree, FileTree.Extends original tree →
      match tree.write path (.text text) with
      | .ok _ => (next (.ok ())).Plans original after rest
      | .error fault => (next (.error fault)).Plans original after todo
  | .now next, todo => ∀ time, (next time).Plans original after todo
  | .log _ next, todo => next.Plans original after todo
  | .print _ next, todo => next.Plans original after todo

variable {original : FileTree} {todo : List Stored}

theorem Plans.bind {m : Script α} {f : α → Script β} {between : α → List Stored → Prop}
    {after : β → List Stored → Prop} (first : m.Plans original between todo)
    (second : ∀ a todo, between a todo → (f a).Plans original after todo) :
    (m >>= f).Plans original after todo := by
  change (m.bind f).Plans original after todo
  induction m generalizing todo with
  | done a => exact second a todo first
  | draw next ih => exact first
  | isDirectory path next ih => exact fun tree extends' => ih _ (first tree extends')
  | read path next ih => exact fun tree extends' => ih _ (first tree extends')
  | write path text next ih =>
    obtain ⟨rest, rfl, later⟩ := first
    refine ⟨rest, rfl, ?_⟩
    intro tree extends'
    have later := later tree extends'
    cases written : tree.write path (.text text) with
    | ok new =>
      rw [written] at later
      exact ih _ later
    | error fault =>
      rw [written] at later
      exact ih _ later
  | now next ih => exact fun time => ih _ (first time)
  | log event next ih => exact ih first
  | print text next ih => exact ih first

/-! Scripts that may fail. What holds behind a failure must hold of the whole. -/

theorem Plans.run_bind {m : Run α} {f : α → Run β} (between : α → List Stored → Prop)
    {after : Except Error β → List Stored → Prop}
    (first : m.run.Plans original (fun result todo => match result with
      | .ok a => between a todo
      | .error fault => after (.error fault) todo) todo)
    (second : ∀ a todo, between a todo → (f a).run.Plans original after todo) :
    (m >>= f).run.Plans original after todo := by
  rw [show (m >>= f).run = m.run >>= ExceptT.bindCont f from rfl]
  refine first.bind ?_
  intro result todo held
  cases result with
  | ok a => exact second a todo held
  | error fault => exact held

end Script

namespace Process

variable {original tree : FileTree} {after : α → List Stored → Prop} {todo : List Stored}

/-- What a step does about the texts that are still to be stored. -/
inductive Does (p : Process α) (tree : FileTree) : List Stored → List Stored → Prop where
  | nothing {todo : List Stored} : p.stores? tree = none → (p.step tree).2 = tree → Does p tree todo todo
  | stores {path text : String} {rest : List Stored} : p.stores? tree = some path →
      tree.write path (.text text) = .ok (p.step tree).2 → Does p tree ((path, text) :: rest) rest

/-- A step leads on in the plan. -/
theorem does_step {p : Process α} (plans : p.script.Plans original after todo)
    (extends' : FileTree.Extends original tree) :
    ∃ rest, p.Does tree todo rest ∧ (p.step tree).1.script.Plans original after rest := by
  obtain ⟨context, script, ids, time, events⟩ := p
  cases script with
  | done a => exact ⟨todo, .nothing rfl rfl, plans⟩
  | draw next => exact absurd plans id
  | isDirectory path next => exact ⟨todo, .nothing rfl rfl, plans tree extends'⟩
  | read path next => exact ⟨todo, .nothing rfl rfl, plans tree extends'⟩
  | write path text next =>
    obtain ⟨rest, rfl, later⟩ := plans
    have later := later tree extends'
    cases written : tree.write path (.text text) with
    | ok new =>
      rw [written] at later
      refine ⟨rest, .stores ?_ ?_, ?_⟩
      · simp only [stores?, written]
      · simp only [step, written]
      · simpa only [step, written] using later
    | error fault =>
      rw [written] at later
      refine ⟨_, .nothing ?_ ?_, ?_⟩
      · simp only [stores?, written]
      · simp only [step, written]
      · simpa only [step, written] using later
  | now next => exact ⟨todo, .nothing rfl rfl, plans time⟩
  | log event next => exact ⟨todo, .nothing rfl rfl, plans⟩
  | print text next => exact ⟨todo, .nothing rfl rfl, plans⟩

end Process

end TrustedAppId
