import TrustedAppId.Proofs.Emission.Effect
import TrustedAppId.Proofs.FileTree.Apart
/-! What a context is asked for, step by step: identifiers, emissions and verifications. A step comes
to an answer and a tree that depend on the identifier it draws, if it draws one, and on the tree
before; trees that are equal apart from a file that it does not use stay so. -/
namespace TrustedAppId

inductive Step where
  | nextId
  | emit (e : Emission)
  | verify (e : Emission)

inductive Answer where
  | drawn (result : Except Error Uuid)
  | emitted (result : Except Error Emission.Emitted)
  | verified (result : Except Error Uuid)

namespace Step

def script : Step → Script Answer
  | .nextId => do pure (.drawn (← Run.draw.run))
  | .emit e => do pure (.emitted (← e.emit.run))
  | .verify e => do pure (.verified (← e.verify.run))

/-- The files that a step may read or write. -/
def paths : Step → List String
  | .nextId => []
  | .emit e | .verify e =>
    match e.checkNames with
    | .ok () => [e.buildVarPath, e.headerPath]
    | .error _ => []

/-- Whether a step takes an identifier, be it of use or not. -/
def draws : Step → Bool
  | .nextId => true
  | .emit e => e.checkNames.isOk
  | .verify _ => false

/-- What a step comes to, given the answer to its request for an identifier. -/
def outcome (answer : Except Error Uuid) (tree : FileTree) : Step → Answer × FileTree
  | .nextId => (.drawn answer, tree)
  | .emit e =>
    match e.checkNames with
    | .ok () => (.emitted (e.emitted answer tree).1, (e.emitted answer tree).2)
    | .error fault => (.emitted (.error fault), tree)
  | .verify e => (.verified (e.verified tree), tree)

variable {step : Step} (c : Context) (s : Surroundings)

theorem exec_of_draws (draws : step.draws = true) : ∃ events, c.exec step.script s =
    ((step.outcome (c.draw s).1 s.tree).1, (c.draw s).2.1,
      { (c.draw s).2.2 with tree := (step.outcome (c.draw s).1 s.tree).2, events }) := by
  cases step with
  | nextId =>
    refine ⟨(c.draw s).2.2.events, ?_⟩
    rw [script, Context.exec_bind, Context.exec_run_draw, Context.exec_pure]
    cases c <;> rfl
  | emit e =>
    obtain ⟨events, effect⟩ := e.exec_emit c s
    refine ⟨events, ?_⟩
    rw [script, Context.exec_bind, effect]
    rw [Step.draws] at draws
    cases names : e.checkNames with
    | error fault =>
      rw [names] at draws
      contradiction
    | ok =>
      simp only [Context.exec_pure, outcome, names, Context.tree_draw]
  | verify e => contradiction

theorem exec_of_not_draws (without : step.draws = false) (answer : Except Error Uuid) :
    ∃ events, c.exec step.script s =
      ((step.outcome answer s.tree).1, c,
        { s with tree := (step.outcome answer s.tree).2, events }) := by
  cases step with
  | nextId => contradiction
  | emit e =>
    obtain ⟨events, effect⟩ := e.exec_emit c s
    refine ⟨events, ?_⟩
    rw [script, Context.exec_bind, effect]
    rw [Step.draws] at without
    cases names : e.checkNames with
    | error fault => simp only [Context.exec_pure, outcome, names]
    | ok =>
      rw [names] at without
      contradiction
  | verify e =>
    obtain ⟨events, effect⟩ := e.exec_verify c s
    refine ⟨events, ?_⟩
    rw [script, Context.exec_bind, effect]
    simp only [Context.exec_pure, outcome]

end Step

/-! Trees that are equal apart from a file. -/

variable {original a b : FileTree} {place : Location} {old : Contents}

namespace Emission

variable {e : Emission} (h : FileTree.Parallel original place a b)
  (file : original.get? place = some (.file old))
  (buildVar : original.resolve .lookup e.buildVarPath ≠ .ok place)
  (header : original.resolve .lookup e.headerPath ≠ .ok place)

include h file buildVar header

theorem store_parallel (rooted : original.Rooted) (u : Uuid) :
    (e.store u b).1 = (e.store u a).1 ∧
      FileTree.Parallel original place (e.store u a).2 (e.store u b).2 := by
  unfold store
  rw [h.isDirectory_eq file]
  split
  · exact ⟨rfl, h⟩
  split
  · exact ⟨rfl, h⟩
  · rcases h.write_cases file buildVar rooted (.text (BuildVar.render e.variableName u)) with
      ⟨fault, first, second⟩ | ⟨a', b', first, second, h'⟩
    · rw [first, second]
      exact ⟨rfl, h⟩
    · rw [first, second]
      dsimp only
      rcases h'.write_cases file header rooted (.text (Header.render e.macroName u)) with
        ⟨fault, third, fourth⟩ | ⟨a'', b'', third, fourth, h''⟩
      · rw [third, fourth]
        exact ⟨rfl, h'⟩
      · rw [third, fourth]
        exact ⟨rfl, h''⟩

theorem verified_eq : e.verified b = e.verified a := by
  unfold verified
  rw [h.read_eq file buildVar, h.read_eq file header]

end Emission

theorem Step.outcome_parallel {step : Step} (h : FileTree.Parallel original place a b)
    (file : original.get? place = some (.file old)) (rooted : original.Rooted)
    (others : ∀ path ∈ step.paths, original.resolve .lookup path ≠ .ok place)
    (answer : Except Error Uuid) :
    (step.outcome answer b).1 = (step.outcome answer a).1 ∧
      FileTree.Parallel original place (step.outcome answer a).2 (step.outcome answer b).2 := by
  cases step with
  | nextId => exact ⟨rfl, h⟩
  | emit e =>
    rw [paths] at others
    cases names : e.checkNames with
    | error fault =>
      simp only [outcome, names]
      exact ⟨trivial, h⟩
    | ok =>
      simp only [names, List.mem_cons, List.not_mem_nil, or_false, forall_eq_or_imp,
        forall_eq] at others
      simp only [outcome, names]
      cases answer with
      | error fault => exact ⟨rfl, h⟩
      | ok u =>
        obtain ⟨same, h'⟩ := Emission.store_parallel h file others.1 others.2 rooted u
        exact ⟨congrArg Answer.emitted same, h'⟩
  | verify e =>
    rw [paths] at others
    simp only [outcome]
    cases names : e.checkNames with
    | error fault =>
      have failed (tree : FileTree) : e.verified tree = .error fault := by
        rw [Emission.verified, names]
        rfl
      rw [failed, failed]
      exact ⟨rfl, h⟩
    | ok =>
      simp only [names, List.mem_cons, List.not_mem_nil, or_false, forall_eq_or_imp,
        forall_eq] at others
      rw [Emission.verified_eq h file others.1 others.2]
      exact ⟨rfl, h⟩

end TrustedAppId
