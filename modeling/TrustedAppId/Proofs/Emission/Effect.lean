import TrustedAppId.Emission
import TrustedAppId.Proofs.Script.Contexts
/-! What emitting and verifying do, as functions of the file tree. Emitting draws one identifier if
the names are good and none otherwise; all else depends on that identifier and the tree alone. -/
namespace TrustedAppId.Emission

/-- Stores both artifacts of an identifier, as far as that goes. -/
def store (e : Emission) (u : Uuid) (tree : FileTree) : Except Error Emitted × FileTree :=
  if !u.isRandom then (.error (.notRandom u), tree)
  else if !tree.isDirectory e.directory then (.error (.missingOutputDirectory e.directory), tree)
  else match tree.write e.buildVarPath (.text (BuildVar.render e.variableName u)) with
    | .error fault => (.error (.file e.buildVarPath fault), tree)
    | .ok tree => match tree.write e.headerPath (.text (Header.render e.macroName u)) with
      | .error fault => (.error (.file e.headerPath fault), tree)
      | .ok tree => (.ok ⟨u, e.buildVarPath, e.headerPath⟩, tree)

/-- What emitting comes to, given the answer to its request for an identifier. -/
def emitted (e : Emission) (answer : Except Error Uuid) (tree : FileTree) :
    Except Error Emitted × FileTree :=
  match answer with
  | .error fault => (.error fault, tree)
  | .ok u => e.store u tree

/-- The identifier that the artifacts of a tree agree on. -/
def verified (e : Emission) (tree : FileTree) : Except Error Uuid := do
  e.checkNames
  let buildVar ← BuildVar.read (← (tree.read e.buildVarPath).mapError (.file e.buildVarPath))
  let header ← Header.read (← (tree.read e.headerPath).mapError (.file e.headerPath))
  e.agree buildVar header

variable (e : Emission) (c : Context) (s : Surroundings)

theorem exec_checkRandom (u : Uuid) : ∃ events, c.exec (checkRandom u).run s =
    (if u.isRandom then .ok u else .error (.notRandom u), c, { s with events }) := by
  simp only [checkRandom, Context.exec_run_bind, Context.exec_run_log]
  cases u.isRandom with
  | false =>
    simp only [Bool.not_false, if_true, Context.exec_run_bind, Context.exec_run_log,
      Context.exec_run_throw]
    exact ⟨_, rfl⟩
  | true =>
    simp only [Bool.not_true, Bool.false_eq_true, if_false, Context.exec_run_pure]
    exact ⟨_, rfl⟩

theorem exec_putArtifacts {u : Uuid} (random : u.isRandom = true) : ∃ events,
    c.exec (e.putArtifacts u).run s =
      ((e.store u s.tree).1, c, { s with tree := (e.store u s.tree).2, events }) := by
  simp only [putArtifacts, store, random, Bool.not_true, Bool.false_eq_true, if_false,
    Context.exec_run_bind, Context.exec_run_isDirectory]
  cases s.tree.isDirectory e.directory with
  | false =>
    simp only [Bool.not_false, if_true, Context.exec_run_throw, Context.exec_run_bind]
    exact ⟨_, rfl⟩
  | true =>
    simp only [Bool.not_true, Bool.false_eq_true, if_false, Context.exec_run_pure,
      Context.exec_run_bind, Context.exec_putFile]
    cases s.tree.write e.buildVarPath (.text (BuildVar.render e.variableName u)) with
    | error fault => exact ⟨_, rfl⟩
    | ok tree =>
      simp only [Context.exec_run_log]
      cases tree.write e.headerPath (.text (Header.render e.macroName u)) with
      | error fault => exact ⟨_, rfl⟩
      | ok tree => exact ⟨_, rfl⟩

theorem exec_emit : ∃ events, c.exec e.emit.run s =
    match e.checkNames with
    | .error fault => (.error fault, c, { s with events })
    | .ok () =>
      ((e.emitted (c.draw s).1 (c.draw s).2.2.tree).1, (c.draw s).2.1,
        { (c.draw s).2.2 with
          tree := (e.emitted (c.draw s).1 (c.draw s).2.2.tree).2
          events }) := by
  simp only [emit, drawRandom, Context.exec_run_bind, Context.exec_ofExcept, Context.exec_run_draw]
  cases e.checkNames with
  | error fault => exact ⟨s.events, rfl⟩
  | ok =>
    simp only []
    obtain ⟨answer, c, s⟩ := c.draw s
    cases answer with
    | error fault => exact ⟨s.events, rfl⟩
    | ok u =>
      obtain ⟨events, checked⟩ := exec_checkRandom c s u
      simp only [checked, emitted]
      cases random : u.isRandom with
      | false =>
        simp only [store, random, Bool.false_eq_true, if_false, Bool.not_false, if_true]
        exact ⟨events, rfl⟩
      | true =>
        obtain ⟨events, put⟩ := e.exec_putArtifacts c { s with events } random
        exact ⟨events, put⟩

theorem exec_verify : ∃ events,
    c.exec e.verify.run s = (e.verified s.tree, c, { s with events }) := by
  simp only [verify, Context.exec_run_bind, Context.exec_ofExcept, Context.exec_fileText]
  simp only [verified, bind, Except.bind]
  cases e.checkNames with
  | error fault => exact ⟨s.events, rfl⟩
  | ok =>
    simp only []
    cases (s.tree.read e.buildVarPath).mapError (Error.file e.buildVarPath) with
    | error fault => exact ⟨s.events, rfl⟩
    | ok text =>
      simp only []
      cases BuildVar.read text with
      | error fault => exact ⟨s.events, rfl⟩
      | ok buildVar =>
        simp only []
        cases (s.tree.read e.headerPath).mapError (Error.file e.headerPath) with
        | error fault => exact ⟨s.events, rfl⟩
        | ok text =>
          simp only []
          cases Header.read text with
          | error fault => exact ⟨s.events, rfl⟩
          | ok header =>
            simp only []
            cases e.agree buildVar header with
            | error fault => exact ⟨s.events, rfl⟩
            | ok u =>
              simp only [Context.exec_run_log, Context.exec_run_pure]
              exact ⟨_, rfl⟩

end TrustedAppId.Emission
