import TrustedAppId.Context
/-! Carrying out scripts in a context. Each request is answered by the surroundings, but one for an
identifier by the context; a sequence of scripts hands context and surroundings on. -/
namespace TrustedAppId

theorem bind_eq_ok_iff {ε α β : Type} {x : Except ε α} {f : α → Except ε β} {b : β} :
    (x >>= f) = .ok b ↔ ∃ a, x = .ok a ∧ f a = .ok b := by
  cases x with
  | error fault =>
    constructor
    · exact nofun
    · rintro ⟨a, ⟨⟩, -⟩
  | ok a =>
    constructor
    · intro taken
      exact ⟨a, rfl, taken⟩
    · rintro ⟨_, ⟨rfl⟩, taken⟩
      exact taken

theorem mapError_eq_ok_iff {ε ε' α : Type} {f : ε → ε'} {x : Except ε α} {a : α} :
    x.mapError f = .ok a ↔ x = .ok a := by
  cases x with
  | error fault => exact ⟨nofun, nofun⟩
  | ok b =>
    change Except.ok b = .ok a ↔ _
    rw [Except.ok.injEq, Except.ok.injEq]

namespace Script

variable {α β : Type}

theorem run_bind (m : Script α) (f : α → Script β) (s : Surroundings) :
    (m >>= f).run s = (f (m.run s).1).run (m.run s).2 := by
  change (m.bind f).run s = _
  induction m generalizing s with
  | done a => rfl
  | draw next ih => exact ih _ _
  | isDirectory path next ih => exact ih _ _
  | read path next ih => exact ih _ _
  | write path text next ih =>
    simp only [Script.bind, run]
    cases s.tree.write path (.text text) with
    | ok tree => exact ih _ _
    | error fault => exact ih _ _
  | now next ih => exact ih _ _
  | log event next ih => exact ih _
  | print text next ih => exact ih _

theorem run_run_bind (m : Run α) (f : α → Run β) (s : Surroundings) :
    (m >>= f).run.run s =
      match m.run.run s with
      | (.ok a, s) => (f a).run.run s
      | (.error e, s) => (.error e, s) := by
  rw [show (m >>= f).run = m.run >>= ExceptT.bindCont f from rfl, run_bind]
  obtain ⟨result, s'⟩ := m.run.run s
  cases result with
  | ok a => rfl
  | error e => rfl

theorem run_run_bind_eq_ok {m : Run α} {f : α → Run β} {s s' : Surroundings} {b : β}
    (succeeded : (m >>= f).run.run s = (.ok b, s')) :
    ∃ a between, m.run.run s = (.ok a, between) ∧ (f a).run.run between = (.ok b, s') := by
  rw [run_run_bind] at succeeded
  split at succeeded
  · next a between first => exact ⟨a, between, first, succeeded⟩
  · cases succeeded

theorem recording_bind (m : Script α) (f : α → Script β) (r : Recorder) :
    (m >>= f).recording r = m.recording r >>= fun (a, r) => (f a).recording r := by
  change (m.bind f).recording r = (m.recording r).bind _
  induction m generalizing r with
  | done a => rfl
  | draw next ih => exact congrArg Script.draw (funext fun id => ih id _)
  | isDirectory path next ih => exact congrArg (Script.isDirectory path) (funext fun x => ih x r)
  | read path next ih => exact congrArg (Script.read path) (funext fun x => ih x r)
  | write path text next ih => exact congrArg (Script.write path text) (funext fun x => ih x r)
  | now next ih => exact congrArg Script.now (funext fun x => ih x r)
  | log event next ih => exact congrArg (Script.log event) (ih r)
  | print text next ih => exact congrArg (Script.print text) (ih r)

theorem replaying_bind (m : Script α) (f : α → Script β) (r : Replayer) :
    (m >>= f).replaying r = m.replaying r >>= fun (a, r) => (f a).replaying r := by
  change (m.bind f).replaying r = (m.replaying r).bind _
  induction m generalizing r with
  | done a => rfl
  | draw next ih => exact ih _ _
  | isDirectory path next ih => exact congrArg (Script.isDirectory path) (funext fun x => ih x r)
  | read path next ih => exact congrArg (Script.read path) (funext fun x => ih x r)
  | write path text next ih => exact congrArg (Script.write path text) (funext fun x => ih x r)
  | now next ih => exact congrArg Script.now (funext fun x => ih x r)
  | log event next ih => exact congrArg (Script.log event) (ih r)
  | print text next ih => exact congrArg (Script.print text) (ih r)

end Script

namespace Context

variable {α β : Type}

/-- The result of a script in a context, the context behind it, and what it leaves behind. -/
def exec (c : Context) (m : Script α) (s : Surroundings) : α × Context × Surroundings :=
  let ((a, c), s) := (c.perform m).run s
  (a, c, s)

/-- The next identifier of a context, with what is left of the context and the surroundings. -/
def draw (c : Context) (s : Surroundings) : Except Error Uuid × Context × Surroundings :=
  match c with
  | .direct => (s.ids.next.1, .direct, { s with ids := s.ids.next.2 })
  | .recording r =>
    (s.ids.next.1, .recording (r.recordId s.ids.next.1), { s with ids := s.ids.next.2 })
  | .replaying r => (r.nextId.1, .replaying r.nextId.2, s)

variable (c : Context) (s : Surroundings)

@[simp] theorem tree_draw : (c.draw s).2.2.tree = s.tree := by
  cases c <;> rfl

theorem exec_bind (m : Script α) (f : α → Script β) :
    c.exec (m >>= f) s = (c.exec m s).2.1.exec (f (c.exec m s).1) (c.exec m s).2.2 := by
  cases c <;>
    simp only [exec, perform, Script.run_bind, Script.recording_bind, Script.replaying_bind, pure,
      Script.run]

@[simp] theorem exec_done (a : α) : c.exec (.done a) s = (a, c, s) := by
  cases c <;> rfl

@[simp] theorem exec_pure (a : α) : c.exec (pure a) s = (a, c, s) := exec_done c s a

theorem exec_draw (next : Except Error Uuid → Script α) :
    c.exec (.draw next) s = (c.draw s).2.1.exec (next (c.draw s).1) (c.draw s).2.2 := by
  cases c <;> rfl

theorem exec_isDirectory (path : String) (next : Bool → Script α) :
    c.exec (.isDirectory path next) s = c.exec (next (s.tree.isDirectory path)) s := by
  cases c <;> rfl

theorem exec_read (path : String) (next : Except FileFault String → Script α) :
    c.exec (.read path next) s = c.exec (next (s.tree.read path)) s := by
  cases c <;> rfl

theorem exec_write (path text : String) (next : Except FileFault Unit → Script α) :
    c.exec (.write path text next) s =
      match s.tree.write path (.text text) with
      | .ok tree => c.exec (next (.ok ())) { s with tree }
      | .error fault => c.exec (next (.error fault)) s := by
  cases c <;>
    simp only [exec, perform, Script.run_bind, Script.recording, Script.replaying, Script.run] <;>
    cases s.tree.write path (.text text) <;> rfl

theorem exec_log (event : Event) (next : Script α) :
    c.exec (.log event next) s = c.exec next { s with events := event :: s.events } := by
  cases c <;> rfl

theorem exec_now (next : Timestamp → Script α) : c.exec (.now next) s = c.exec (next s.time) s := by
  cases c <;> rfl

theorem exec_print (text : String) (next : Script α) :
    c.exec (.print text next) s = c.exec next s := by
  cases c <;> rfl

/-! Scripts that may fail. -/

theorem exec_run_bind (m : Run α) (f : α → Run β) :
    c.exec (m >>= f).run s =
      match c.exec m.run s with
      | (.ok a, c, s) => c.exec (f a).run s
      | (.error e, c, s) => (.error e, c, s) := by
  rw [show (m >>= f).run = m.run >>= ExceptT.bindCont f from rfl, exec_bind]
  obtain ⟨result, c', s'⟩ := c.exec m.run s
  cases result with
  | ok a => rfl
  | error e => exact exec_done c' s' (Except.error e)

@[simp] theorem exec_ofExcept (result : Except Error α) :
    c.exec (Run.ofExcept result).run s = (result, c, s) :=
  exec_done c s _

@[simp] theorem exec_run_pure (a : α) : c.exec (pure a : Run α).run s = (.ok a, c, s) :=
  exec_done c s _

@[simp] theorem exec_run_throw (fault : Error) :
    c.exec (throw fault : Run α).run s = (.error fault, c, s) :=
  exec_done c s _

@[simp] theorem exec_run_draw : c.exec Run.draw.run s = c.draw s :=
  (exec_draw c s .done).trans (exec_done _ _ _)

@[simp] theorem exec_run_isDirectory (path : String) :
    c.exec (Run.isDirectory path).run s = (.ok (s.tree.isDirectory path), c, s) :=
  (exec_isDirectory c s path _).trans (exec_done _ _ _)

@[simp] theorem exec_fileText (path : String) :
    c.exec (Run.fileText path).run s = ((s.tree.read path).mapError (.file path), c, s) :=
  (exec_read c s path _).trans (exec_done _ _ _)

@[simp] theorem exec_run_log (event : Event) :
    c.exec (Run.log event).run s = (.ok (), c, { s with events := event :: s.events }) :=
  (exec_log c s event _).trans (exec_done _ _ _)

@[simp] theorem exec_putFile (path text : String) :
    c.exec (Run.putFile path text).run s =
      match s.tree.write path (.text text) with
      | .ok tree => (.ok (), c, { s with tree })
      | .error fault => (.error (.file path fault), c, s) := by
  rw [Run.putFile, ExceptT.run_mk, exec_write]
  cases s.tree.write path (.text text) <;> exact exec_done _ _ _

theorem run_lift_perform (m : Script α) :
    (ExceptT.lift (c.perform m) : Run (α × Context)).run.run s =
      (.ok ((c.exec m s).1, (c.exec m s).2.1), (c.exec m s).2.2) := by
  rw [show (ExceptT.lift (c.perform m) : Run (α × Context)).run =
    c.perform m >>= fun a => pure (.ok a) from rfl, Script.run_bind]
  rfl

end Context

end TrustedAppId
