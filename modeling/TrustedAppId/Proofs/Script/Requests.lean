import TrustedAppId.Proofs.Script.Contexts
/-! The requests that scripts make: those that a script may make in any run, and those that it makes
in one run, each with the tree that it is made in. A context answers requests for identifiers in its
own way and passes on all others, so it adds none. -/
namespace TrustedAppId

/-- What a script asks of its surroundings. -/
inductive Request where
  | draw
  | isDirectory (path : String)
  | read (path : String)
  | write (path text : String)
  | now
  | log (event : Event)
  | print (text : String)
deriving DecidableEq

namespace Script

variable {α β : Type} {allowed : Request → Prop}

/-- Whatever the answers are, only requests that are allowed are made. -/
def Within (allowed : Request → Prop) : Script α → Prop
  | .done _ => True
  | .draw next => allowed .draw ∧ ∀ id, (next id).Within allowed
  | .isDirectory path next => allowed (.isDirectory path) ∧ ∀ found, (next found).Within allowed
  | .read path next => allowed (.read path) ∧ ∀ text, (next text).Within allowed
  | .write path text next => allowed (.write path text) ∧ ∀ result, (next result).Within allowed
  | .now next => allowed .now ∧ ∀ time, (next time).Within allowed
  | .log event next => allowed (.log event) ∧ next.Within allowed
  | .print text next => allowed (.print text) ∧ next.Within allowed

namespace Within

theorem mono {m : Script α} (h : m.Within allowed) {more : Request → Prop}
    (weaker : ∀ request, allowed request → more request) : m.Within more := by
  induction m with
  | done a => trivial
  | draw next ih => exact ⟨weaker _ h.1, fun id => ih id (h.2 id)⟩
  | isDirectory path next ih => exact ⟨weaker _ h.1, fun found => ih found (h.2 found)⟩
  | read path next ih => exact ⟨weaker _ h.1, fun text => ih text (h.2 text)⟩
  | write path text next ih => exact ⟨weaker _ h.1, fun result => ih result (h.2 result)⟩
  | now next ih => exact ⟨weaker _ h.1, fun time => ih time (h.2 time)⟩
  | log event next ih => exact ⟨weaker _ h.1, ih h.2⟩
  | print text next ih => exact ⟨weaker _ h.1, ih h.2⟩

theorem bind {m : Script α} {f : α → Script β} (first : m.Within allowed)
    (second : ∀ a, (f a).Within allowed) : (m >>= f).Within allowed := by
  change (m.bind f).Within allowed
  induction m with
  | done a => exact second a
  | draw next ih => exact ⟨first.1, fun id => ih id (first.2 id)⟩
  | isDirectory path next ih => exact ⟨first.1, fun found => ih found (first.2 found)⟩
  | read path next ih => exact ⟨first.1, fun text => ih text (first.2 text)⟩
  | write path text next ih => exact ⟨first.1, fun result => ih result (first.2 result)⟩
  | now next ih => exact ⟨first.1, fun time => ih time (first.2 time)⟩
  | log event next ih => exact ⟨first.1, ih first.2⟩
  | print text next ih => exact ⟨first.1, ih first.2⟩

theorem recording {m : Script α} (h : m.Within allowed) (r : Recorder) :
    (m.recording r).Within allowed := by
  induction m generalizing r with
  | done a => trivial
  | draw next ih => exact ⟨h.1, fun id => ih id (h.2 id) _⟩
  | isDirectory path next ih => exact ⟨h.1, fun found => ih found (h.2 found) r⟩
  | read path next ih => exact ⟨h.1, fun text => ih text (h.2 text) r⟩
  | write path text next ih => exact ⟨h.1, fun result => ih result (h.2 result) r⟩
  | now next ih => exact ⟨h.1, fun time => ih time (h.2 time) r⟩
  | log event next ih => exact ⟨h.1, ih h.2 r⟩
  | print text next ih => exact ⟨h.1, ih h.2 r⟩

theorem replaying {m : Script α} (h : m.Within allowed) (r : Replayer) :
    (m.replaying r).Within allowed := by
  induction m generalizing r with
  | done a => trivial
  | draw next ih => exact ih _ (h.2 _) _
  | isDirectory path next ih => exact ⟨h.1, fun found => ih found (h.2 found) r⟩
  | read path next ih => exact ⟨h.1, fun text => ih text (h.2 text) r⟩
  | write path text next ih => exact ⟨h.1, fun result => ih result (h.2 result) r⟩
  | now next ih => exact ⟨h.1, fun time => ih time (h.2 time) r⟩
  | log event next ih => exact ⟨h.1, ih h.2 r⟩
  | print text next ih => exact ⟨h.1, ih h.2 r⟩

theorem perform {m : Script α} (h : m.Within allowed) (c : Context) :
    (c.perform m).Within allowed := by
  cases c with
  | direct => exact h.bind fun _ => trivial
  | recording r => exact (h.recording r).bind fun _ => trivial
  | replaying r => exact (h.replaying r).bind fun _ => trivial

/-! Scripts that may fail. -/

theorem run_bind {m : Run α} {f : α → Run β} (first : m.run.Within allowed)
    (second : ∀ a, (f a).run.Within allowed) : (m >>= f).run.Within allowed := by
  rw [show (m >>= f).run = m.run >>= ExceptT.bindCont f from rfl]
  refine first.bind ?_
  intro result
  cases result with
  | ok a => exact second a
  | error fault => trivial

theorem ofExcept (result : Except Error α) : (Run.ofExcept result).run.Within allowed := trivial

theorem run_pure (a : α) : (Pure.pure a : Run α).run.Within allowed := trivial

theorem run_throw (fault : Error) : (throw fault : Run α).run.Within allowed := trivial

theorem run_lift {m : Script α} (h : m.Within allowed) :
    (ExceptT.lift m : Run α).run.Within allowed :=
  h.bind fun _ => trivial

theorem draw (h : allowed .draw) : Run.draw.run.Within allowed := ⟨h, fun _ => trivial⟩

theorem isDirectory {path : String} (h : allowed (.isDirectory path)) :
    (Run.isDirectory path).run.Within allowed :=
  ⟨h, fun _ => trivial⟩

theorem fileText {path : String} (h : allowed (.read path)) :
    (Run.fileText path).run.Within allowed :=
  ⟨h, fun _ => trivial⟩

theorem putFile {path text : String} (h : allowed (.write path text)) :
    (Run.putFile path text).run.Within allowed :=
  ⟨h, fun _ => trivial⟩

theorem now (h : allowed .now) : Run.now.run.Within allowed := ⟨h, fun _ => trivial⟩

theorem log {event : Event} (h : allowed (.log event)) : (Run.log event).run.Within allowed :=
  ⟨h, trivial⟩

end Within

end Script

/-! The requests of one run. -/

namespace Context

variable {α β : Type}

/-- The requests of a script in a context, each with the tree that it is made in. -/
def trace (c : Context) : Script α → Surroundings → List (FileTree × Request)
  | .done _, _ => []
  | .draw next, s =>
    (s.tree, .draw) :: (c.draw s).2.1.trace (next (c.draw s).1) (c.draw s).2.2
  | .isDirectory path next, s =>
    (s.tree, .isDirectory path) :: c.trace (next (s.tree.isDirectory path)) s
  | .read path next, s => (s.tree, .read path) :: c.trace (next (s.tree.read path)) s
  | .write path text next, s =>
    (s.tree, .write path text) ::
      match s.tree.write path (.text text) with
      | .ok tree => c.trace (next (.ok ())) { s with tree }
      | .error fault => c.trace (next (.error fault)) s
  | .now next, s => (s.tree, .now) :: c.trace (next s.time) s
  | .log event next, s =>
    (s.tree, .log event) :: c.trace next { s with events := event :: s.events }
  | .print text next, s => (s.tree, .print text) :: c.trace next s

variable (c : Context) (s : Surroundings)

theorem trace_bind (m : Script α) (f : α → Script β) :
    c.trace (m >>= f) s =
      c.trace m s ++ (c.exec m s).2.1.trace (f (c.exec m s).1) (c.exec m s).2.2 := by
  change c.trace (m.bind f) s = _
  induction m generalizing c s with
  | done a => rw [exec_done]; rfl
  | draw next ih => rw [exec_draw]; exact congrArg _ (ih _ _ _)
  | isDirectory path next ih => rw [exec_isDirectory]; exact congrArg _ (ih _ _ _)
  | read path next ih => rw [exec_read]; exact congrArg _ (ih _ _ _)
  | write path text next ih =>
    rw [exec_write, Script.bind, trace, trace]
    cases s.tree.write path (.text text) with
    | ok tree => exact congrArg _ (ih _ _ _)
    | error fault => exact congrArg _ (ih _ _ _)
  | now next ih => rw [exec_now]; exact congrArg _ (ih _ _ _)
  | log event next ih => rw [exec_log]; exact congrArg _ (ih _ _)
  | print text next ih => rw [exec_print]; exact congrArg _ (ih _ _)

theorem trace_run_bind (m : Run α) (f : α → Run β) :
    c.trace (m >>= f).run s = c.trace m.run s ++
      match c.exec m.run s with
      | (.ok a, c, s) => c.trace (f a).run s
      | (.error _, _, _) => [] := by
  rw [show (m >>= f).run = m.run >>= ExceptT.bindCont f from rfl, trace_bind]
  obtain ⟨result, c', s'⟩ := c.exec m.run s
  cases result with
  | ok a => rfl
  | error e => rfl

theorem trace_allowed {allowed : Request → Prop} {m : Script α} (h : m.Within allowed) :
    ∀ entry ∈ c.trace m s, allowed entry.2 := by
  induction m generalizing c s with
  | done a => nofun
  | draw next ih => exact List.forall_mem_cons.mpr ⟨h.1, ih _ _ _ (h.2 _)⟩
  | isDirectory path next ih => exact List.forall_mem_cons.mpr ⟨h.1, ih _ _ _ (h.2 _)⟩
  | read path next ih => exact List.forall_mem_cons.mpr ⟨h.1, ih _ _ _ (h.2 _)⟩
  | write path text next ih =>
    rw [trace]
    refine List.forall_mem_cons.mpr ⟨h.1, ?_⟩
    cases s.tree.write path (.text text) with
    | ok tree => exact ih _ _ _ (h.2 _)
    | error fault => exact ih _ _ _ (h.2 _)
  | now next ih => exact List.forall_mem_cons.mpr ⟨h.1, ih _ _ _ (h.2 _)⟩
  | log event next ih => exact List.forall_mem_cons.mpr ⟨h.1, ih _ _ h.2⟩
  | print text next ih => exact List.forall_mem_cons.mpr ⟨h.1, ih _ _ h.2⟩

/-- How many identifiers a script asks for. -/
def draws (m : Script α) : Nat := (c.trace m s).countP fun (_, request) => request = .draw

theorem draws_run_bind (m : Run α) (f : α → Run β) :
    c.draws s (m >>= f).run = c.draws s m.run +
      match c.exec m.run s with
      | (.ok a, c, s) => c.draws s (f a).run
      | (.error _, _, _) => 0 := by
  rw [draws, trace_run_bind, List.countP_append]
  obtain ⟨result, c', s'⟩ := c.exec m.run s
  cases result <;> rfl

theorem draws_eq_zero {m : Script α} (h : m.Within (· ≠ .draw)) : c.draws s m = 0 := by
  apply List.countP_eq_zero.mpr
  intro entry mem
  simpa only [decide_eq_true_eq] using trace_allowed c s h entry mem

theorem draws_run_bind_of_within (m : Run α) {f : α → Run β}
    (later : ∀ a, (f a).run.Within (· ≠ .draw)) : c.draws s (m >>= f).run = c.draws s m.run := by
  rw [draws_run_bind]
  split
  · rw [draws_eq_zero _ _ (later _), Nat.add_zero]
  · rfl

end Context

end TrustedAppId
