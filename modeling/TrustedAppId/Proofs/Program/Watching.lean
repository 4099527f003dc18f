import TrustedAppId.Program
import TrustedAppId.Proofs.Script.Requests
/-! Runs that are watched. Watching changes neither the result of a run nor what it leaves behind. A
run of scripts in sequence prints what they print, in order. -/
namespace TrustedAppId

/-- Nothing is printed. -/
def Request.Quiet : Request → Prop
  | .print _ => False
  | _ => True

namespace Script

variable {α β : Type} (filter : LogFilter) (s : Surroundings)

theorem watch_run (m : Script α) :
    ((m.watch filter s).result, (m.watch filter s).after) = m.run s := by
  induction m generalizing s with
  | done a => rfl
  | draw next ih => exact ih _ _
  | isDirectory path next ih => exact ih _ _
  | read path next ih => exact ih _ _
  | write path text next ih =>
    rw [watch, run]
    cases s.tree.write path (.text text) with
    | ok tree => exact ih _ _
    | error fault => exact ih _ _
  | now next ih => exact ih _ _
  | log event next ih =>
    rw [watch, run, ← ih]
    split <;> rfl
  | print text next ih => exact ih _

theorem result_watch (m : Script α) : (m.watch filter s).result = (m.run s).1 :=
  congrArg Prod.fst (watch_run filter s m)

theorem after_watch (m : Script α) : (m.watch filter s).after = (m.run s).2 :=
  congrArg Prod.snd (watch_run filter s m)

theorem printed_log (event : Event) (next : Script α) :
    ((Script.log event next).watch filter s).printed =
      (next.watch filter { s with events := event :: s.events }).printed := by
  rw [watch]
  split <;> rfl

theorem printed_of_quiet {m : Script α} (quiet : m.Within Request.Quiet) :
    (m.watch filter s).printed = "" := by
  induction m generalizing s with
  | done a => rfl
  | draw next ih => exact ih _ _ (quiet.2 _)
  | isDirectory path next ih => exact ih _ _ (quiet.2 _)
  | read path next ih => exact ih _ _ (quiet.2 _)
  | write path text next ih =>
    rw [watch]
    cases s.tree.write path (.text text) with
    | ok tree => exact ih _ _ (quiet.2 _)
    | error fault => exact ih _ _ (quiet.2 _)
  | now next ih => exact ih _ _ (quiet.2 _)
  | log event next ih => exact (printed_log filter s event next).trans (ih _ quiet.2)
  | print text next ih => exact quiet.1.elim

theorem printed_bind (m : Script α) (f : α → Script β) :
    ((m >>= f).watch filter s).printed =
      (m.watch filter s).printed ++ ((f (m.run s).1).watch filter (m.run s).2).printed := by
  change ((m.bind f).watch filter s).printed = _
  induction m generalizing s with
  | done a => exact String.empty_append.symm
  | draw next ih => exact ih _ _
  | isDirectory path next ih => exact ih _ _
  | read path next ih => exact ih _ _
  | write path text next ih =>
    rw [Script.bind, watch, watch, run]
    cases s.tree.write path (.text text) with
    | ok tree => exact ih _ _
    | error fault => exact ih _ _
  | now next ih => exact ih _ _
  | log event next ih => rw [Script.bind, printed_log, printed_log, ih, run]
  | print text next ih =>
    exact (congrArg (text ++ ·) (ih s)).trans String.append_assoc.symm

theorem printed_run_bind (m : Run α) (f : α → Run β) :
    ((m >>= f).run.watch filter s).printed = (m.run.watch filter s).printed ++
      match m.run.run s with
      | (.ok a, s) => ((f a).run.watch filter s).printed
      | (.error _, _) => "" := by
  rw [show (m >>= f).run = m.run >>= ExceptT.bindCont f from rfl, printed_bind]
  obtain ⟨result, s'⟩ := m.run.run s
  cases result <;> rfl

end Script

end TrustedAppId
