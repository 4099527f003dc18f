import TrustedAppId.Proofs.Script.Requests
/-! Runs that are cut off. A crash leaves the tree as it was before one of the requests of the run,
or with a front part of the text that was being written. Triples say what a script leaves when it is
cut off and when it succeeds; a sequence is cut off in one of its parts. -/
namespace TrustedAppId

/-- What a crash in the course of a request may leave of a tree. -/
inductive Request.Leaves : Request → FileTree → FileTree → Prop where
  | unchanged {request : Request} {tree : FileTree} : Leaves request tree tree
  | partly {path text part : String} {tree left : FileTree} : part.toList <+: text.toList →
      tree.write path (.text part) = .ok left → Leaves (.write path text) tree left

variable {α β : Type}

/-- What a crash in the course of a script may leave. -/
def Context.MayLeave (c : Context) (m : Script α) (s : Surroundings) (left : FileTree) : Prop :=
  ∃ entry ∈ c.trace m s, entry.2.Leaves entry.1 left

theorem Context.mayLeave_run_bind {c : Context} {m : Run α} {f : α → Run β} {s : Surroundings}
    {left : FileTree} (cut : c.MayLeave (m >>= f).run s left) :
    c.MayLeave m.run s left ∨ ∃ a c' s', c.exec m.run s = (.ok a, c', s') ∧
      c'.MayLeave (f a).run s' left := by
  obtain ⟨entry, mem, leaves⟩ := cut
  rw [trace_run_bind, List.mem_append] at mem
  rcases mem with mem | mem
  · exact .inl ⟨entry, mem, leaves⟩
  · split at mem
    · next a c' s' executed => exact .inr ⟨a, c', s', executed, entry, mem, leaves⟩
    · contradiction

/-- Begun in a tree with `before`, a script leaves one with `crashed` if it is cut off, and one with
`after` if it succeeds. -/
structure CrashTriple (crashed before : FileTree → Prop) (m : Run α)
    (after : α → FileTree → Prop) : Prop where
  cut : ∀ {c : Context} {s left}, before s.tree → c.MayLeave m.run s left → crashed left
  done : ∀ {c : Context} {s a c' s'}, before s.tree → c.exec m.run s = (.ok a, c', s') →
    after a s'.tree

namespace CrashTriple

variable {crashed before : FileTree → Prop}

theorem bind {m : Run α} {f : α → Run β} {between : α → FileTree → Prop}
    {after : β → FileTree → Prop} (first : CrashTriple crashed before m between)
    (second : ∀ a, CrashTriple crashed (between a) (f a) after) :
    CrashTriple crashed before (m >>= f) after where
  cut start cut := by
    rcases Context.mayLeave_run_bind cut with cut | ⟨a, c', s', executed, cut⟩
    · exact first.cut start cut
    · exact (second a).cut (first.done start executed) cut
  done start executed := by
    rw [Context.exec_run_bind] at executed
    split at executed
    · next a c' s' executed' => exact (second a).done (first.done start executed') executed
    · cases executed

theorem run_pure (a : α) : CrashTriple crashed before (pure a) fun _ => before where
  cut _ cut := by
    obtain ⟨entry, mem, _⟩ := cut
    contradiction
  done start executed := by
    rw [Context.exec_run_pure] at executed
    cases executed
    exact start

theorem run_throw {after : α → FileTree → Prop} (fault : Error) :
    CrashTriple crashed before (throw fault) after where
  cut _ cut := by
    obtain ⟨entry, mem, _⟩ := cut
    contradiction
  done _ executed := by
    rw [Context.exec_run_throw] at executed
    cases executed

variable (start : ∀ tree, before tree → crashed tree)

include start

theorem log (event : Event) : CrashTriple crashed before (Run.log event) fun _ => before where
  cut h cut := by
    obtain ⟨entry, mem, leaves⟩ := cut
    obtain rfl := List.mem_singleton.mp mem
    cases leaves
    exact start _ h
  done h executed := by
    rw [Context.exec_run_log] at executed
    cases executed
    exact h

theorem isDirectory (path : String) :
    CrashTriple crashed before (Run.isDirectory path) fun _ => before where
  cut h cut := by
    obtain ⟨entry, mem, leaves⟩ := cut
    obtain rfl := List.mem_singleton.mp mem
    cases leaves
    exact start _ h
  done h executed := by
    rw [Context.exec_run_isDirectory] at executed
    cases executed
    exact h

theorem draw : CrashTriple crashed before Run.draw fun _ => before where
  cut h cut := by
    obtain ⟨entry, mem, leaves⟩ := cut
    obtain rfl := List.mem_singleton.mp mem
    cases leaves
    exact start _ h
  done {c s _ _ _} h executed := by
    rw [Context.exec_run_draw] at executed
    have same := Context.tree_draw c s
    rw [executed] at same
    exact same ▸ h

theorem putFile {path text : String} {after : FileTree → Prop}
    (partly : ∀ tree part left, before tree → part.toList <+: text.toList →
      tree.write path (.text part) = .ok left → crashed left)
    (wholly : ∀ tree left, before tree → tree.write path (.text text) = .ok left → after left) :
    CrashTriple crashed before (Run.putFile path text) fun _ => after where
  cut {c s left} h cut := by
    obtain ⟨entry, mem, leaves⟩ := cut
    have trace : c.trace (Run.putFile path text).run s = [(s.tree, .write path text)] := by
      rw [Run.putFile, ExceptT.run_mk, Context.trace]
      cases s.tree.write path (.text text) <;> rfl
    rw [trace] at mem
    obtain rfl := List.mem_singleton.mp mem
    cases leaves with
    | unchanged => exact start _ h
    | partly front written => exact partly _ _ _ h front written
  done h executed := by
    rw [Context.exec_putFile] at executed
    split at executed
    · next written =>
      cases executed
      exact wholly _ _ h written
    · cases executed

end CrashTriple

end TrustedAppId
