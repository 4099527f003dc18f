import TrustedAppId.Proofs.FileTree.Changes
import TrustedAppId.Proofs.Script.Requests
/-! What a run can change. A script that writes to certain paths only, whatever it is answered,
leaves all else in the tree as it was. -/
namespace TrustedAppId

/-- Files are written by these paths only. -/
def Request.WritesTo (paths : List String) : Request → Prop
  | .write path _ => path ∈ paths
  | _ => True

theorem Request.WritesTo.mono {paths more : List String} (among : paths ⊆ more) {request : Request}
    (writes : request.WritesTo paths) : request.WritesTo more := by
  cases request with
  | write path text => exact among writes
  | _ => trivial

variable {α : Type} {paths : List String}

theorem Script.changesOnly_run {m : Script α} (within : m.Within (Request.WritesTo paths))
    {s : Surroundings} (rooted : s.tree.Rooted) :
    FileTree.ChangesOnly paths s.tree (m.run s).2.tree := by
  induction m generalizing s with
  | done a => exact .refl _ _
  | draw next ih => exact ih _ (within.2 _) (s := { s with ids := s.ids.next.2 }) rooted
  | isDirectory path next ih => exact ih _ (within.2 _) rooted
  | read path next ih => exact ih _ (within.2 _) rooted
  | write path text next ih =>
    rw [run]
    cases written : s.tree.write path (.text text) with
    | ok tree =>
      obtain ⟨place, stores⟩ := rooted.stores written
      exact (stores.changesOnly within.1).trans
        (ih _ (within.2 _) (s := { s with tree }) (stores.extends'.rooted rooted))
    | error fault => exact ih _ (within.2 _) rooted
  | now next ih => exact ih _ (within.2 _) rooted
  | log event next ih =>
    exact ih within.2 (s := { s with events := event :: s.events }) rooted
  | print text next ih => exact ih within.2 rooted

theorem Context.changesOnly_exec {m : Script α} (within : m.Within (Request.WritesTo paths))
    (c : Context) {s : Surroundings} (rooted : s.tree.Rooted) :
    FileTree.ChangesOnly paths s.tree (c.exec m s).2.2.tree :=
  Script.changesOnly_run (within.perform c) rooted

end TrustedAppId
