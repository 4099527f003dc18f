import TrustedAppId.Error
import TrustedAppId.FileTree
import TrustedAppId.Log
import TrustedAppId.Timestamp
/-! What a run asks of its surroundings: identifiers, files, the time, and places for its events
and for what it prints. A script is the tree of these requests, so that the same run can be carried
out over a tree of files that is a value, or on a real disk. -/
namespace TrustedAppId

inductive Script (α : Type) where
  | done (value : α)
  /-- A new identifier. -/
  | draw (next : Except Error Uuid → Script α)
  | isDirectory (path : String) (next : Bool → Script α)
  | read (path : String) (next : Except FileFault String → Script α)
  | write (path text : String) (next : Except FileFault Unit → Script α)
  | now (next : Timestamp → Script α)
  | log (event : Event) (next : Script α)
  | print (text : String) (next : Script α)

namespace Script

def bind {α β : Type} : Script α → (α → Script β) → Script β
  | .done a, f => f a
  | .draw next, f => .draw fun id => (next id).bind f
  | .isDirectory path next, f => .isDirectory path fun found => (next found).bind f
  | .read path next, f => .read path fun text => (next text).bind f
  | .write path text next, f => .write path text fun result => (next result).bind f
  | .now next, f => .now fun time => (next time).bind f
  | .log event next, f => .log event (next.bind f)
  | .print text next, f => .print text (next.bind f)

instance : Monad Script where
  pure := .done
  bind := .bind

end Script

/-- Identifiers in the order in which they are drawn. -/
structure IdStream where
  draw : Nat → Except Error Uuid
  drawn : Nat

namespace IdStream

def next (s : IdStream) : Except Error Uuid × IdStream :=
  (s.draw s.drawn, { s with drawn := s.drawn + 1 })

/-- The identifiers of a list, and then a failure with these words. -/
def ofList (ids : List Uuid) (words : String) : IdStream where
  draw i := ids[i]?.elim (.error (.cassette (.source words))) .ok
  drawn := 0

end IdStream

/-- Surroundings that are a value. The time stands still. -/
structure Surroundings where
  tree : FileTree
  ids : IdStream
  time : Timestamp
  /-- The events so far, last one first. -/
  events : List Event

/-- The result of a run, and what it leaves behind. -/
def Script.run {α : Type} : Script α → Surroundings → α × Surroundings
  | .done a, s => (a, s)
  | .draw next, s => (next s.ids.next.1).run { s with ids := s.ids.next.2 }
  | .isDirectory path next, s => (next (s.tree.isDirectory path)).run s
  | .read path next, s => (next (s.tree.read path)).run s
  | .write path text next, s =>
    match s.tree.write path (.text text) with
    | .ok tree => (next (.ok ())).run { s with tree }
    | .error fault => (next (.error fault)).run s
  | .now next, s => (next s.time).run s
  | .log event next, s => next.run { s with events := event :: s.events }
  | .print _ next, s => next.run s

/-- A script that may fail. -/
abbrev Run := ExceptT Error Script

namespace Run

def draw : Run Uuid := ExceptT.mk (.draw .done)

def isDirectory (path : String) : Run Bool := ExceptT.lift (.isDirectory path .done)

def fileText (path : String) : Run String :=
  ExceptT.mk (.read path fun text => .done (text.mapError (Error.file path)))

def putFile (path text : String) : Run Unit :=
  ExceptT.mk (.write path text fun result => .done (result.mapError (Error.file path)))

def now : Run Timestamp := ExceptT.lift (.now .done)

def log (event : Event) : Run Unit := ExceptT.lift (.log event (.done ()))

def print (text : String) : Run Unit := ExceptT.lift (.print text (.done ()))

def ofExcept {α : Type} (result : Except Error α) : Run α := ExceptT.mk (.done result)

end Run

end TrustedAppId
