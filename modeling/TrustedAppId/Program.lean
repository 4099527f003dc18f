import TrustedAppId.CommandLine.Reading
import TrustedAppId.Context
import TrustedAppId.Emission
import TrustedAppId.Log.Filter
/-! The program: a command line is read and carried out. On success it prints the identifier and
nothing else. -/
namespace TrustedAppId

inductive Failure where
  | usage (fault : UsageFault)
  /-- Cassette options stand in front of a subcommand. -/
  | misplacedOptions
  | run (error : Error)

namespace Program

/-- The output directory if none is asked for: one beside the program, which lies in `home`. -/
def defaultDirectory (home : String) : String := FileTree.join home "include"

def emission (home : String) (line : CommandLine) : Emission where
  directory := line.directory.getD (defaultDirectory home)
  variableName := line.variableName
  macroName := line.macroName

/-- The part of the program that reports a recording. -/
def logTarget : String := "ta_uuidgen::commands::generate"

/-- The emission itself. It is carried out whether or not it fails, so its result is given back. -/
def attempt (e : Emission) (context : Context) :
    Run (Except Error Emission.Emitted × Context) :=
  ExceptT.lift (context.perform e.emit.run)

/-- Prints an identifier on a line of its own. -/
def announce (u : Uuid) : Run Uuid := do
  Run.print (u.text ++ "\n")
  pure u

/-- Emits an identifier. A recording is finished even if that fails, and its own failure counts
more. -/
def generate (e : Emission) (options : CassetteOptions) : Run Uuid := do
  match options.replay, options.record with
  | some path, _ =>
    let (result, _) ← attempt e (← Context.openReplay path)
    announce (← Run.ofExcept result).id
  | none, some path =>
    let (session, context) := RecordingSession.start path (← Run.now)
    let (result, context) ← attempt e context
    let path ← (session.afterClosing context).finish
    Run.log ⟨.info, logTarget, "recorded identifier", [("path", path)]⟩
    announce (← Run.ofExcept result).id
  | none, none =>
    let (result, _) ← attempt e .direct
    announce (← Run.ofExcept result).id

def carryOut (e : Emission) : Command → Run Uuid
  | .generate options => generate e options
  | .verify => do
    let (result, _) ← ExceptT.lift (Context.direct.perform e.verify.run)
    announce (← Run.ofExcept result)

/-- Carries out a command line that has been accepted. -/
def dispatch (home : String) (line : CommandLine) : Script (Except Failure Uuid) :=
  if line.explicit.isSome && line.top.isSet then .done (.error .misplacedOptions)
  else do
    let result ← (carryOut (emission home line) line.command).run
    pure (result.mapError .run)

/-- Runs the program, which lies in `home`, on the arguments behind its name. -/
def run (home : String) (arguments : List String) : Script (Except Failure Uuid) :=
  match CommandLine.read arguments with
  | .error fault => .done (.error (.usage fault))
  | .ok line => dispatch home line

def output : Except Failure Uuid → String
  | .ok u => u.text ++ "\n"
  | .error _ => ""

/-- The exit status: zero for success. -/
def status : Except Failure Uuid → Nat
  | .ok _ => 0
  | .error _ => 1

/-- How many times more events are asked for, by a command line that is accepted. -/
def verbosity (arguments : List String) : Nat :=
  match CommandLine.read arguments with
  | .ok line => line.verbosity
  | .error _ => 0

end Program

/-- What a run comes to. -/
structure Outcome (α : Type) where
  result : α
  after : Surroundings
  printed : String
  /-- The events that have been shown. -/
  shown : List Event

/-- Carries out a script in surroundings that are a value, and shows its events as far as the filter
lets them through. -/
def Script.watch {α : Type} (filter : LogFilter) : Script α → Surroundings → Outcome α
  | .done a, s => ⟨a, s, "", []⟩
  | .draw next, s => (next s.ids.next.1).watch filter { s with ids := s.ids.next.2 }
  | .isDirectory path next, s => (next (s.tree.isDirectory path)).watch filter s
  | .read path next, s => (next (s.tree.read path)).watch filter s
  | .write path text next, s =>
    match s.tree.write path (.text text) with
    | .ok tree => (next (.ok ())).watch filter { s with tree }
    | .error fault => (next (.error fault)).watch filter s
  | .now next, s => (next s.time).watch filter s
  | .log event next, s =>
    let o := next.watch filter { s with events := event :: s.events }
    if filter.shows event then { o with shown := event :: o.shown } else o
  | .print text next, s =>
    let o := next.watch filter s
    { o with printed := text ++ o.printed }

/-- Runs the program with the filter that `setting` and its arguments ask for. -/
def Program.process (setting : Option String) (home : String) (arguments : List String)
    (s : Surroundings) : Outcome (Except Failure Uuid) :=
  (run home arguments).watch (.choose setting (verbosity arguments)) s

/-- The message of a failure; only the request for help has none. -/
def Failure.message : Failure → Option String
  | .usage fault => fault.message
  | .misplacedOptions => some "--record and --replay must follow the `generate` subcommand"
  | .run error => some error.message

end TrustedAppId
