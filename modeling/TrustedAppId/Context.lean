import TrustedAppId.Cassette.Reading
import TrustedAppId.Cassette.Replayer
import TrustedAppId.Script
/-! Where the identifiers of a run come from: directly from its surroundings, from there and onto a
cassette, or from a cassette alone. A recording belongs to a session, which writes the cassette once
the context that records has been closed. -/
namespace TrustedAppId

def idPort : String := "id_gen"

def idMethod : String := "generate_id"

/-- Whole numbers of up to sixteen digits in full, a sign in front of any exponent. -/
def outputFloatLayout : Binary64.Layout := ⟨fun point => -5 < point && point ≤ 16, true⟩

/-- What a recorded output is, if it is no string. -/
def Value.words : Value → Option String
  | .null => some "null"
  | .bool value => some (s!"boolean `{value}`")
  | .int value => some (s!"integer `{value}`")
  | .float value => some ("floating point `" ++ outputFloatLayout.write value ++ "`")
  | .array _ => some "sequence"
  | .object _ => some "map"
  | .string _ => none

/-- The identifier that a recorded output spells. -/
def Value.toUuid : Value → Except OutputFault Uuid
  | .string text => (Uuid.read text.toList).mapError .spelling
  | other => .error (.notString (other.words.getD ""))

/-- Serves the next recorded identifier. One that cannot be read is used up all the same. -/
def Replayer.nextId (r : Replayer) : Except Error Uuid × Replayer :=
  match r.next idPort idMethod with
  | .error fault => (.error fault, r)
  | .ok (interaction, r) =>
    (interaction.output.toUuid.mapError fun fault => .cassette (.output fault), r)

/-- Records an identifier; a failure leaves no trace. -/
def Recorder.recordId (r : Recorder) : Except Error Uuid → Recorder
  | .ok u => r.record idPort idMethod .null (.string u.text)
  | .error _ => r

namespace Script

variable {α : Type}

/-- Answers each request for an identifier from the cassette. -/
def replaying : Script α → Replayer → Script (α × Replayer)
  | .done a, r => .done (a, r)
  | .draw next, r => (next r.nextId.1).replaying r.nextId.2
  | .isDirectory path next, r => .isDirectory path fun found => (next found).replaying r
  | .read path next, r => .read path fun text => (next text).replaying r
  | .write path text next, r => .write path text fun result => (next result).replaying r
  | .now next, r => .now fun time => (next time).replaying r
  | .log event next, r => .log event (next.replaying r)
  | .print text next, r => .print text (next.replaying r)

/-- Records the identifiers that are drawn. -/
def recording : Script α → Recorder → Script (α × Recorder)
  | .done a, r => .done (a, r)
  | .draw next, r => .draw fun id => (next id).recording (r.recordId id)
  | .isDirectory path next, r => .isDirectory path fun found => (next found).recording r
  | .read path next, r => .read path fun text => (next text).recording r
  | .write path text next, r => .write path text fun result => (next result).recording r
  | .now next, r => .now fun time => (next time).recording r
  | .log event next, r => .log event (next.recording r)
  | .print text next, r => .print text (next.recording r)

end Script

inductive Context where
  | direct
  | recording (recorder : Recorder)
  | replaying (replayer : Replayer)

/-- Carries out a script in a context; the context goes on from where the script leaves it. -/
def Context.perform {α : Type} (context : Context) (script : Script α) : Script (α × Context) :=
  match context with
  | .direct => do pure (← script, .direct)
  | .recording r => do
    let (a, r) ← script.recording r
    pure (a, .recording r)
  | .replaying r => do
    let (a, r) ← script.replaying r
    pure (a, .replaying r)

namespace Cassette

def load (path : String) : Run Cassette := do
  Run.ofExcept (Cassette.read path (← Run.fileText path))

end Cassette

/-- A context that serves the identifiers of the cassette at `path`. -/
def Context.openReplay (path : String) : Run Context := do
  pure (.replaying (.ofCassette (← Cassette.load path)))

structure RecordingSession where
  path : String
  /-- Absent as long as the context that records holds it. -/
  recorder : Option Recorder

namespace RecordingSession

/-- A session for the cassette at `path`, and the context that records for it. -/
def start (path : String) (time : Timestamp) : RecordingSession × Context :=
  (⟨path, none⟩, .recording (.start ("ta-uuidgen-" ++ time.label)))

/-- The session after `context` has been closed. -/
def afterClosing (session : RecordingSession) : Context → RecordingSession
  | .recording recorder => { session with recorder := some recorder }
  | _ => session

/-- Writes the cassette. -/
def finish (session : RecordingSession) : Run String := do
  match session.recorder with
  | none => throw (.cassette .recorderInUse)
  | some recorder =>
    Run.putFile session.path (recorder.cassette (← Run.now)).write
    pure session.path

end RecordingSession

end TrustedAppId
