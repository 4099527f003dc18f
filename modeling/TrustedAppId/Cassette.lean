import TrustedAppId.Markup.Layout
import TrustedAppId.Timestamp.Writing
/-! Cassettes: named recordings of what a program asked of its surroundings and what it was
answered, in order. As a text, a cassette has its fields in their order and the interactions one
below the other. -/
namespace TrustedAppId

open Markup

/-- One request and its answer. -/
structure Interaction where
  seq : Nat
  port : String
  method : String
  input : Value
  output : Value

structure Cassette where
  name : String
  recordedAt : Timestamp
  toolVersion : String
  interactions : List Interaction

def Interaction.content (i : Interaction) : Content :=
  .mapping [("seq", .word (toString i.seq)), ("port", .text i.port), ("method", .text i.method),
    ("input", .ofValue i.input), ("output", .ofValue i.output)]

namespace Cassette

def content (c : Cassette) : Content :=
  .mapping [("name", .text c.name), ("recorded_at", .text c.recordedAt.text),
    ("tool_version", .text c.toolVersion),
    ("interactions", .sequence (c.interactions.map Interaction.content))]

def write (c : Cassette) : String := c.content.write

end Cassette

/-! Recording: interactions are numbered in the order in which they are told. -/

structure Recorder where
  name : String
  /-- The interactions so far, last one first. -/
  recorded : List Interaction

namespace Recorder

def start (name : String) : Recorder := ⟨name, []⟩

def interactions (r : Recorder) : List Interaction := r.recorded.reverse

def record (r : Recorder) (port method : String) (input output : Value) : Recorder :=
  { r with recorded := ⟨r.recorded.length, port, method, input, output⟩ :: r.recorded }

/-- The version of the program that is named in the cassettes it records. -/
def toolVersion : String := "0.1.0"

def cassette (r : Recorder) (now : Timestamp) : Cassette :=
  ⟨r.name, now, toolVersion, r.interactions⟩

end Recorder

end TrustedAppId
