/-! Events that a run reports about itself, and the lines in which they are shown. -/
namespace TrustedAppId

/-- How grave an event is; the later ones are shown only on request. -/
inductive Level where
  | error
  | warn
  | info
  | debug
  | trace
deriving DecidableEq

namespace Level

def rank : Level → Nat
  | .error => 1
  | .warn => 2
  | .info => 3
  | .debug => 4
  | .trace => 5

def name : Level → String
  | .error => "error"
  | .warn => "warn"
  | .info => "info"
  | .debug => "debug"
  | .trace => "trace"

/-- The name in capitals, set flush right in five columns. -/
def column : Level → String
  | .error => "ERROR"
  | .warn => " WARN"
  | .info => " INFO"
  | .debug => "DEBUG"
  | .trace => "TRACE"

/-- The least grave level that is shown after so many requests for more. -/
def ofVerbosity : Nat → Level
  | 0 => .warn
  | 1 => .info
  | 2 => .debug
  | _ => .trace

end Level

structure Event where
  level : Level
  /-- The part of the program that reports. -/
  target : String
  message : String
  fields : List (String × String)
deriving DecidableEq

/-- The line of an event that is reported at `time`. -/
def Event.line (event : Event) (time : String) : String :=
  let fields := event.fields.map fun (name, value) => s!" {name}={value}"
  time ++ " " ++ event.level.column ++ " " ++ event.message ++ String.join fields

end TrustedAppId
