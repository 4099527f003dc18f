import TrustedAppId.CommandLine.Help
import TrustedAppId.Program
import TrustedAppId.Timestamp.Writing
import Std.Time.DateTime.Timestamp
/-! The program over the real disk, the system's random numbers and its clock. -/
namespace TrustedAppId

/-- The system's number of an error; some are reported as negative numbers of 32 bits. -/
def systemNumber (code : UInt32) : Nat :=
  if code.toNat < 2147483648 then code.toNat else 4294967296 - code.toNat

def faultOf (error : IO.Error) : FileFault :=
  let coded (code : UInt32) : FileFault := match systemNumber code with
    | 20 => .notDirectory
    | 21 => .isDirectory
    | 36 => .nameTooLong
    | 40 => .tooManyLinks
    | _ => .other (toString error)
  match error with
  | .noFileOrDirectory _ _ _ => .notFound
  | .inappropriateType _ code _ | .invalidArgument _ code _ => coded code
  | _ => .other (toString error)

/-- Accesses a file, unless its path holds a character that no path can hold. -/
def access {α : Type} (path : String) (action : IO α) : IO (Except FileFault α) := do
  if path.toList.contains '\x00' then return .error .nulInPath
  match ← action.toBaseIO with
  | .ok result => return .ok result
  | .error error => return .error (faultOf error)

def readText (path : String) : IO (Except FileFault String) := do
  match ← access path (IO.FS.readBinFile path) with
  | .error fault => return .error fault
  | .ok octets =>
    match String.fromUTF8? octets with
    | some text => return .ok text
    | none => return .error .notText

def clock : IO Timestamp := do
  let since := (← Std.Time.Timestamp.now).val
  match Timestamp.ofUnix? since.second.val since.nano.val.toNat with
  | some time => return time
  | none => throw (IO.userError "the clock is beyond all dates")

def randomId : IO Uuid := do
  let octets ← IO.getRandomBytes 16
  return .ofRandomBits (BitVec.ofNat 128 (octets.toList.foldl (fun n b => n * 256 + b.toNat) 0))

/-- Carries out a script, and shows its events as far as the filter lets them through. -/
def Script.perform {α : Type} (filter : LogFilter) : Script α → IO α
  | .done value => pure value
  | .draw next => do (next (.ok (← randomId))).perform filter
  | .isDirectory path next => do
    let found ← ((← IO.currentDir) / path).isDir
    (next (found && !path.isEmpty)).perform filter
  | .read path next => do (next (← readText path)).perform filter
  | .write path text next => do
    (next (← access path (IO.FS.writeFile path text))).perform filter
  | .now next => do (next (← clock)).perform filter
  | .log event next => do
    if filter.shows event then IO.eprintln (event.line (← clock).logText)
    next.perform filter
  | .print text next => do
    IO.print text
    next.perform filter

def Failure.explanation : Failure → String
  | .usage fault => fault.explanation
  | failure => failure.message.getD ""

end TrustedAppId

open TrustedAppId in
def main (arguments : List String) : IO UInt32 := do
  let home := (← IO.appPath).parent.elim "." toString
  let filter := LogFilter.choose (← IO.getEnv "RUST_LOG") (Program.verbosity arguments)
  let result ← (Program.run home arguments).perform filter
  match result with
  | .ok _ => pure ()
  | .error failure => IO.eprintln failure.explanation
  return (Program.status result).toUInt32
