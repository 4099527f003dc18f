import TrustedAppId.Markup.Meaning
import TrustedAppId.Timestamp.Reading
import TrustedAppId.Uuid.Spelling
/-! What can go wrong with cassettes: reading one from its text, serving its interactions, and
closing a recording. -/
namespace TrustedAppId

/-- One reason why a text is no cassette. -/
inductive ReadingFault where
  /-- The text breaks the rules of the notation before the cassette is complete, or goes on behind
  it. -/
  | malformed
  /-- Collections are nested more than 128 deep. -/
  | tooDeep
  /-- Aliases are followed too often. -/
  | tooManyAliases
  | numberOutOfRange
  | missingField (name : String)
  | duplicateField (name : String)
  | wrongType (found : Markup.Found) (expected : String)
  /-- A scalar does not have the type that its tag demands. -/
  | wrongValue (text : String) (expected : String)
  | timestamp (fault : Timestamp.Fault)
deriving DecidableEq

def ReadingFault.message : ReadingFault → String
  | .malformed => "the text is not one well-formed document"
  | .tooDeep => "recursion limit exceeded"
  | .tooManyAliases => "repetition limit exceeded"
  | .numberOutOfRange => "number out of range"
  | .missingField name => s!"missing field `{name}`"
  | .duplicateField name => s!"duplicate field `{name}`"
  | .wrongType found expected => "invalid type: " ++ found.message ++ ", expected " ++ expected
  | .wrongValue text expected =>
    "invalid value: string " ++ Text.quoted text ++ ", expected " ++ expected
  | .timestamp fault => fault.message

/-- Why a recorded output is no identifier. -/
inductive OutputFault where
  | spelling (fault : Uuid.SpellingFault)
  /-- The output is no string; `words` describes it. -/
  | notString (words : String)
deriving DecidableEq

def OutputFault.message : OutputFault → String
  | .spelling fault => "UUID parsing failed: " ++ fault.message
  | .notString words => s!"invalid type: {words}, expected a formatted UUID string"

inductive CassetteFault where
  /-- The file at `path` holds no cassette; `place` leads to the fault, and is empty for the
  whole. -/
  | unreadable (path place : String) (fault : ReadingFault)
  /-- No interaction has this port and method. -/
  | noPair (port method : String) (available : List String)
  | exhausted (count : Nat) (port method : String)
  | output (fault : OutputFault)
  | recorderInUse
  /-- The source of identifiers fails, for a reason of its own. -/
  | source (words : String)
deriving DecidableEq

def CassetteFault.message : CassetteFault → String
  | .unreadable path place fault =>
    let detail := if place.isEmpty then fault.message else place ++ ": " ++ fault.message
    s!"failed to parse cassette file {path}: {detail}"
  | .noPair port method available =>
    let request := "port=" ++ Text.quoted port ++ " method=" ++ Text.quoted method
    let pairs := ", ".intercalate available
    s!"no interactions recorded for {request}; available port::method pairs: [{pairs}]"
  | .exhausted count port method =>
    let request := "port=" ++ Text.quoted port ++ " method=" ++ Text.quoted method
    s!"cassette exhausted: all {count} interactions for {request} have been consumed"
  | .output fault => "id_gen::generate_id: expected a UUID string: " ++ fault.message
  | .recorderInUse => "recording adapter for id_gen still has references"
  | .source words => words

end TrustedAppId
