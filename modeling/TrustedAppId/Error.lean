import TrustedAppId.Artifact.Fault
import TrustedAppId.Cassette.Fault
import TrustedAppId.FileTree
/-! Everything that can make a run fail, with the one message that is shown for each cause. -/
namespace TrustedAppId

inductive Error where
  | file (path : String) (fault : FileFault)
  | missingOutputDirectory (path : String)
  | notRandom (id : Uuid)
  | invalidName (name : String)
  | buildVar (fault : BuildVarFault)
  | header (fault : HeaderFault)
  /-- The build variable does not have the expected name. -/
  | variableName (found expected : String)
  /-- The header's macro does not have the expected name. -/
  | macroName (found expected : String)
  | differentIds (buildVar header : Uuid)
  | cassette (fault : CassetteFault)
deriving DecidableEq

def Error.message : Error → String
  | .file path fault => "I/O error on " ++ path ++ ": " ++ fault.message
  | .missingOutputDirectory path =>
    s!"output directory {path} does not exist or is not a directory"
  | .notRandom id => s!"{id} is not a random version-4 RFC 4122 UUID"
  | .invalidName name =>
    "invalid identifier name " ++ Text.quoted name ++ ": expected [A-Za-z_][A-Za-z0-9_]*"
  | .buildVar fault => "cannot parse build variable: " ++ fault.message
  | .header fault => "cannot parse header: " ++ fault.message
  | .variableName found expected =>
    s!"artifacts disagree: build variable is named {found}, expected {expected}"
  | .macroName found expected =>
    s!"artifacts disagree: header macro is named {found}, expected {expected}"
  | .differentIds first second => s!"build variable holds {first} but header holds {second}"
  | .cassette fault => "cassette error: " ++ fault.message

end TrustedAppId
