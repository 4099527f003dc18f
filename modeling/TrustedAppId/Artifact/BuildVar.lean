import TrustedAppId.Error
import TrustedAppId.Identifier
import TrustedAppId.Text.Blank
/-! The build variable: one make assignment of the canonical spelling to a name. Reading ignores
blank lines and blanks around name and value, and takes the canonical spelling only. -/
namespace TrustedAppId.BuildVar

def renderChars (name : List Char) (u : Uuid) : List Char :=
  name ++ '=' :: u.chars ++ ['\n']

def render (name : String) (u : Uuid) : String := String.ofList (renderChars name.toList u)

def fault {α : Type} (cause : BuildVarFault) : Except Error α := .error (.buildVar cause)

/-- Reads the assignment on its line. -/
def readLine (line : List Char) : Except Error (String × Uuid) :=
  match Text.splitFirst '=' line with
  | none => fault (.noAssignment (String.ofList line))
  | some (left, right) =>
    let name := Text.trim left
    let value := Text.trim right
    if Identifier.isName name then
      match Uuid.read value with
      | .error reason => fault (.notUuid (String.ofList value) reason)
      | .ok u =>
        if u.chars = value then .ok (String.ofList name, u)
        else fault (.notCanonical (String.ofList value))
    else .error (.invalidName (String.ofList name))

def isBlankLine (line : List Char) : Bool := line.all Text.isBlank

def readChars (text : List Char) : Except Error (String × Uuid) :=
  match (Text.lines text).filter fun line => !isBlankLine line with
  | [] => fault .empty
  | [line] => readLine line
  | _ => fault .severalLines

/-- The name and the identifier of a build variable. -/
def read (text : String) : Except Error (String × Uuid) := readChars text.toList

end TrustedAppId.BuildVar
