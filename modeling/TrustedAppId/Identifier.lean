import TrustedAppId.Text.Digits
/-! Names of make variables and of header macros: an ASCII letter or underscore, then ASCII letters,
digits and underscores. -/
namespace TrustedAppId.Identifier

def isLetter (c : Char) : Bool :=
  ('a' ≤ c && c ≤ 'z') || ('A' ≤ c && c ≤ 'Z') || c = '_'

/-- A character that may follow the first one of a name. -/
def isPart (c : Char) : Bool := isLetter c || Decimal.isDigit c

def isName : List Char → Bool
  | [] => false
  | first :: rest => isLetter first && rest.all isPart

/-- The longest run of name characters at the front, provided it starts a name, and what follows. -/
def take? (cs : List Char) : Option (List Char × List Char) :=
  match cs with
  | [] => none
  | first :: rest =>
    if isLetter first then some (first :: rest.takeWhile isPart, rest.dropWhile isPart) else none

end TrustedAppId.Identifier
