/-! Classes of characters in the block and flow notation of YAML. -/
namespace TrustedAppId.Markup

def isBreak (c : Char) : Bool :=
  c = '\r' || c = '\n' || c = '\u0085' || c = '\u2028' || c = '\u2029'

/-- Space or tab. -/
def isSpacing (c : Char) : Bool := c = ' ' || c = '\t'

/-- Spacing, a line break, or the end of the text. -/
def endsWord : Option Char → Bool
  | none => true
  | some c => isSpacing c || isBreak c

def isLineEnd : Option Char → Bool
  | none => true
  | some c => isBreak c

/-- A character of an anchor, of a tag handle or of a directive's name. -/
def isWordChar (c : Char) : Bool :=
  ('0' ≤ c && c ≤ '9') || ('A' ≤ c && c ≤ 'Z') || ('a' ≤ c && c ≤ 'z') ||
    c = '_' || c = '-'

def isFlowMark (c : Char) : Bool :=
  c = ',' || c = '[' || c = ']' || c = '\x7b' || c = '\x7d'

/-- A character that a text of this notation may hold at all. -/
def isAllowed (c : Char) : Bool :=
  let n := c.toNat
  n == 0x09 || n == 0x0a || n == 0x0d || (0x20 ≤ n && n ≤ 0x7e) || n == 0x85 ||
    (0xa0 ≤ n && n ≤ 0xd7ff) || (0xe000 ≤ n && n ≤ 0xfffd) || 0x10000 ≤ n

/-- A character that is written as it is; all others are escaped. -/
def isPrintable (c : Char) : Bool :=
  let n := c.toNat
  n == 0x0a || (0x20 ≤ n && n ≤ 0x7e) || (0xa0 ≤ n && n ≤ 0xd7ff) ||
    (0xe000 ≤ n && n ≤ 0xfffd && n != 0xfeff) || 0x10000 ≤ n

/-- A mark of three dashes or three dots, alone on its line or followed by spacing, which opens or
closes a document when it stands at the start of a line. -/
def isDocumentMark : List Char → Bool
  | '-' :: '-' :: '-' :: rest => endsWord rest.head?
  | '.' :: '.' :: '.' :: rest => endsWord rest.head?
  | _ => false

end TrustedAppId.Markup
