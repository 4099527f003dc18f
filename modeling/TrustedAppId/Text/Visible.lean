/-! What a terminal shows of a text. An escape character begins a sequence that steers the terminal
and is not shown: one more character, a control sequence up to its final letter, or a string up to
its end. Control characters are not shown either, but for those that are white space. -/
namespace TrustedAppId.Text

/-- Where a text stands. -/
inductive Terminal where
  | plain
  | escape
  /-- In an escape sequence, behind a mark that is not its last character. -/
  | marks
  | control
  /-- In a string, which the bell ends if `bell`. -/
  | string (bell : Bool)
deriving DecidableEq

namespace Terminal

def isIn (first last : Nat) (c : Char) : Bool := first ≤ c.toNat && c.toNat ≤ last

/-- Tab, line feed, form feed and carriage return. -/
def isSpace (c : Char) : Bool := [0x09, 0x0a, 0x0c, 0x0d].contains c.toNat

/-- Begins a sequence by the character behind the escape character. -/
def begin (c : Char) : Terminal :=
  if c = '[' then .control
  else if c = ']' then .string true
  else if ['P', 'X', '^', '_'].contains c then .string false
  else if isIn 0x20 0x2f c then .marks
  else if isIn 0x30 0x7e c then .plain
  else .escape

/-- Whether the octet `9c`, which ends a string that the bell does not, stands in a character of
several octets. -/
def holdsEnd (c : Char) : Bool :=
  let n := c.toNat
  n % 64 = 28 || (2 < c.utf8Size && n / 64 % 64 = 28) || (3 < c.utf8Size && n / 4096 % 64 = 28)

/-- The state behind a character, and whether the character is shown. Beyond ASCII all characters
are shown that belong to no sequence. -/
def step (t : Terminal) (c : Char) : Terminal × Bool :=
  if 0x7f < c.toNat then (if t = .string false ∧ holdsEnd c then .plain else t, t = .plain)
  else if c = '\x1b' then (.escape, false)
  else if c = '\x18' ∨ c = '\x1a' then (.plain, false)
  else match t with
    | .string bell => (if bell ∧ c = '\x07' then .plain else t, false)
    | .plain => (.plain, isSpace c || isIn 0x20 0x7e c)
    | _ =>
      if isSpace c then (.plain, true)
      else match t with
        | .escape => (begin c, false)
        | .marks => (if isIn 0x30 0x7e c then .plain else t, false)
        | _ => (if isIn 0x40 0x7e c then .plain else t, false)

/-- What is shown of the rest of a text. -/
def shown : Terminal → List Char → List Char
  | _, [] => []
  | t, c :: rest =>
    let (next, isShown) := t.step c
    if isShown then c :: shown next rest else shown next rest

end Terminal

def visible (text : String) : String := String.ofList (Terminal.plain.shown text.toList)

end TrustedAppId.Text
