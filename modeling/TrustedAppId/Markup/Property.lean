import TrustedAppId.Markup.Token
import TrustedAppId.Text.Digits
/-! Anchors, aliases, tags and directives. A tag is a handle and a suffix in the characters of a
locator; a percent sign begins an octet written in hexadecimal. Either of them reaches up to the
first octet that is zero. -/
namespace TrustedAppId.Markup

/-- The run of characters that satisfy `keep`, and the cursor behind it. -/
def takeRun (keep : Char → Bool) : List Char → Position → List Char × Cursor
  | c :: rest, p =>
    if keep c then
      let (run, after) := takeRun keep rest (p.next c)
      (c :: run, after)
    else ([], ⟨c :: rest, p⟩)
  | [], p => ([], ⟨[], p⟩)

def skipSpacing (cursor : Cursor) : Cursor :=
  (takeRun isSpacing cursor.rest cursor.position).2

/-- The name behind an ampersand or asterisk. -/
def anchorName (cursor : Cursor) : Option (List Char × Cursor) :=
  let (name, after) := takeRun isWordChar cursor.rest cursor.position
  let ended := match after.rest.head? with
    | none => true
    | some c => isSpacing c || isBreak c ||
        ['?', ':', ',', ']', '\x7d', '%', '@', '\x60'].contains c
  if name.isEmpty || !ended then none else some (name, after)

def isLocatorChar (verbatim : Bool) (c : Char) : Bool :=
  isWordChar c || [';', '/', '?', ':', '@', '&', '=', '+', '$', '.', '%'].contains c ||
    ['!', '~', '*', '\x27', '(', ')'].contains c || (verbatim && (c = ',' || c = '[' || c = ']'))

/-- How many octets a character takes whose first octet is this one. -/
def sequenceLength? (octet : Nat) : Option Nat :=
  if octet < 0x80 then some 1
  else if octet / 0x20 = 6 then some 2
  else if octet / 0x10 = 14 then some 3
  else if octet / 0x08 = 30 then some 4
  else none

/-- Reads locator characters. `missing` counts the octets still to come of an escaped character. -/
def locator (verbatim : Bool) : (missing : Nat) → List Char → Position →
    Option (List UInt8 × Cursor)
  | missing, '%' :: a :: b :: rest, p =>
    if Hex.isDigit a ∧ Hex.isDigit b then do
      let octet := Hex.digitValue a * 16 + Hex.digitValue b
      let missing ← match missing with
        | 0 => (sequenceLength? octet).map (· - 1)
        | left + 1 => if octet / 0x40 = 2 then some left else none
      let (octets, after) ← locator verbatim missing rest (((p.next '%').next a).next b)
      pure (UInt8.ofNat octet :: octets, after)
    else none
  | 0, c :: rest, p =>
    if c = '%' then none
    else if isLocatorChar verbatim c then do
      let (octets, after) ← locator verbatim 0 rest (p.next c)
      pure (UInt8.ofNat c.toNat :: octets, after)
    else some ([], ⟨c :: rest, p⟩)
  | 0, [], p => some ([], ⟨[], p⟩)
  | _ + 1, _, _ => none

/-- An exclamation mark and, if they follow, word characters and a second exclamation mark. -/
def tagHandle (cursor : Cursor) : Option (List Char × Cursor) :=
  match cursor.rest with
  | '!' :: rest =>
    let (run, after) := takeRun isWordChar rest (cursor.position.next '!')
    match after.rest with
    | '!' :: _ => some ('!' :: run ++ ['!'], after.next)
    | _ => some ('!' :: run, after)
  | _ => none

def octetsOf (cs : List Char) : List UInt8 := cs.map fun c => UInt8.ofNat c.toNat

/-- The octets in front of the first zero. -/
def upToZero (octets : List UInt8) : List UInt8 := octets.takeWhile (· ≠ 0)

/-- A tag without the check of what follows it. -/
def tagBody (cursor : Cursor) : Option (Token × Cursor) :=
  match cursor.rest with
  | '!' :: '<' :: rest => do
    let (octets, after) ← locator true 0 rest ((cursor.position.next '!').next '<')
    match after.rest with
    | '>' :: _ => if octets.isEmpty then none else some (.tag [] (upToZero octets), after.next)
    | _ => none
  | _ => do
    let (handle, after) ← tagHandle cursor
    let (octets, rest) ← locator false 0 after.rest after.position
    if handle.length ≥ 2 ∧ handle.getLast? = some '!' then
      if octets.isEmpty then none else some (.tag handle (upToZero octets), rest)
    else
      match octetsOf (handle.drop 1) ++ upToZero octets with
      | [] => some (.tag [] (octetsOf ['!']), rest)
      | suffix => some (.tag ['!'] suffix, rest)

def readTag (flow : Bool) (cursor : Cursor) : Option (Token × Cursor) := do
  let (token, after) ← tagBody cursor
  if endsWord after.rest.head? ∨ (flow ∧ after.rest.head? = some ',') then some (token, after)
  else none

/-- A decimal number of at most nine digits. -/
def versionNumber (cursor : Cursor) : Option (Nat × Cursor) :=
  let (digits, after) := takeRun Decimal.isDigit cursor.rest cursor.position
  if digits.isEmpty ∨ digits.length > 9 then none
  else some (Decimal.value digits, after)

def versionValue (cursor : Cursor) : Option (Token × Cursor) := do
  let (major, after) ← versionNumber (skipSpacing cursor)
  match after.rest with
  | '.' :: _ =>
    let (minor, after) ← versionNumber after.next
    some (.version major minor, after)
  | _ => none

def tagValue (cursor : Cursor) : Option (Token × Cursor) := do
  let (handle, after) ← tagHandle (skipSpacing cursor)
  if handle ≠ ['!'] ∧ (handle.length < 2 ∨ handle.getLast? ≠ some '!') then none
  match after.rest with
  | c :: _ => if ¬ isSpacing c then none
  | [] => none
  let after := skipSpacing after
  let (octets, after) ← locator true 0 after.rest after.position
  if octets.isEmpty ∨ ¬ endsWord after.rest.head? then none
  some (.tagHandle handle (upToZero octets), after)

/-- Skips a comment, if there is one, and the line break. -/
def closeDirective (cursor : Cursor) : Option Cursor :=
  let cursor := skipSpacing cursor
  let cursor := match cursor.rest with
    | '#' :: _ => (takeRun (fun c => !isBreak c) cursor.rest cursor.position).2
    | _ => cursor
  match cursor.rest with
  | '\r' :: '\n' :: rest => some ⟨rest, cursor.position.nextLine 2⟩
  | c :: rest => if isBreak c then some ⟨rest, cursor.position.nextLine c.utf8Size⟩ else none
  | [] => some cursor

/-- The directive behind a percent sign, to the end of its line. -/
def directive (cursor : Cursor) : Option (Token × Cursor) := do
  let (name, after) := takeRun isWordChar cursor.rest cursor.position
  if name.isEmpty ∨ ¬ endsWord after.rest.head? then none
  let (token, after) ←
    if name = ['Y', 'A', 'M', 'L'] then versionValue after
    else if name = ['T', 'A', 'G'] then tagValue after
    else none
  let after ← closeDirective after
  pure (token, after)

end TrustedAppId.Markup
