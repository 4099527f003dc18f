import TrustedAppId.Markup.Spelling
import TrustedAppId.Value
/-! Data laid out in lines. The items of a sequence stand in the column of the key that it belongs
to, the entries of a mapping two columns further; behind a dash a collection begins on the same
line. -/
namespace TrustedAppId.Markup

inductive Content where
  /-- Written as it is. -/
  | word (text : String)
  | text (text : String)
  | sequence (items : List Content)
  | mapping (entries : List (String × Content))

/-- Longer keys are marked as such and have their value on a line of its own. -/
def shortKey : Nat := 128

def isSimpleKey (key : String) : Bool :=
  !key.toList.any isBreak && key.utf8ByteSize ≤ shortKey

mutual

/-- Content behind `column` characters of its first line, with the line feed at its end. -/
def Content.lines (column : Nat) : Content → List Char
  | .word text => text.toList ++ ['\n']
  | .text text => spellLine column text.toList
  | .sequence [] => ['[', ']', '\n']
  | .sequence (item :: rest) => '-' :: ' ' :: item.lines (column + 2) ++ moreItems column rest
  | .mapping [] => ['\x7b', '\x7d', '\n']
  | .mapping ((key, value) :: rest) =>
    (if isSimpleKey key then spell 0 key.toList ++ ':' :: value.behindKey column
      else '?' :: ' ' :: spellLine (column + 2) key.toList ++ spaces column ++
        ':' :: ' ' :: value.lines (column + 2)) ++
      moreEntries column rest

/-- The value of a key in `column`, behind its colon. -/
def Content.behindKey (column : Nat) : Content → List Char
  | .sequence (item :: rest) =>
    '\n' :: spaces column ++ '-' :: ' ' :: item.lines (column + 2) ++ moreItems column rest
  | .mapping ((key, value) :: rest) =>
    '\n' :: moreEntries (column + 2) ((key, value) :: rest)
  | .word text => ' ' :: text.toList ++ ['\n']
  | .text text => ' ' :: spellLine (column + 2) text.toList
  | .sequence [] => [' ', '[', ']', '\n']
  | .mapping [] => [' ', '\x7b', '\x7d', '\n']

def moreItems (column : Nat) : List Content → List Char
  | [] => []
  | item :: rest =>
    spaces column ++ '-' :: ' ' :: item.lines (column + 2) ++ moreItems column rest

def moreEntries (column : Nat) : List (String × Content) → List Char
  | [] => []
  | (key, value) :: rest =>
    spaces column ++
      (if isSimpleKey key then spell 0 key.toList ++ ':' :: value.behindKey column
        else '?' :: ' ' :: spellLine (column + 2) key.toList ++ spaces column ++
          ':' :: ' ' :: value.lines (column + 2)) ++
      moreEntries column rest

end

/-- Up to sixteen places in front of the point and four zeros behind it, without an exponent. -/
def floatLayout : Binary64.Layout := ⟨fun point => -5 < point && point ≤ 16, false⟩

mutual

def Content.ofValue : Value → Content
  | .null => .word "null"
  | .bool value => .word (if value then "true" else "false")
  | .int value => .word (toString value)
  | .float value => .word (floatLayout.write value)
  | .string text => .text text
  | .array items => .sequence (ofItems items)
  | .object members => .mapping (ofEntries members)

def ofItems : List Value → List Content
  | [] => []
  | item :: rest => Content.ofValue item :: ofItems rest

def ofEntries : List (String × Value) → List (String × Content)
  | [] => []
  | (name, value) :: rest => (name, Content.ofValue value) :: ofEntries rest

end

def Content.write (content : Content) : String := String.ofList (content.lines 0)

end TrustedAppId.Markup
