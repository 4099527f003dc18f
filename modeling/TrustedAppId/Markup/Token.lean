import TrustedAppId.Markup.Character
/-! The words of a YAML text: marks, names and scalars. A `Cursor` is what is left of a text
together with the place where it begins, and a `Gap` is the blank stretch between two words of one
scalar. -/
namespace TrustedAppId.Markup

/-- A place in a text; `index` counts octets in UTF-8 from the beginning, `column` characters from
the start of the line. -/
structure Position where
  index : Nat
  line : Nat
  column : Nat
deriving DecidableEq

def Position.start : Position := ⟨0, 0, 0⟩

/-- Behind the character `c`, which is no line break. -/
def Position.next (p : Position) (c : Char) : Position :=
  ⟨p.index + c.utf8Size, p.line, p.column + 1⟩

/-- Behind a line break of so many octets. -/
def Position.nextLine (p : Position) (octets : Nat) : Position :=
  ⟨p.index + octets, p.line + 1, 0⟩

structure Cursor where
  rest : List Char
  position : Position

/-- Behind the character ahead. -/
def Cursor.next (cursor : Cursor) : Cursor :=
  match cursor.rest with
  | c :: rest => ⟨rest, cursor.position.next c⟩
  | [] => cursor

/-- A line break as part of a value: the two separators of Unicode stand for themselves, all others
for a line feed. -/
def breakText (c : Char) : Char :=
  if c = '\u2028' || c = '\u2029' then c else '\n'

inductive Gap where
  | none
  | spacing (blanks : List Char)
  /-- The first break, if it counts, and the ones after it. -/
  | breaks (first : List Char) (more : List Char)

/-- What a gap adds to the value: a single line feed folds into a space and is dropped in front of
further breaks. -/
def Gap.fill : Gap → List Char
  | .none => []
  | .spacing blanks => blanks
  | .breaks first more =>
    if first = ['\n'] then (if more.isEmpty then [' '] else more) else first ++ more

def Gap.addSpacing (c : Char) : Gap → Gap
  | .none => .spacing [c]
  | .spacing blanks => .spacing (blanks ++ [c])
  | .breaks first more => .breaks first more

def Gap.addBreak (c : Char) : Gap → Gap
  | .none | .spacing _ => .breaks [breakText c] []
  | .breaks first more => .breaks first (more ++ [breakText c])

def Gap.isBreaks : Gap → Bool
  | .breaks _ _ => true
  | _ => false

def Gap.isNone : Gap → Bool
  | .none => true
  | _ => false

inductive Style where
  | plain
  | singleQuoted
  | doubleQuoted
  | literal
  | folded
deriving DecidableEq

/-- Words that structure a text stand beside those that carry a name, a tag or a value. The suffix
of a tag is given in octets, since it may be escaped octet by octet. -/
inductive Token where
  | streamEnd
  | version (major minor : Nat)
  | tagHandle (handle : List Char) (expansion : List UInt8)
  | documentStart
  | documentEnd
  | blockSequenceStart
  | blockMappingStart
  | blockEnd
  | flowSequenceStart
  | flowSequenceEnd
  | flowMappingStart
  | flowMappingEnd
  | blockEntry
  | flowEntry
  | key
  | value
  | alias (name : List Char)
  | anchor (name : List Char)
  | tag (handle : List Char) (suffix : List UInt8)
  | scalar (style : Style) (text : List Char)
deriving DecidableEq

end TrustedAppId.Markup
