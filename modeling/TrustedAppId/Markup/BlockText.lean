import TrustedAppId.Markup.Token
import TrustedAppId.Text.Digits
/-! Scalars written as indented lines, literally or folded. The header says how line breaks at the
end count and may fix the indentation; otherwise the first line that is not blank fixes it. -/
namespace TrustedAppId.Markup

/-- What becomes of the line breaks behind the last line. -/
inductive Chomping where
  | strip
  | clip
  | keep
deriving DecidableEq

structure BlockHeader where
  chomping : Chomping
  increment : Option Nat

def chompingOf? (c : Char) : Option Chomping :=
  if c = '+' then some .keep else if c = '-' then some .strip else none

/-- The indicators behind the opening mark, in either order; an indentation of zero is refused. -/
def blockHeader : List Char → Position → Option (BlockHeader × Cursor)
  | [], p => some (⟨.clip, none⟩, ⟨[], p⟩)
  | a :: rest, p =>
    match chompingOf? a, Decimal.isDigit a with
    | some chomping, _ =>
      match rest with
      | b :: more =>
        if Decimal.isDigit b then
          if b = '0' then none
          else some (⟨chomping, some (Decimal.digitValue b)⟩, ⟨more, (p.next a).next b⟩)
        else some (⟨chomping, none⟩, ⟨rest, p.next a⟩)
      | [] => some (⟨chomping, none⟩, ⟨rest, p.next a⟩)
    | none, true =>
      if a = '0' then none
      else match rest with
        | b :: more =>
          match chompingOf? b with
          | some chomping =>
            some (⟨chomping, some (Decimal.digitValue a)⟩, ⟨more, (p.next a).next b⟩)
          | none => some (⟨.clip, some (Decimal.digitValue a)⟩, ⟨rest, p.next a⟩)
        | [] => some (⟨.clip, some (Decimal.digitValue a)⟩, ⟨rest, p.next a⟩)
    | none, false => some (⟨.clip, none⟩, ⟨a :: rest, p⟩)

/-- Skips blanks, then a comment, then the line break; anything else is refused. -/
def restOfLine : (comment : Bool) → List Char → Position → Option Cursor
  | _, [], p => some ⟨[], p⟩
  | _, '\r' :: '\n' :: rest, p => some ⟨rest, p.nextLine 2⟩
  | comment, c :: rest, p =>
    if isBreak c then some ⟨rest, p.nextLine c.utf8Size⟩
    else if comment ∨ isSpacing c then restOfLine comment rest (p.next c)
    else if c = '#' then restOfLine true rest (p.next c)
    else none

/-- The blank lines in front, whose breaks are returned, and the greatest indentation among them and
the first line that is not blank. A tab may not indent. -/
def blankLines : List Char → Position → (widest : Nat) → (breaks : List Char) →
    Option (List Char × Nat × Cursor)
  | '\r' :: '\n' :: rest, p, widest, breaks =>
    blankLines rest (p.nextLine 2) (max widest p.column) (breaks ++ ['\n'])
  | c :: rest, p, widest, breaks =>
    if c = ' ' then blankLines rest (p.next c) widest breaks
    else if c = '\t' then none
    else if isBreak c then
      blankLines rest (p.nextLine c.utf8Size) (max widest p.column) (breaks ++ [breakText c])
    else some (breaks, max widest p.column, ⟨c :: rest, p⟩)
  | [], p, widest, breaks => some (breaks, max widest p.column, ⟨[], p⟩)

/-- A scalar half read. `done` holds its characters so far, last one first; `first` and `more` hold
the breaks behind them; `blank` says that the last line began with a blank. -/
structure BlockText where
  done : List Char
  first : List Char
  more : List Char
  blank : Bool

/-- Begins a line with the character `c`. A lone line feed between two lines that begin with no
blank folds. -/
def BlockText.beginLine (literal : Bool) (c : Char) (t : BlockText) : BlockText :=
  let between :=
    if ¬ literal ∧ t.first = ['\n'] ∧ ¬ t.blank ∧ ¬ isSpacing c then
      if t.more.isEmpty then [' '] else t.more
    else t.first ++ t.more
  ⟨c :: between.reverse ++ t.done, [], [], isSpacing c⟩

def BlockText.close (chomping : Chomping) (t : BlockText) : List Char :=
  match chomping with
  | .strip => t.done.reverse
  | .clip => t.done.reverse ++ t.first
  | .keep => t.done.reverse ++ t.first ++ t.more

/-- Reads the lines of a scalar whose indentation is `indent`, beginning in the margin of a line or
within a line. -/
def blockLines (literal : Bool) (indent : Nat) : (inLine : Bool) → List Char → Position →
    BlockText → Option (BlockText × Cursor)
  | true, '\r' :: '\n' :: rest, p, t =>
    blockLines literal indent false rest (p.nextLine 2) { t with first := ['\n'] }
  | true, c :: rest, p, t =>
    if isBreak c then
      blockLines literal indent false rest (p.nextLine c.utf8Size) { t with first := [breakText c] }
    else blockLines literal indent true rest (p.next c) { t with done := c :: t.done }
  | false, '\r' :: '\n' :: rest, p, t =>
    blockLines literal indent false rest (p.nextLine 2) { t with more := t.more ++ ['\n'] }
  | false, c :: rest, p, t =>
    if p.column < indent ∧ c = ' ' then blockLines literal indent false rest (p.next c) t
    else if p.column < indent ∧ c = '\t' then none
    else if isBreak c then
      blockLines literal indent false rest (p.nextLine c.utf8Size)
        { t with more := t.more ++ [breakText c] }
    else if p.column = indent then
      blockLines literal indent true rest (p.next c) (t.beginLine literal c)
    else some (t, ⟨c :: rest, p⟩)
  | _, [], p, t => some (t, ⟨[], p⟩)

/-- Reads a scalar from behind its opening mark; `parent` is the column of the enclosing block, if
there is one. -/
def blockText (literal : Bool) (parent : Option Nat) (cursor : Cursor) :
    Option (List Char × Cursor) := do
  let (header, cursor) ← blockHeader cursor.rest cursor.position
  let cursor ← restOfLine false cursor.rest cursor.position
  let (text, cursor) ← match header.increment with
    | some increment =>
      blockLines literal (parent.getD 0 + increment) false cursor.rest cursor.position
        ⟨[], [], [], false⟩
    | none => do
      let (breaks, widest, cursor) ← blankLines cursor.rest cursor.position 0 []
      let least := match parent with
        | some column => column + 1
        | none => 1
      blockLines literal (max widest least) false cursor.rest cursor.position
        ⟨[], [], breaks, false⟩
  pure (text.close header.chomping, cursor)

end TrustedAppId.Markup
