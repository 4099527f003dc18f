import TrustedAppId.Markup.PlainText
import TrustedAppId.Markup.QuotedText
import TrustedAppId.Markup.BlockText
import TrustedAppId.Markup.Property
/-! From text to tokens. Indentation becomes tokens that open and close blocks. Whether a scalar or
collection is the key of a mapping shows only at the colon behind it, so the place of a possible key
is kept until then, and the tokens that a key needs are put in front of it afterwards. A possible
key lapses at the end of its line or after 1024 octets; where the indentation demands a key,
that is a fault. -/
namespace TrustedAppId.Markup

structure PendingKey where
  /-- How many tokens stand in front of the possible key. -/
  number : Nat
  place : Position
  required : Bool

structure Lexer where
  cursor : Cursor
  /-- The columns of the open blocks, innermost first. -/
  indents : List Nat
  innermost : Option PendingKey
  /-- The possible keys outside of each open flow collection, innermost first. -/
  outer : List (Option PendingKey)
  keyAllowed : Bool
  /-- The tokens so far, last one first. -/
  tokens : List Token
  count : Nat

namespace Lexer

def start (text : List Char) : Lexer where
  cursor := ⟨text, .start⟩
  indents := []
  innermost := none
  outer := []
  keyAllowed := true
  tokens := []
  count := 0

def inFlow (lx : Lexer) : Bool := !lx.outer.isEmpty

def column (lx : Lexer) : Nat := lx.cursor.position.column

def push (lx : Lexer) (token : Token) : Lexer :=
  { lx with tokens := token :: lx.tokens, count := lx.count + 1 }

def insertBehind : (depth : Nat) → Token → List Token → List Token
  | 0, token, tokens => token :: tokens
  | _ + 1, token, [] => [token]
  | depth + 1, token, last :: tokens => last :: insertBehind depth token tokens

/-- Puts a token in front of the token of this number. -/
def insert (lx : Lexer) (number : Nat) (token : Token) : Lexer :=
  { lx with
    tokens := insertBehind (lx.count - number) token lx.tokens
    count := lx.count + 1 }

def lapse (now : Position) : Option PendingKey → Option (Option PendingKey)
  | none => some none
  | some key =>
    if key.place.line < now.line ∨ key.place.index + 1024 < now.index then
      if key.required then none else some none
    else some (some key)

/-- Lets the possible keys lapse that can be keys no more. -/
def lapseKeys (lx : Lexer) : Option Lexer := do
  let innermost ← lapse lx.cursor.position lx.innermost
  let outer ← lx.outer.mapM (lapse lx.cursor.position)
  pure { lx with innermost, outer }

def dropKey (lx : Lexer) : Option Lexer :=
  match lx.innermost with
  | some key => if key.required then none else some { lx with innermost := none }
  | none => some lx

/-- Marks the place ahead as a possible key, if one may stand there. -/
def saveKey (lx : Lexer) : Option Lexer :=
  if lx.keyAllowed then do
    let lx ← lx.dropKey
    pure { lx with innermost := some {
      number := lx.count
      place := lx.cursor.position
      required := !lx.inFlow && lx.indents.head? == some lx.column } }
  else some lx

def indentedLess (indents : List Nat) (column : Nat) : Bool :=
  match indents with
  | [] => true
  | indent :: _ => indent < column

/-- Opens a block at `column`, unless one is open there. -/
def openBlock (lx : Lexer) (column : Nat) (token : Token) (number : Option Nat) : Lexer :=
  if lx.inFlow || !indentedLess lx.indents column then lx
  else
    let lx := { lx with indents := column :: lx.indents }
    match number with
    | some number => lx.insert number token
    | none => lx.push token

/-- Closes the blocks whose column is greater than `column`, or all of them. -/
def closeBlocks (column : Option Nat) (lx : Lexer) : Lexer :=
  if lx.inFlow then lx
  else
    let closes (indent : Nat) : Bool := match column with
      | some column => column < indent
      | none => true
    let closed := (lx.indents.takeWhile closes).length
    { lx with
      indents := lx.indents.dropWhile closes
      tokens := List.replicate closed .blockEnd ++ lx.tokens
      count := lx.count + closed }

/-- Skips blanks, comments and line breaks. A tab may stand in front of a word unless a key of a
block could stand there, and one byte order mark at the start of each line. -/
def skipBlanks (flow : Bool) : (keyAllowed comment : Bool) → List Char → Position →
    Cursor × Bool
  | keyAllowed, _, '\r' :: '\n' :: rest, p =>
    skipBlanks flow (keyAllowed || !flow) false rest (p.nextLine 2)
  | keyAllowed, comment, c :: rest, p =>
    if isBreak c then skipBlanks flow (keyAllowed || !flow) false rest (p.nextLine c.utf8Size)
    else if comment ∨ c = ' ' ∨ (c = '\t' ∧ (flow ∨ ¬ keyAllowed)) ∨
        (c = '\ufeff' ∧ p.column = 0) then
      skipBlanks flow keyAllowed comment rest (p.next c)
    else if c = '#' then skipBlanks flow keyAllowed true rest (p.next c)
    else (⟨c :: rest, p⟩, keyAllowed)
  | keyAllowed, _, [], p => (⟨[], p⟩, keyAllowed)

def advance (lx : Lexer) (count : Nat) : Lexer :=
  { lx with cursor := count.repeat Cursor.next lx.cursor }

def withKeyAllowed (lx : Lexer) (allowed : Bool) : Lexer := { lx with keyAllowed := allowed }

def withCursor (lx : Lexer) (cursor : Cursor) : Lexer := { lx with cursor }

/-- The end of the text ends its line too, so that the possible keys of that line lapse. -/
def endStream (lx : Lexer) : Option Lexer := do
  let lx ← (lx.closeBlocks none).dropKey
  let lx ← (lx.withCursor ⟨[], lx.cursor.position.nextLine 0⟩).lapseKeys
  pure ((lx.withKeyAllowed false).push .streamEnd)

def readDirective (lx : Lexer) : Option Lexer := do
  let lx ← (lx.closeBlocks none).dropKey
  let (token, after) ← directive lx.cursor.next
  pure (((lx.withKeyAllowed false).withCursor after).push token)

def documentMark (lx : Lexer) (token : Token) : Option Lexer := do
  let lx ← (lx.closeBlocks none).dropKey
  pure (((lx.withKeyAllowed false).advance 3).push token)

def openFlow (lx : Lexer) (token : Token) : Option Lexer := do
  let lx ← lx.saveKey
  let lx := { lx with outer := lx.innermost :: lx.outer, innermost := none }
  pure (((lx.withKeyAllowed true).advance 1).push token)

def closeFlow (lx : Lexer) (token : Token) : Option Lexer := do
  let lx ← lx.dropKey
  let lx := match lx.outer with
    | innermost :: outer => { lx with innermost, outer }
    | [] => lx
  pure (((lx.withKeyAllowed false).advance 1).push token)

def flowEntry (lx : Lexer) : Option Lexer := do
  let lx ← lx.dropKey
  pure (((lx.withKeyAllowed true).advance 1).push .flowEntry)

def blockEntry (lx : Lexer) : Option Lexer := do
  if !lx.inFlow && !lx.keyAllowed then none
  let lx ← (lx.openBlock lx.column .blockSequenceStart none).dropKey
  pure (((lx.withKeyAllowed true).advance 1).push .blockEntry)

def explicitKey (lx : Lexer) : Option Lexer := do
  if !lx.inFlow && !lx.keyAllowed then none
  let lx ← (lx.openBlock lx.column .blockMappingStart none).dropKey
  pure (((lx.withKeyAllowed !lx.inFlow).advance 1).push .key)

def readValue (lx : Lexer) : Option Lexer :=
  match lx.innermost with
  | some key =>
    let lx := (lx.insert key.number .key).openBlock key.place.column .blockMappingStart key.number
    let lx := { lx with innermost := none }
    some (((lx.withKeyAllowed false).advance 1).push .value)
  | none => do
    if !lx.inFlow && !lx.keyAllowed then none
    let lx := lx.openBlock lx.column .blockMappingStart none
    pure (((lx.withKeyAllowed !lx.inFlow).advance 1).push .value)

def readAnchor (lx : Lexer) (token : List Char → Token) : Option Lexer := do
  let lx ← lx.saveKey
  let (name, after) ← anchorName lx.cursor.next
  pure (((lx.withKeyAllowed false).withCursor after).push (token name))

def readTagged (lx : Lexer) : Option Lexer := do
  let lx ← lx.saveKey
  let (token, after) ← readTag lx.inFlow lx.cursor
  pure (((lx.withKeyAllowed false).withCursor after).push token)

def readBlockText (lx : Lexer) (literal : Bool) : Option Lexer := do
  let lx ← lx.dropKey
  let (text, after) ← blockText literal lx.indents.head? lx.cursor.next
  let style := if literal then .literal else .folded
  pure (((lx.withKeyAllowed true).withCursor after).push (.scalar style text))

def readQuoted (lx : Lexer) (single : Bool) : Option Lexer := do
  let lx ← lx.saveKey
  let inner := lx.cursor.next
  let (text, after) ←
    if single then singleQuoted inner.rest inner.position .none []
    else doubleQuoted none inner.rest inner.position .none []
  let style := if single then .singleQuoted else .doubleQuoted
  pure (((lx.withKeyAllowed false).withCursor after).push (.scalar style text))

def readPlain (lx : Lexer) : Option Lexer := do
  let lx ← lx.saveKey
  let indent := match lx.indents.head? with
    | some column => column + 1
    | none => 0
  let found ← plainText lx.inFlow indent lx.cursor.rest lx.cursor.position .none []
  pure (((lx.withKeyAllowed found.brokeLine).withCursor found.after).push
    (.scalar .plain found.text))

/-- A character that no scalar without quotes begins with. -/
def isIndicator (c : Char) : Bool :=
  isFlowMark c || ['-', '?', ':', '#', '&', '*', '!', '|', '>', '%', '@'].contains c ||
    ['\x27', '\x22', '\x60'].contains c

def beginsPlain (flow : Bool) (c : Char) (second : Option Char) : Bool :=
  !(isIndicator c || endsWord (some c)) || (c = '-' && !(second.any isSpacing)) ||
    (!flow && (c = '?' || c = ':') && !endsWord second)

/-- Reads the word ahead, which begins with `c`. -/
def readWord (lx : Lexer) (c : Char) (rest : List Char) : Option Lexer :=
  let flow := lx.inFlow
  let ended := endsWord rest.head?
  if lx.column = 0 ∧ c = '%' then lx.readDirective
  else if lx.column = 0 ∧ isDocumentMark (c :: rest) then
    lx.documentMark (if c = '-' then .documentStart else .documentEnd)
  else if c = '[' then lx.openFlow .flowSequenceStart
  else if c = '\x7b' then lx.openFlow .flowMappingStart
  else if c = ']' then lx.closeFlow .flowSequenceEnd
  else if c = '\x7d' then lx.closeFlow .flowMappingEnd
  else if c = ',' then lx.flowEntry
  else if c = '-' ∧ ended then lx.blockEntry
  else if c = '?' ∧ (flow ∨ ended) then lx.explicitKey
  else if c = ':' ∧ (flow ∨ ended) then lx.readValue
  else if c = '*' then lx.readAnchor .alias
  else if c = '&' then lx.readAnchor .anchor
  else if c = '!' then lx.readTagged
  else if c = '|' ∧ ¬ flow then lx.readBlockText true
  else if c = '>' ∧ ¬ flow then lx.readBlockText false
  else if c = '\x27' then lx.readQuoted true
  else if c = '\x22' then lx.readQuoted false
  else if beginsPlain flow c rest.head? then lx.readPlain
  else none

/-- Reads the next word; the flag says that the text is at its end. -/
def step (lx : Lexer) : Option (Lexer × Bool) := do
  let (cursor, keyAllowed) :=
    skipBlanks lx.inFlow lx.keyAllowed false lx.cursor.rest lx.cursor.position
  let lx ← { lx with cursor, keyAllowed }.lapseKeys
  let lx := lx.closeBlocks (some lx.column)
  match lx.cursor.rest with
  | [] => pure (← lx.endStream, true)
  | c :: rest =>
    let lx ← lx.readWord c rest
    pure (← lx.lapseKeys, false)

/-- The tokens in front of the first possible key; the ones behind it may still change. -/
def settled (lx : Lexer) : List Token :=
  let first := ((lx.innermost :: lx.outer).filterMap fun key => key.map PendingKey.number).foldl
    min lx.count
  lx.tokens.reverse.take first

end Lexer

/-- Tokens in order, and whether they are all the tokens of a text or those in front of a fault. -/
structure Lexed where
  tokens : List Token
  whole : Bool

/-- Reads to the end of the text. Every word takes at least one character. -/
def Lexer.run (lx : Lexer) : Lexed :=
  match lx.step with
  | none => ⟨lx.settled, false⟩
  | some (next, true) => ⟨next.tokens.reverse, true⟩
  | some (next, false) =>
    if next.cursor.rest.length < lx.cursor.rest.length then next.run
    else ⟨lx.settled, false⟩
termination_by lx.cursor.rest.length

def lex (text : List Char) : Lexed :=
  if text.all isAllowed then (Lexer.start text).run else ⟨[], false⟩

end TrustedAppId.Markup
