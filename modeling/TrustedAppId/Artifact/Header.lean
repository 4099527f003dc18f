import TrustedAppId.Error
import TrustedAppId.Identifier
import TrustedAppId.Text.Blank
import TrustedAppId.Uuid.Fields
/-! The header: a guard line and a macro whose value is a C initializer, three outer literals and
then eight inner ones in braces of their own. Reading takes the first definition at the start of a
line whose value opens with a brace, and any layout within the braces. -/
namespace TrustedAppId.Header

def literal (n : Nat) : List Char := '0' :: 'x' :: Hex.minimal n

/-- An octet as a literal of two digits. -/
def octetLiteral (b : BitVec 8) : List Char := '0' :: 'x' :: Hex.fixed 2 b.toNat

def comma : List Char := [',', ' ']

def innerChars (f : Fields) : List Char :=
  [' ', ' ', '\x7b', ' '] ++ literal f.clockSeqHiAndReserved.toNat ++ comma ++
    literal f.clockSeqLow.toNat ++ f.node.flatMap (fun b => comma ++ octetLiteral b) ++
    [' ', '\x7d', ' ', '\\', '\n']

def outerChars (f : Fields) : List Char :=
  [' ', ' '] ++ literal f.timeLow.toNat ++ [' ', ',', ' '] ++ literal f.timeMid.toNat ++ comma ++
    literal f.timeHiAndVersion.toNat ++ [',', ' ', '\\', '\n']

def renderChars (name : List Char) (u : Uuid) : List Char :=
  let f := Fields.ofUuid u
  "#pragma once \n\n#define ".toList ++ name ++ [' ', '\x7b', ' ', '\\', '\n'] ++ outerChars f ++
    innerChars f ++ ['\x7d', '\n']

def render (name : String) (u : Uuid) : String := String.ofList (renderChars name.toList u)

/-! Literals. A literal is a zero, an `x` of either case and the longest run of digits behind it, at
least one. They are found from left to right and do not overlap. -/

/-- How far a literal is read. -/
inductive Scan where
  | idle
  /-- Behind a zero. -/
  | zero
  /-- Behind a zero and this `x`. -/
  | mark (x : Char)
  /-- Within the digits, the last one of them first. -/
  | digits (x : Char) (done : List Char)

/-- A literal as it is written: its `x` and its digits. -/
structure Literal where
  mark : Char
  digits : List Char
deriving DecidableEq

/-- Where no literal is begun, a zero may begin one. -/
def Scan.restart (c : Char) : Scan := if c = '0' then .zero else .idle

def isMark (c : Char) : Bool := c = 'x' || c = 'X'

def literalsFrom : Scan → List Char → List Literal
  | .digits x done, [] => [⟨x, done.reverse⟩]
  | _, [] => []
  | .idle, c :: rest => literalsFrom (Scan.restart c) rest
  | .zero, c :: rest => literalsFrom (if isMark c then .mark c else Scan.restart c) rest
  | .mark x, c :: rest =>
    literalsFrom (if Hex.isDigit c then .digits x [c] else Scan.restart c) rest
  | .digits x done, c :: rest =>
    if Hex.isDigit c then literalsFrom (.digits x (c :: done)) rest
    else ⟨x, done.reverse⟩ :: literalsFrom .idle rest

def literals (cs : List Char) : List Literal := literalsFrom .idle cs

def fault {α : Type} (cause : HeaderFault) : Except Error α := .error (.header cause)

/-- The value of a literal below 2 ^ 64. -/
def Literal.value (l : Literal) : Except Error Nat :=
  let n := Hex.value l.digits
  if n < Nat.pow 2 64 then .ok n
  else fault (.hugeLiteral (String.ofList ('0' :: l.mark :: l.digits)))

def literalValues (cs : List Char) : Except Error (List Nat) := (literals cs).mapM Literal.value

def narrow (bits : Nat) (n : Nat) : Except Error (BitVec bits) :=
  if n < Nat.pow 2 bits then .ok (BitVec.ofNat bits n) else fault (.wideLiteral n bits)

/-! The definition. -/

def isSpace (c : Char) : Bool := c = ' ' || c = '\t'

def dropSpaces (cs : List Char) : List Char := cs.dropWhile isSpace

/-- Drops `word` from the front. -/
def dropWord? : (word cs : List Char) → Option (List Char)
  | [], cs => some cs
  | _ :: _, [] => none
  | w :: word, c :: cs => if c = w then dropWord? word cs else none

/-- Drops at least one space or tab. -/
def dropGap? (cs : List Char) : Option (List Char) :=
  if cs.head?.any isSpace then some (dropSpaces cs) else none

/-- The name of a definition that begins here, and the text behind its brace. -/
def define? (cs : List Char) : Option (List Char × List Char) := do
  let cs ← dropWord? ['#'] (dropSpaces cs)
  let cs ← dropWord? ['d', 'e', 'f', 'i', 'n', 'e'] (dropSpaces cs)
  let (name, cs) ← Identifier.take? (← dropGap? cs)
  let body ← dropWord? ['\x7b'] (dropSpaces cs)
  pure (name, body)

/-- The first definition; `lineStart` says whether one may begin here. -/
def findDefine? : (lineStart : Bool) → List Char → Option (List Char × List Char)
  | _, [] => none
  | lineStart, c :: rest =>
    match if lineStart then define? (c :: rest) else none with
    | some found => some found
    | none => findDefine? (c = '\n') rest

def guardLine : List Char := "#pragma once".toList

def hasGuard (text : List Char) : Bool :=
  (Text.lines text).any fun line => Text.trim line = guardLine

/-- The text in front of the inner braces, and the text within them. Another brace must close the
initializer. -/
def splitBody (body : List Char) : Except Error (List Char × List Char) :=
  match Text.splitFirst '\x7b' body with
  | none => fault .noInnerList
  | some (outer, rest) =>
    match Text.splitFirst '\x7d' rest with
    | none => fault .openInnerList
    | some (inner, tail) =>
      if tail.contains '\x7d' then .ok (outer, inner) else fault .openInitializer

def readInner (values : List Nat) : Except Error (Vector (BitVec 8) 8) :=
  match values with
  | [a, b, c, d, e, f, g, h] => do
    pure #v[← narrow 8 a, ← narrow 8 b, ← narrow 8 c, ← narrow 8 d,
      ← narrow 8 e, ← narrow 8 f, ← narrow 8 g, ← narrow 8 h]
  | _ => fault (.innerCount values.length)

/-- The identifier that the outer and the inner literals make up. -/
def readInitializer (outer inner : List Char) : Except Error Uuid := do
  match ← literalValues outer with
  | [low, mid, high] =>
    let octets ← readInner (← literalValues inner)
    let timeLow ← narrow 32 low
    let timeMid ← narrow 16 mid
    let timeHiAndVersion ← narrow 16 high
    pure (Fields.toUuid ⟨timeLow, timeMid, timeHiAndVersion, octets⟩)
  | values => fault (.outerCount values.length)

def readChars (text : List Char) : Except Error (String × Uuid) := do
  if !hasGuard text then fault .noGuard
  match findDefine? true text with
  | none => fault .noDefine
  | some (name, body) =>
    if !Identifier.isName name then throw (.invalidName (String.ofList name))
    let (outer, inner) ← splitBody body
    let u ← readInitializer outer inner
    pure (String.ofList name, u)

/-- The name and the identifier of a header. -/
def read (text : String) : Except Error (String × Uuid) := readChars text.toList

end TrustedAppId.Header
