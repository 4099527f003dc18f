import TrustedAppId.Text.Blank
import TrustedAppId.Timestamp
/-! Reading a date and time with its distance from UTC, in the notation of RFC 3339 and some forms
near to it: numbers may lack leading zeros, blanks may stand around numbers, a space may stand
between date and time, and years may have a sign and then any count of digits. -/
namespace TrustedAppId.Timestamp

inductive Fault where
  | outOfRange
  /-- The date in UTC lies beyond the years in reach. -/
  | impossible
  | invalid
  | tooShort
  | tooLong
deriving DecidableEq

def Fault.message : Fault → String
  | .outOfRange => "input is out of range"
  | .impossible => "no possible date and time matching input"
  | .invalid => "input contains invalid characters"
  | .tooShort => "premature end of input"
  | .tooLong => "trailing input"

/-- At least one digit and at most `most` of them. -/
def readDigits (most : Nat) (cs : List Char) : Except Fault (List Char × List Char) :=
  match cs with
  | [] => .error .tooShort
  | c :: _ =>
    if Decimal.isDigit c then
      let ds := (cs.take most).takeWhile Decimal.isDigit
      .ok (ds, cs.drop ds.length)
    else .error .invalid

/-- A number of at most two digits between the bounds. -/
def readPart (least most : Nat) (cs : List Char) : Except Fault (Nat × List Char) := do
  let (ds, rest) ← readDigits 2 (Text.trimLeft cs)
  let n := Decimal.value ds
  if least ≤ n ∧ n ≤ most then pure (n, rest) else throw .outOfRange

/-- The mark `c`, with blanks in front of it. -/
def readMark (c : Char) (cs : List Char) : Except Fault (List Char) :=
  match Text.trimLeft cs with
  | [] => .error .tooShort
  | d :: rest => if d = c then .ok rest else .error .invalid

/-- Years are read as integers of 32 bits. -/
def yearLimit : Int := 2147483648

/-- A year of at most four digits, or of any count behind a sign. -/
def readYear (cs : List Char) : Except Fault (Int × List Char) := do
  let (negative, ds, rest) ← (match Text.trimLeft cs with
    | '-' :: rest => do
      let (ds, after) ← readDigits rest.length rest
      pure (true, ds, after)
    | '+' :: rest => do
      let (ds, after) ← readDigits rest.length rest
      pure (false, ds, after)
    | cs => do
      let (ds, after) ← readDigits 4 cs
      pure (false, ds, after))
  let year : Int := if negative then -(Decimal.value ds) else Decimal.value ds
  if -yearLimit ≤ year ∧ year < yearLimit then pure (year, rest) else throw .outOfRange

/-- The nanoseconds of a fraction; digits behind the ninth do not count. -/
def readFraction : List Char → Except Fault (Nat × List Char)
  | '.' :: rest => do
    let (ds, after) ← readDigits 9 rest
    pure (Decimal.value ds * Nat.pow 10 (9 - ds.length), after.dropWhile Decimal.isDigit)
  | cs => .ok (0, cs)

/-- What two characters in the place of two digits mean. A single character counts as a text that
breaks off, unless it is more than one octet long. -/
def readPair (cs : List Char) (check : Char → Char → Except Fault Nat) :
    Except Fault (Nat × List Char) :=
  match cs with
  | [] => .error .tooShort
  | [c] => if c.utf8Size < 2 then .error .tooShort else .error .invalid
  | c :: d :: rest => do
    let n ← check c d
    pure (n, rest)

def pairValue (c d : Char) : Nat := Decimal.value [c, d]

def isOffsetMark (c : Char) : Bool := c = ':' || Text.isBlank c

/-- Hours and minutes behind a sign, in minutes. -/
def readSigned (negative : Bool) (cs : List Char) : Except Fault (Int × List Char) := do
  let (hours, rest) ← readPair cs fun c d =>
    if Decimal.isDigit c ∧ Decimal.isDigit d then .ok (pairValue c d) else .error .invalid
  let (minutes, rest) ← readPair (rest.dropWhile isOffsetMark) fun c d =>
    if Decimal.isDigit c ∧ Decimal.isDigit d then
      (if c ≤ '5' then .ok (pairValue c d) else .error .outOfRange)
    else .error .invalid
  let total : Int := 60 * hours + minutes
  pure (if negative then -total else total, rest)

/-- The distance from UTC in minutes. -/
def readOffset : List Char → Except Fault (Int × List Char)
  | [] => .error .tooShort
  | u :: t :: c :: rest =>
    if u.toUpper = 'U' ∧ t.toUpper = 'T' ∧ c.toUpper = 'C' then .ok (0, rest)
    else signed u (t :: c :: rest)
  | c :: rest => signed c rest
where
  signed (c : Char) (rest : List Char) : Except Fault (Int × List Char) :=
    if c = 'Z' ∨ c = 'z' then .ok (0, rest)
    else if c = '+' then readSigned false rest
    else if c = '-' ∨ c = '\u2212' then readSigned true rest
    else .error .invalid

def isSeparator (c : Char) : Bool := c = 'T' || c = 't' || c = ' '

def readSeparator : List Char → Except Fault (List Char)
  | [] => .error .tooShort
  | c :: rest => if isSeparator c then .ok rest else .error .invalid

/-- One day in minutes; no place is that far from UTC. -/
def dayMinutes : Nat := 1440

def readChars (cs : List Char) : Except Fault Timestamp := do
  let (year, cs) ← readYear cs
  let cs ← readMark '-' cs
  let (month, cs) ← readPart 1 12 cs
  let cs ← readMark '-' cs
  let (day, cs) ← readPart 1 31 cs
  let cs ← readSeparator cs
  let (hour, cs) ← readPart 0 23 cs
  let cs ← readMark ':' cs
  let (minute, cs) ← readPart 0 59 cs
  let cs ← readMark ':' cs
  let (second, cs) ← readPart 0 60 cs
  let (nanosecond, cs) ← readFraction cs
  let (offset, cs) ← readOffset (Text.trimLeft cs)
  if Text.trimLeft cs ≠ [] then throw .tooLong
  match Date.of? year month day, TimeOfDay.of? hour minute second nanosecond with
  | some date, some time =>
    if offset.natAbs < dayMinutes then
      match ofLocal? date time offset with
      | some t => pure t
      | none => throw .impossible
    else throw .outOfRange
  | _, _ => throw .outOfRange

def read (text : String) : Except Fault Timestamp := readChars text.toList

end TrustedAppId.Timestamp
