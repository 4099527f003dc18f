import TrustedAppId.Text.Blank
import TrustedAppId.Text.Digits
import TrustedAppId.Text.Letter
/-! Whether a text is a pattern, that is, a regular expression that an automaton can look for.
Within a filter no pattern holds a comma or a closing brace, so what needs one of them, such as a
counted repetition, is refused. So is what looks around: the edges of words in the sense of Unicode,
and what stands ahead or behind. -/
namespace TrustedAppId.Pattern

/-- How the pattern ahead is read. -/
structure Mode where
  /-- Blanks and comments do not count. -/
  verbose : Bool
  /-- Sets are of characters of all scripts; without it they are of octets, and no pattern may match
  half a character. -/
  unicode : Bool
deriving DecidableEq

/-- Drops blanks and comments, the latter up to the end of their line. -/
def dropBlanks : (comment : Bool) → List Char → List Char
  | true, c :: rest => dropBlanks (c ≠ '\n') rest
  | false, c :: rest =>
    if Text.isBlank c then dropBlanks false rest
    else if c = '#' then dropBlanks true rest
    else c :: rest
  | _, [] => []

def Mode.skip (m : Mode) (cs : List Char) : List Char :=
  if m.verbose then dropBlanks false cs else cs

/-- One part of a pattern or of a set. -/
inductive Item where
  | literal (code : Nat)
  | set
  /-- Matches between characters. -/
  | edge

def controls : List (Char × Nat) :=
  [('a', 0x07), ('t', 0x09), ('n', 0x0a), ('v', 0x0b), ('f', 0x0c), ('r', 0x0d)]

/-- Letters of the general categories. -/
def categories : List Char := ['c', 'l', 'm', 'n', 'p', 's', 'z']

/-- The code point that the next digits spell. -/
def codeOf? (m : Mode) : (digits value : Nat) → List Char → Option (Nat × List Char)
  | 0, value, cs => if value.isValidChar then some (value, cs) else none
  | digits + 1, value, cs =>
    match m.skip cs with
    | c :: rest =>
      if Hex.isDigit c then codeOf? m digits (value * 16 + Hex.digitValue c) rest else none
    | [] => none

/-- Reads from behind a backslash. -/
def escape? (m : Mode) : List Char → Option (Item × List Char)
  | [] => none
  | c :: rest =>
    let literal (found : Nat × List Char) := (Item.literal found.1, m.skip found.2)
    if c = 'x' then
      (codeOf? m 2 0 rest).bind fun found =>
        if m.unicode ∨ found.1 < 0x80 then some (literal found) else none
    else if c = 'u' then (codeOf? m 4 0 rest).map literal
    else if c = 'U' then (codeOf? m 8 0 rest).map literal
    else if c = 'p' ∨ c = 'P' then
      match m.skip rest with
      | category :: rest =>
        if m.unicode ∧ categories.contains category.toLower then some (.set, m.skip rest) else none
      | [] => none
    else if ['d', 's', 'w'].contains c then some (.set, rest)
    else if ['D', 'S', 'W'].contains c then if m.unicode then some (.set, rest) else none
    else if ['b', 'B', '<', '>'].contains c then if m.unicode then none else some (.edge, rest)
    else if c = 'A' ∨ c = 'z' then some (.edge, rest)
    else match controls.lookup c with
      | some code => some (.literal code, rest)
      | none => if c.toNat < 0x80 ∧ ¬ c.isAlphanum then some (.literal c.toNat, rest) else none

/-! Sets, in brackets, of characters and ranges of them, of named sets and of further sets, with
operations between them. -/

def setNames : List String :=
  ["alnum", "alpha", "ascii", "blank", "cntrl", "digit", "graph", "lower", "print", "punct",
    "space", "upper", "word", "xdigit"]

/-- What stands behind the name of a set between `[:` and `:]`, read from behind the first bracket,
and whether the set is negated. -/
def namedSet? : List Char → Option (Bool × List Char)
  | ':' :: cs =>
    let negated := cs.head? = some '^'
    let cs := if negated then cs.drop 1 else cs
    match cs.dropWhile (· ≠ ':') with
    | ':' :: ']' :: rest =>
      if setNames.contains (String.ofList (cs.takeWhile (· ≠ ':'))) then some (negated, rest)
      else none
    | _ => none
  | _ => none

def member? (m : Mode) : List Char → Option (Item × List Char)
  | [] => none
  | '\\' :: rest => escape? m rest
  | c :: rest => some (.literal c.toNat, rest)

/-- A member of a set, or a range of them, and what stands behind it. -/
def range? (m : Mode) (cs : List Char) : Option (List Char) := do
  let allowed (code : Nat) : Bool := m.unicode || code < 0x80
  let (first, rest) ← member? m cs
  let single : Option (List Char) := match first with
    | .literal code => if allowed code then some rest else none
    | .set => some rest
    | .edge => none
  match m.skip rest with
  | '-' :: more =>
    match m.skip more with
    | ']' :: _ | '-' :: _ => single
    | more => do
      let (last, rest) ← member? m more
      match first, last with
      | .literal a, .literal b => if a ≤ b ∧ allowed a ∧ allowed b then some rest else none
      | _, _ => none
  | _ => single

/-- Where in a set the next member stands: dashes at its front stand for themselves, as does a
closing bracket in front of all else. -/
inductive Place where
  | first
  | dashes
  | later
deriving DecidableEq

/-- Reads the members of a set and its closing bracket. `depth` counts the sets around it; `fuel`
bounds the number of members. -/
def members? (m : Mode) : (fuel depth : Nat) → Place → List Char → Option (List Char)
  | 0, _, _, _ => none
  | fuel + 1, depth, place, cs =>
    match m.skip cs with
    | [] => none
    | '-' :: '-' :: rest =>
      members? m fuel depth (if place = .later then .later else .dashes)
        (if place = .later then rest else '-' :: rest)
    | '&' :: '&' :: rest | '~' :: '~' :: rest => members? m fuel depth .later rest
    | c :: rest =>
      if c = '-' ∧ place ≠ .later then members? m fuel depth .dashes rest
      else if c = ']' ∧ place = .first then members? m fuel depth .later rest
      else if c = ']' then
        match depth with
        | 0 => some rest
        | depth + 1 => members? m fuel depth .later rest
      else if c = '[' then
        match namedSet? rest with
        | some (negated, rest) =>
          if negated ∧ ¬ m.unicode then none else members? m fuel depth .later rest
        | none =>
          match m.skip rest with
          | '^' :: rest => if m.unicode then members? m fuel (depth + 1) .first rest else none
          | rest => members? m fuel (depth + 1) .first rest
      else (range? m (c :: rest)).bind (members? m fuel depth .later)

def set? (m : Mode) (cs : List Char) : Option (List Char) :=
  match m.skip cs with
  | '^' :: rest => if m.unicode then members? m (rest.length + 1) 0 .first rest else none
  | rest => members? m (rest.length + 1) 0 .first rest

/-! Groups. -/

/-- What stands behind an opening parenthesis. -/
inductive Front where
  /-- Changes the mode, and is no group. -/
  | mode (m : Mode)
  | group (m : Mode) (name : Option (List Char))

def isName : List Char → Bool
  | [] => false
  | c :: rest =>
    (c = '_' || Text.isLetter c) &&
      rest.all fun c => ['_', '.', '[', ']'].contains c || Text.isLetterOrNumeral c

def flagLetters : List Char := ['i', 'm', 's', 'U', 'u', 'R', 'x', '-']

/-- The mode after letters that turn flags on and, behind a dash, off. -/
def Mode.change? (m : Mode) (letters : List Char) : Option Mode :=
  if letters.all flagLetters.contains ∧ letters.eraseDups = letters ∧
      letters.getLast? ≠ some '-' then
    let switch (flag : Char) (now : Bool) : Bool :=
      if letters.contains flag then (letters.takeWhile (· ≠ '-')).contains flag else now
    some ⟨switch 'x' m.verbose, switch 'u' m.unicode⟩
  else none

def named? (m : Mode) (cs : List Char) : Option (Front × List Char) :=
  let name := cs.takeWhile (· ≠ '>')
  match cs.dropWhile (· ≠ '>') with
  | '>' :: rest => if isName name then some (.group m (some name), rest) else none
  | _ => none

def front? (m : Mode) (cs : List Char) : Option (Front × List Char) :=
  match m.skip cs with
  | '?' :: 'P' :: '<' :: rest | '?' :: '<' :: rest => named? m rest
  | '?' :: rest => do
    let isEnd (c : Char) : Bool := c = ':' || c = ')'
    let letters := rest.takeWhile fun c => !isEnd c
    let changed ← m.change? letters
    match rest.dropWhile fun c => !isEnd c with
    | ':' :: rest => some (.group changed none, rest)
    | ')' :: rest => if letters.isEmpty then none else some (.mode changed, rest)
    | _ => none
  | cs => some (.group m none, cs)

/-- Reads on from within a pattern. `outer` holds the modes around each open group, `names` the
names of groups so far; `full` says that there is something to repeat. -/
def reads : (fuel : Nat) → (outer : List Mode) → Mode → (full : Bool) →
    (names : List (List Char)) → List Char → Bool
  | 0, _, _, _, _, _ => false
  | fuel + 1, outer, m, full, names, cs =>
    match m.skip cs with
    | [] => outer.isEmpty
    | c :: rest =>
      let goOn (rest : List Char) : Bool := reads fuel outer m true names rest
      if c = '(' then
        match front? m rest with
        | none => false
        | some (.mode m, rest) => reads fuel outer m false names rest
        | some (.group inner none, rest) => reads fuel (m :: outer) inner false names rest
        | some (.group inner (some name), rest) =>
          !names.contains name && reads fuel (m :: outer) inner false (name :: names) rest
      else if c = ')' then
        match outer with
        | m :: outer => reads fuel outer m true names rest
        | [] => false
      else if c = '|' then reads fuel outer m false names rest
      else if ['?', '*', '+'].contains c then
        full && goOn (if rest.head? = some '?' then rest.drop 1 else rest)
      else if c = '\x7b' then false
      else if c = '[' then (set? m rest).any goOn
      else if c = '\\' then (escape? m rest).any fun (_, rest) => goOn rest
      else (c ≠ '.' || m.unicode) && goOn rest

def isPattern (cs : List Char) : Bool := reads (cs.length + 1) [] ⟨false, true⟩ false [] cs

/-- Digits with an optional point and exponent, or a word for what is no finite number. -/
def isNumeral (cs : List Char) : Bool :=
  let rest := cs.dropWhile Decimal.isDigit
  let part := if rest.head? = some '.' then (rest.drop 1).takeWhile Decimal.isDigit else []
  let rest := if rest.head? = some '.' then rest.drop (part.length + 1) else rest
  let digits := cs.takeWhile Decimal.isDigit ++ part
  let exponent := match rest.drop 1 with
    | '+' :: ds | '-' :: ds | ds => !ds.isEmpty && ds.all Decimal.isDigit
  ["inf", "infinity", "nan"].contains (String.ofList (cs.map Char.toLower)) ||
    (!digits.isEmpty &&
      (rest.isEmpty || ((rest.head? = some 'e' || rest.head? = some 'E') && exponent)))

/-- A value that a field may be asked for: a pattern, which a truth value or a number without a plus
sign is too, or a number with one. -/
def isValue : List Char → Bool
  | '+' :: rest => isNumeral rest || isPattern ('+' :: rest)
  | cs => isPattern cs

end TrustedAppId.Pattern
