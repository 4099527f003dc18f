import TrustedAppId.Markup.Meaning
/-! How a text is spelt as a scalar: without quotes where that reads back as the same text, in a
block if it holds a line feed, else between single quotes, and between double quotes where nothing
else will do. -/
namespace TrustedAppId.Markup

/-- Some two neighbours are related. -/
def anyNeighbours (related : Char → Char → Bool) : List Char → Bool
  | c :: d :: rest => related c d || anyNeighbours related (d :: rest)
  | _ => false

def spaceBeforeBreak (cs : List Char) : Bool := anyNeighbours (fun c d => c = ' ' && isBreak d) cs

def spaceAfterBreak (cs : List Char) : Bool := anyNeighbours (fun c d => isBreak c && d = ' ') cs

/-- Begins with a character that means something else there. -/
def beginsWithMark : List Char → Bool
  | [] => false
  | c :: rest =>
    isFlowMark c || ['#', '&', '*', '!', '|', '>', '\x27', '\x22', '%', '@', '\x60'].contains c ||
      (['?', ':', '-'].contains c && endsWord rest.head?)

def beginsWithLine : List Char → Bool
  | '-' :: '-' :: '-' :: _ => true
  | '.' :: '.' :: '.' :: _ => true
  | _ => false

/-- Holds a colon or a number sign that would end the scalar. -/
def holdsMark (cs : List Char) : Bool :=
  cs.getLast? = some ':' || anyNeighbours (fun c d => c = ':' && endsWord (some d)) cs ||
    anyNeighbours (fun c d => endsWord (some c) && d = '#') cs

/-- Keeps its blanks at both ends only between quotes. -/
def hasOuterBlank (cs : List Char) : Bool :=
  let blank (c : Option Char) : Bool := c.any fun c => c = ' ' || isBreak c
  blank cs.head? || blank cs.getLast?

def plainAllowed (cs : List Char) : Bool :=
  cs.all isPrintable && !cs.any isBreak && !hasOuterBlank cs && !beginsWithMark cs &&
    !beginsWithLine cs && !holdsMark cs

def singleAllowed (cs : List Char) : Bool :=
  cs.all isPrintable && !spaceBeforeBreak cs && !spaceAfterBreak cs

def literalAllowed (cs : List Char) : Bool :=
  cs.all isPrintable && !spaceBeforeBreak cs && cs.getLast? ≠ some ' '

/-- Reads back as itself when it has no quotes. -/
def meansText (cs : List Char) : Bool :=
  !isPaddedDigits (splitSign cs).2 &&
    match plainMeaning cs with
    | .string _ => true
    | _ => false

def styleOf (cs : List Char) : Style :=
  if cs.contains '\n' then (if literalAllowed cs then .literal else .doubleQuoted)
  else if meansText cs && plainAllowed cs then .plain
  else if singleAllowed cs then .singleQuoted
  else .doubleQuoted

def spaces (count : Nat) : List Char := List.replicate count ' '

/-! A spelling may go over several lines, of which all but the first begin with `indent` spaces. -/

/-- The body between single quotes; `broken` says that a line break stands in front of it. -/
def singleBody (indent : Nat) : (broken : Bool) → List Char → List Char
  | true, [] => spaces indent
  | false, [] => []
  | broken, c :: rest =>
    if isBreak c then c :: singleBody indent true rest
    else
      let char := if c = '\x27' then ['\x27', '\x27'] else [c]
      (if broken then spaces indent else []) ++ char ++ singleBody indent false rest

def escapeCode (c : Char) : List Char :=
  let n := c.toNat
  if n ≤ 0xff then 'x' :: Hex.fixedUpper 2 n
  else if n ≤ 0xffff then 'u' :: Hex.fixedUpper 4 n
  else 'U' :: Hex.fixedUpper 8 n

/-- The characters that have an escape of one letter. -/
def escapeLetters : List (Char × Char) :=
  [('\x00', '0'), ('\x07', 'a'), ('\x08', 'b'), ('\t', 't'), ('\n', 'n'), ('\x0b', 'v'),
    ('\x0c', 'f'), ('\r', 'r'), ('\x1b', 'e'), ('\x22', '\x22'), ('\\', '\\'), ('\u0085', 'N'),
    ('\u00a0', '_'), ('\u2028', 'L'), ('\u2029', 'P')]

def doubleChar (c : Char) : List Char :=
  if isPrintable c && !isBreak c && c ≠ '\x22' && c ≠ '\\' then [c]
  else '\\' :: match escapeLetters.lookup c with
    | some letter => [letter]
    | none => escapeCode c

/-- The body of a block; blank lines stay empty. -/
def literalBody (indent : Nat) : (broken : Bool) → List Char → List Char
  | _, [] => []
  | broken, c :: rest =>
    if isBreak c then c :: literalBody indent true rest
    else (if broken then spaces indent else []) ++ c :: literalBody indent false rest

/-- Tells how far a block is indented when its first character would hide that, and what becomes of
the line breaks at its end. -/
def literalHints (cs : List Char) : List Char :=
  let blankFirst := cs.head?.any fun c => c = ' ' || isBreak c
  (if blankFirst then ['2'] else []) ++
    match cs.reverse with
    | [] => ['-']
    | [last] => if isBreak last then ['+'] else ['-']
    | last :: before :: _ =>
      if !isBreak last then ['-'] else if isBreak before then ['+'] else []

/-- A scalar of which the first line is under way. -/
def spell (indent : Nat) (cs : List Char) : List Char :=
  match styleOf cs with
  | .plain => cs
  | .doubleQuoted => '\x22' :: cs.flatMap doubleChar ++ ['\x22']
  | .singleQuoted => '\x27' :: singleBody indent false cs ++ ['\x27']
  | .literal | .folded => '|' :: literalHints cs ++ '\n' :: literalBody indent true cs

/-- The line feed behind a scalar, unless a block has ended the line already. -/
def lineEnd (cs : List Char) : List Char :=
  if styleOf cs = .literal ∧ cs.getLast?.any isBreak then [] else ['\n']

def spellLine (indent : Nat) (cs : List Char) : List Char := spell indent cs ++ lineEnd cs

end TrustedAppId.Markup
