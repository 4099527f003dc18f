import TrustedAppId.Uuid
/-! Reading an identifier from text. Accepted are the 32 digits alone, the hyphenated form, the
hyphenated form in braces, and the hyphenated form after `urn:uuid:`; letters may be of either case.
A text that is none of these gives the first reason that applies. Lengths and positions count octets
of the text in UTF-8. -/
namespace TrustedAppId.Uuid

inductive SpellingFault where
  | length (found : Nat)
  | character (found : Char) (position : Nat)
  | groupCount (found : Nat)
  | groupLength (group expected found : Nat)
deriving DecidableEq

def SpellingFault.message : SpellingFault → String
  | .length found => s!"invalid length: found {found}"
  | .character found position => s!"invalid character: found `{found}` at {position}"
  | .groupCount found => s!"invalid group count: expected 5, found {found}"
  | .groupLength group expected found =>
    s!"invalid group length in group {group}: expected {expected}, found {found}"

def octetCount (cs : List Char) : Nat := cs.foldr (fun c n => c.utf8Size + n) 0

def ofDigits (ds : List Char) : Uuid := ⟨BitVec.ofNat 128 (Hex.value ds)⟩

/-- The identifier spelt by digits alone. -/
def ofPlain? (cs : List Char) : Option Uuid :=
  if cs.length = 32 ∧ cs.all Hex.isDigit then some (ofDigits cs) else none

/-- The identifier spelt in the hyphenated form. -/
def ofHyphenated? (cs : List Char) : Option Uuid :=
  let ds := cs.take 8 ++ (cs.drop 9).take 4 ++ (cs.drop 14).take 4 ++ (cs.drop 19).take 4 ++
    cs.drop 24
  if cs.length = 36 ∧ ds.all Hex.isDigit ∧ hyphenate ds = cs then some (ofDigits ds) else none

/-- Drops an opening `label`, compared without regard to case, from the front. -/
def dropLabel? : (label cs : List Char) → Option (List Char)
  | [], cs => some cs
  | _ :: _, [] => none
  | l :: label, c :: cs => if c.toLower = l then dropLabel? label cs else none

/-- The text between braces. -/
def inBraces? : List Char → Option (List Char)
  | '\x7b' :: rest => if rest.getLast? = some '\x7d' then some rest.dropLast else none
  | _ => none

def afterLabel? (cs : List Char) : Option (List Char) :=
  dropLabel? ['u', 'r', 'n', ':', 'u', 'u', 'i', 'd', ':'] cs

/-- Octet positions of the hyphens, or the first character that is neither hyphen nor digit. -/
def hyphenPositions (offset : Nat) : (position : Nat) → List Char →
    Except SpellingFault (List Nat)
  | _, [] => .ok []
  | position, c :: rest =>
    if c = '-' then (hyphenPositions offset (position + 1) rest).map (position :: ·)
    else if Hex.isDigit c then hyphenPositions offset (position + 1) rest
    else .error (.character c (offset + position))

/-- Where the groups of the hyphenated form begin, and how long they are. -/
def groups : List (Nat × Nat) := [(0, 8), (9, 4), (14, 4), (19, 4), (24, 12)]

/-- The first group whose end is out of place; the last group counts up to the end of the text. -/
def groupFault (total : Nat) (hyphens : List Nat) : SpellingFault :=
  let ends := hyphens ++ [total]
  let measured := (groups.zip ends).zipIdx.map fun (((start, expected), stop), group) =>
    (group, expected, stop - start)
  match measured.find? fun (_, expected, found) => expected ≠ found with
  | some (group, expected, found) => .groupLength group expected found
  | none => .groupLength 4 12 (total - 24)

/-- Why `body` spells no identifier. It begins at the octet `offset` of a text of `total` octets; if
it is `bare`, digits alone would have been a spelling at the right length. -/
def blame (bare : Bool) (offset total : Nat) (body : List Char) : SpellingFault :=
  match hyphenPositions offset 0 body with
  | .error fault => fault
  | .ok hyphens =>
    if bare ∧ hyphens.isEmpty then .length total
    else if hyphens.length ≠ 4 then .groupCount (hyphens.length + 1)
    else groupFault total hyphens

/-- Why a text whose length and wrapping fit no form spells no identifier. -/
def diagnose (cs : List Char) : SpellingFault :=
  let total := octetCount cs
  if total > 45 then .length total
  else match inBraces? cs, afterLabel? cs with
    | some body, _ => blame false 1 total body
    | none, some body => blame false 9 total body
    | none, none => blame true 0 total cs

/-- Reads digits alone; whatever else stands in the text is at fault itself, even a brace. -/
def readPlain (cs : List Char) : Except SpellingFault Uuid :=
  match ofPlain? cs with
  | some u => .ok u
  | none => .error (blame true 0 (octetCount cs) cs)

/-- Reads the hyphenated form, and finds faults in the same way. -/
def readHyphenated (cs : List Char) : Except SpellingFault Uuid :=
  match ofHyphenated? cs with
  | some u => .ok u
  | none => .error (blame false 0 (octetCount cs) cs)

/-- The length tells which form is meant, together with the braces or the label. -/
def read (cs : List Char) : Except SpellingFault Uuid :=
  let total := octetCount cs
  if total = 32 then readPlain cs
  else if total = 36 then readHyphenated cs
  else if total = 38 then (inBraces? cs).elim (.error (diagnose cs)) readHyphenated
  else if total = 45 then (afterLabel? cs).elim (.error (diagnose cs)) readHyphenated
  else .error (diagnose cs)

end TrustedAppId.Uuid
