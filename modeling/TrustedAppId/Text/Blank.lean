/-! White space and lines of a text. `trim` drops white space at both ends; `lines` cuts at line
feeds and takes the carriage return in front of one as part of the line end; `splitFirst` cuts at
the first occurrence of a character and `split` at all of them. -/
namespace TrustedAppId.Text

/-- The 25 code points of the Unicode property White_Space. -/
def isBlank (c : Char) : Bool :=
  let n := c.toNat
  (0x09 ≤ n && n ≤ 0x0d) || n == 0x20 || n == 0x85 || n == 0xa0 || n == 0x1680 ||
    (0x2000 ≤ n && n ≤ 0x200a) || n == 0x2028 || n == 0x2029 || n == 0x202f || n == 0x205f ||
    n == 0x3000

def trimLeft (cs : List Char) : List Char := cs.dropWhile isBlank

def trim (cs : List Char) : List Char := (trimLeft (trimLeft cs).reverse).reverse

/-- Cuts at every line feed. A text that ends in one has no further empty line. -/
def pieces : List Char → List (List Char × Bool)
  | [] => []
  | c :: rest =>
    if c = '\n' then ([], true) :: pieces rest
    else match pieces rest with
      | [] => [([c], false)]
      | (line, ended) :: more => (c :: line, ended) :: more

/-- A line that ended in a line feed loses one carriage return at its end; the last line of an
unterminated text keeps it. -/
def closeLine : List Char × Bool → List Char
  | (line, false) => line
  | (line, true) => if line.getLast? = some '\r' then line.dropLast else line

def lines (cs : List Char) : List (List Char) := (pieces cs).map closeLine

/-- The parts before and after the first `mark`, which belongs to neither. -/
def splitFirst (mark : Char) : List Char → Option (List Char × List Char)
  | [] => none
  | c :: rest =>
    if c = mark then some ([], rest)
    else (splitFirst mark rest).map fun (before, after) => (c :: before, after)

/-- The parts between all marks, empty ones included. -/
def split (mark : Char) : List Char → List (List Char)
  | [] => [[]]
  | c :: rest =>
    if c = mark then [] :: split mark rest
    else match split mark rest with
      | [] => [[c]]
      | part :: more => (c :: part) :: more

end TrustedAppId.Text
