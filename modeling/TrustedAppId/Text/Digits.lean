/-! Numbers in decimal and in hexadecimal digits. `fixed` writes a number with a set count of digits,
`minimal` without leading zeros, and `value` reads digits of any count, most significant first.
Hexadecimal digits are written in lower case and read in either case. -/
namespace TrustedAppId

namespace Decimal

def isDigit (c : Char) : Bool := '0' ≤ c && c ≤ '9'

def digitValue (c : Char) : Nat := c.toNat - 48

/-- The last `width` decimal digits of `n`. -/
def fixed : (width : Nat) → (n : Nat) → List Char
  | 0, _ => []
  | width + 1, n => fixed width (n / 10) ++ [Char.ofNat (48 + n % 10)]

def minimal (n : Nat) : List Char :=
  if n < 10 then [Char.ofNat (48 + n)] else minimal (n / 10) ++ [Char.ofNat (48 + n % 10)]

def value (digits : List Char) : Nat :=
  digits.foldl (fun n c => n * 10 + digitValue c) 0

end Decimal

namespace Hex

def digit (n : Nat) : Char :=
  if n < 10 then Char.ofNat (48 + n) else Char.ofNat (87 + n)

def upperDigit (n : Nat) : Char :=
  if n < 10 then Char.ofNat (48 + n) else Char.ofNat (55 + n)

def isDigit (c : Char) : Bool :=
  ('0' ≤ c && c ≤ '9') || ('a' ≤ c && c ≤ 'f') || ('A' ≤ c && c ≤ 'F')

/-- The value of a hexadecimal digit; other characters count as zero. -/
def digitValue (c : Char) : Nat :=
  if '0' ≤ c && c ≤ '9' then c.toNat - 48
  else if 'a' ≤ c && c ≤ 'f' then c.toNat - 87
  else if 'A' ≤ c && c ≤ 'F' then c.toNat - 55
  else 0

/-- The last `width` hexadecimal digits of `n`. -/
def fixed : (width : Nat) → (n : Nat) → List Char
  | 0, _ => []
  | width + 1, n => fixed width (n / 16) ++ [digit (n % 16)]

def fixedUpper : (width : Nat) → (n : Nat) → List Char
  | 0, _ => []
  | width + 1, n => fixedUpper width (n / 16) ++ [upperDigit (n % 16)]

def minimal (n : Nat) : List Char :=
  if n < 16 then [digit n] else minimal (n / 16) ++ [digit (n % 16)]

def value (digits : List Char) : Nat :=
  digits.foldl (fun n c => n * 16 + digitValue c) 0

end Hex

end TrustedAppId
