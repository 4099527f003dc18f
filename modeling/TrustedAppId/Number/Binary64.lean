/-! Finite binary64 numbers in exact arithmetic. `ofDecimal?` rounds a decimal to the nearest one,
ties to the even significand, and refuses what rounds beyond the largest. `shortest` finds the
fewest decimal digits that read back as the same number and, among those, the nearest to it. -/
namespace TrustedAppId

/-- The number `significand * 2 ^ exponent`, negated if `negative`. -/
structure Binary64 where
  negative : Bool
  significand : Nat
  exponent : Int
deriving DecidableEq

namespace Binary64

def leastExponent : Int := -1074

def greatestExponent : Int := 971

def zero (negative : Bool) : Binary64 := ⟨negative, 0, leastExponent⟩

/-- `num / den`, rounded to the nearest integer, a half to the even neighbour. -/
def roundHalfEven (num den : Nat) : Nat :=
  let quotient := num / den
  let twice := 2 * (num % den)
  if twice < den then quotient
  else if den < twice then quotient + 1
  else quotient + quotient % 2

/-- `num / (den * 2 ^ power)` as a fraction of naturals. -/
def overPower (num den : Nat) (power : Int) : Nat × Nat :=
  if 0 ≤ power then (num, den * Nat.pow 2 power.toNat) else (num * Nat.pow 2 (-power).toNat, den)

/-- The binary64 number nearest to the positive fraction `num / den`. -/
def ofFraction? (negative : Bool) (num den : Nat) : Option Binary64 :=
  let low : Int := (num.log2 : Int) - den.log2 - 53
  let (n, d) := overPower num den low
  let exponent := max (if Nat.pow 2 53 ≤ n / d then low + 1 else low) leastExponent
  let (n, d) := overPower num den exponent
  let rounded := roundHalfEven n d
  let (significand, exponent) :=
    if rounded = Nat.pow 2 53 then (Nat.pow 2 52, exponent + 1) else (rounded, exponent)
  if greatestExponent < exponent then none else some ⟨negative, significand, exponent⟩

/-- The binary64 number nearest to `digits * 10 ^ exponent`. Exponents out of reach are settled
first, so that no huge power is computed. -/
def ofDecimal? (negative : Bool) (digits : Nat) (exponent : Int) : Option Binary64 :=
  let magnitude := (Nat.toDigits 10 digits).length + exponent
  if digits = 0 ∨ magnitude < -330 then some (zero negative)
  else if 310 < magnitude then none
  else if 0 ≤ exponent then ofFraction? negative (digits * Nat.pow 10 exponent.toNat) 1
  else ofFraction? negative digits (Nat.pow 10 (-exponent).toNat)

/-- A positive decimal `0.d₁d₂… * 10 ^ point` whose digits neither begin nor end with zero. -/
structure Decimal where
  digits : List Char
  point : Int
deriving DecidableEq

/-- `a * 2 ^ p ≤ b * 10 ^ q`, or `<` if `strict`. -/
def belowGrid (strict : Bool) (a : Nat) (p : Int) (b : Nat) (q : Int) : Bool :=
  let left := a * Nat.pow 2 p.toNat * Nat.pow 10 (-q).toNat
  let right := b * Nat.pow 10 q.toNat * Nat.pow 2 (-p).toNat
  if strict then left < right else left ≤ right

def aboveGrid (strict : Bool) (b : Nat) (q : Int) (a : Nat) (p : Int) : Bool :=
  let left := b * Nat.pow 10 q.toNat * Nat.pow 2 (-p).toNat
  let right := a * Nat.pow 2 p.toNat * Nat.pow 10 (-q).toNat
  if strict then left < right else left ≤ right

/-- Reads back as `x`: lies in the interval of numbers that round to `x`, whose ends belong to it
when the significand is even. -/
def readsBack (x : Binary64) (digits : Nat) (power : Int) : Bool :=
  let quarter := x.exponent - 2
  let strict := x.significand % 2 = 1
  let lower := 4 * x.significand -
    (if x.significand = Nat.pow 2 52 ∧ leastExponent < x.exponent then 1 else 2)
  belowGrid strict lower quarter digits power &&
    aboveGrid strict digits power (4 * x.significand + 2) quarter

/-- `x / 10 ^ power` as a fraction of naturals. -/
def overTenPower (x : Binary64) (power : Int) : Nat × Nat :=
  (x.significand * Nat.pow 2 x.exponent.toNat * Nat.pow 10 (-power).toNat,
    Nat.pow 10 power.toNat * Nat.pow 2 (-x.exponent).toNat)

/-- The point `p` with `10 ^ (p - 1) ≤ x < 10 ^ p`, for a positive `x`. -/
def decimalPoint (x : Binary64) : Int :=
  let (n, d) := overTenPower x 0
  if d ≤ n then (Nat.toDigits 10 (n / d)).length
  else
    let inverse := d / n
    let guess : Int := 1 - (Nat.toDigits 10 inverse).length
    let (n, d) := overTenPower x guess
    if d ≤ n then guess + 1 else guess

/-- Tries grids of `count`, `count + 1`, … digits; `left` bounds the number of tries. -/
def firstGrid (x : Binary64) (point : Int) : (left count : Nat) → Nat × Int
  | 0, count =>
    let power := point - count
    let (n, d) := overTenPower x power
    (roundHalfEven n d, power)
  | left + 1, count =>
    let power := point - count
    let (n, d) := overTenPower x power
    let below := n / d
    match readsBack x below power, readsBack x (below + 1) power with
    | true, true => (roundHalfEven n d, power)
    | true, false => (below, power)
    | false, true => (below + 1, power)
    | false, false => firstGrid x point left (count + 1)

def dropZeros (cs : List Char) : List Char := (cs.reverse.dropWhile (· = '0')).reverse

def shortest (x : Binary64) : Decimal :=
  if x.significand = 0 then ⟨[], 0⟩
  else
    let (digits, power) := firstGrid x x.decimalPoint 16 1
    let cs := Nat.toDigits 10 digits
    ⟨dropZeros cs, cs.length + power⟩

/-- How a decimal is laid out: for which places of the point without an exponent, and whether a
positive exponent has a sign. -/
structure Layout where
  positional : Int → Bool
  plus : Bool

/-- Digits with a point in place, and at least one digit on either side of it. -/
def positionalText (x : Decimal) : List Char :=
  let count : Int := x.digits.length
  if x.point ≤ 0 then ['0', '.'] ++ List.replicate (-x.point).toNat '0' ++
    (if x.digits.isEmpty then ['0'] else x.digits)
  else if count ≤ x.point then
    x.digits ++ List.replicate (x.point - count).toNat '0' ++ ['.', '0']
  else x.digits.take x.point.toNat ++ '.' :: x.digits.drop x.point.toNat

def scientificText (plus : Bool) (x : Decimal) : List Char :=
  let power := x.point - 1
  let mark := if power < 0 then ['-'] else if plus then ['+'] else []
  x.digits.take 1 ++ (if x.digits.length ≤ 1 then [] else '.' :: x.digits.drop 1) ++
    'e' :: mark ++ Nat.toDigits 10 power.natAbs

def Layout.write (layout : Layout) (x : Binary64) : String :=
  let decimal := x.shortest
  let body :=
    if layout.positional decimal.point then positionalText decimal
    else scientificText layout.plus decimal
  String.ofList (if x.negative then '-' :: body else body)

end TrustedAppId.Binary64
