import TrustedAppId.Text.Digits
/-! Universally unique identifiers: 128 bits, written as 32 lower-case digits in groups of 8, 4, 4,
4 and 12. An identifier is random when its version is 4 and its variant is that of RFC 4122. -/
namespace TrustedAppId

structure Uuid where
  value : BitVec 128
deriving DecidableEq

namespace Uuid

/-- The four bits that name the scheme by which an identifier was made. -/
def version (u : Uuid) : BitVec 4 := u.value.extractLsb' 76 4

/-- The top two bits of the ninth octet; they are `10` in the layout of RFC 4122. -/
def variant (u : Uuid) : BitVec 2 := u.value.extractLsb' 62 2

def isRandom (u : Uuid) : Bool := u.version == 4#4 && u.variant == 2#2

/-- The random identifier with the version and variant of RFC 4122 and all else from `bits`. -/
def ofRandomBits (bits : BitVec 128) : Uuid :=
  ⟨bits.extractLsb' 80 48 ++ 4#4 ++ bits.extractLsb' 64 12 ++ 2#2 ++ bits.extractLsb' 0 62⟩

/-- All 32 digits, most significant first. -/
def digits (u : Uuid) : List Char := Hex.fixed 32 u.value.toNat

/-- Hyphens after the digits 8, 12, 16 and 20. -/
def hyphenate (ds : List Char) : List Char :=
  ds.take 8 ++ '-' :: ((ds.drop 8).take 4 ++ '-' :: ((ds.drop 12).take 4 ++
    '-' :: ((ds.drop 16).take 4 ++ '-' :: ds.drop 20)))

/-- The canonical spelling. -/
def chars (u : Uuid) : List Char := hyphenate u.digits

def text (u : Uuid) : String := String.ofList u.chars

instance : ToString Uuid := ⟨text⟩

end TrustedAppId.Uuid
