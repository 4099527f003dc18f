import Mathlib.Data.Nat.Digits.Defs
import TrustedAppId.Proofs.Uuid.RoundTrip
/-! The sixteen octets of an identifier. They are the digits of its number to the base 256, the most
significant one first, and its fields are runs of them in this order. -/
namespace TrustedAppId

namespace Octets

/-- The last `count` octets of `n`, the most significant one first. -/
def fixed : (count n : Nat) → List (BitVec 8)
  | 0, _ => []
  | count + 1, n => fixed count (n / 256) ++ [BitVec.ofNat 8 n]

/-- The number that octets write, the most significant one first. -/
def value (octets : List (BitVec 8)) : Nat := Nat.ofDigits 256 (octets.reverse.map BitVec.toNat)

@[simp] theorem length_fixed (count n : Nat) : (fixed count n).length = count := by
  induction count generalizing n with
  | zero => rfl
  | succ count ih => simp [fixed, ih]

theorem value_append_singleton (octets : List (BitVec 8)) (b : BitVec 8) :
    value (octets ++ [b]) = b.toNat + 256 * value octets := by
  rw [value, List.reverse_append, List.reverse_singleton, List.singleton_append, List.map_cons,
    Nat.ofDigits_cons, value]

theorem value_fixed (count n : Nat) : value (fixed count n) = n % 256 ^ count := by
  induction count generalizing n with
  | zero => exact (Nat.mod_one n).symm
  | succ count ih =>
    have last : (BitVec.ofNat 8 n).toNat = n % 256 := BitVec.toNat_ofNat n 8
    rw [fixed, value_append_singleton, ih, last, Nat.pow_succ', Nat.mod_mul]

/-- The octets in front of the last `b` ones are those of the number without these. -/
theorem fixed_add (a b n : Nat) : fixed (a + b) n = fixed a (n / 256 ^ b) ++ fixed b n := by
  induction b generalizing n with
  | zero => rw [Nat.add_zero, Nat.pow_zero, Nat.div_one, fixed, List.append_nil]
  | succ b ih =>
    rw [← Nat.add_assoc, fixed, ih, fixed, Nat.pow_succ', Nat.div_div_eq_div_mul,
      List.append_assoc]

/-- A run of `b` octets with `c` of them behind it. -/
theorem take_drop_fixed (a b c n : Nat) :
    ((fixed (a + b + c) n).drop a).take b = fixed b (n / 256 ^ c) := by
  rw [fixed_add, fixed_add, List.append_assoc, List.drop_left' (length_fixed a _),
    List.take_left' (length_fixed b _)]

theorem fixed_eq_map (count n : Nat) : fixed count n =
    (List.range count).map fun i => BitVec.ofNat 8 (n / 256 ^ (count - 1 - i)) := by
  induction count generalizing n with
  | zero => rfl
  | succ count ih =>
    rw [fixed, ih, List.range_succ, List.map_append, List.map_singleton, Nat.add_sub_cancel,
      Nat.sub_self, Nat.pow_zero, Nat.div_one]
    congr 1
    apply List.map_congr_left
    intro i mem
    have before : count - i = count - 1 - i + 1 := by
      have := List.mem_range.mp mem
      omega
    rw [before, Nat.pow_succ', Nat.div_div_eq_div_mul]

end Octets

namespace Uuid

def octets (u : Uuid) : List (BitVec 8) := Octets.fixed 16 u.value.toNat

/-- Bits in whole octets write the run of octets that has as many octets behind it as the bits. -/
theorem toNat_extractLsb' (u : Uuid) {start width before count behind : Nat}
    (total : before + count + behind = 16) (place : start = 8 * behind) (bits : width = 8 * count) :
    (u.value.extractLsb' start width).toNat =
      Octets.value ((u.octets.drop before).take count) := by
  have base (k : Nat) : 256 ^ k = 2 ^ (8 * k) := (Nat.pow_mul 2 8 k).symm
  rw [octets, ← total, Octets.take_drop_fixed, Octets.value_fixed, base, base, place, bits,
    BitVec.extractLsb'_toNat, Nat.shiftRight_eq_div_pow]

theorem octet_trailing (u : Uuid) {i : Nat} (bound : i < 8) :
    Fields.octet u (8 + i) = BitVec.ofNat 8 (u.value.toNat / 256 ^ (7 - i)) := by
  have base : 256 ^ (7 - i) = 2 ^ (8 * (7 - i)) := (Nat.pow_mul 2 8 (7 - i)).symm
  have place : 120 - 8 * (8 + i) = 8 * (7 - i) := by omega
  rw [Fields.octet, place, base, ← Nat.shiftRight_eq_div_pow]
  rfl

theorem drop_octets (u : Uuid) : u.octets.drop 8 = (Fields.ofUuid u).clockSeqAndNode.toList := by
  have leading : (Octets.fixed 8 (u.value.toNat / 256 ^ 8)).length = 8 := Octets.length_fixed 8 _
  have trailing : (Fields.ofUuid u).clockSeqAndNode.toList =
      (List.range 8).map fun i => Fields.octet u (8 + i) := rfl
  rw [octets, Octets.fixed_add 8 8, List.drop_left' leading, Octets.fixed_eq_map, trailing]
  apply List.map_congr_left
  intro i mem
  exact (u.octet_trailing (List.mem_range.mp mem)).symm

end Uuid

namespace Fields

/-- The octets of `u` are sixteen and write its number. The fields in their order, each with its
most significant octet first, are all of them. -/
structure Arranges (f : Fields) (u : Uuid) (octets : List (BitVec 8)) : Prop where
  count : octets.length = 16
  number : Octets.value octets = u.value.toNat
  timeLow : f.timeLow.toNat = Octets.value (octets.take 4)
  timeMid : f.timeMid.toNat = Octets.value ((octets.drop 4).take 2)
  timeHiAndVersion : f.timeHiAndVersion.toNat = Octets.value ((octets.drop 6).take 2)
  trailing : f.clockSeqHiAndReserved :: f.clockSeqLow :: f.node = octets.drop 8

theorem arranges_ofUuid (u : Uuid) : (ofUuid u).Arranges u u.octets where
  count := Octets.length_fixed 16 _
  number := by
    rw [Uuid.octets, Octets.value_fixed]
    exact Nat.mod_eq_of_lt u.value.isLt
  timeLow := @u.toNat_extractLsb' 96 32 0 4 12 rfl rfl rfl
  timeMid := @u.toNat_extractLsb' 80 16 4 2 10 rfl rfl rfl
  timeHiAndVersion := @u.toNat_extractLsb' 64 16 6 2 8 rfl rfl rfl
  trailing := by
    obtain ⟨_, _, _, _, _, _, _, _, same, first, second, node⟩ := (ofUuid u).exists_octets
    rw [u.drop_octets, same, first, second, node]
    rfl

/-- Identifiers and fields are the same but for their form, and the fields are the octets of the
identifier in their order. -/
theorem view_bijective :
    (∀ u : Uuid, (ofUuid u).toUuid = u) ∧ (∀ f : Fields, ofUuid f.toUuid = f) ∧
      ∀ u : Uuid, (ofUuid u).Arranges u u.octets :=
  ⟨toUuid_ofUuid, ofUuid_toUuid, arranges_ofUuid⟩

end Fields

end TrustedAppId
