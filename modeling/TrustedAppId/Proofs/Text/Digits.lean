import TrustedAppId.Text.Digits
/-! Numbers written in digits read back. A `Numerals` is a base with one character for each of its
digits; lower-case and capital hexadecimal and decimal digits are three of them, and the writers
and readers of `Hex` and `Decimal` are those of their numerals. -/
namespace TrustedAppId

structure Numerals where
  base : Nat
  digit : Nat → Char
  digitValue : Char → Nat
  isDigit : Char → Bool
  base_large : 1 < base
  isDigit_digit : ∀ n < base, isDigit (digit n) = true
  digitValue_digit : ∀ n < base, digitValue (digit n) = n

namespace Numerals

variable (s : Numerals)

def fixed : (width : Nat) → (n : Nat) → List Char
  | 0, _ => []
  | width + 1, n => fixed width (n / s.base) ++ [s.digit (n % s.base)]

def minimal (n : Nat) : List Char :=
  if n < s.base then [s.digit n] else minimal (n / s.base) ++ [s.digit (n % s.base)]
termination_by n
decreasing_by
  have := s.base_large
  exact Nat.div_lt_self (by omega) this

def value (digits : List Char) : Nat :=
  digits.foldl (fun n c => n * s.base + s.digitValue c) 0

variable {s}

theorem mod_base_lt (n : Nat) : n % s.base < s.base :=
  Nat.mod_lt _ (Nat.lt_trans (by decide) s.base_large)

@[simp] theorem value_nil : s.value [] = 0 := rfl

theorem value_append_singleton (ds : List Char) (d : Char) :
    s.value (ds ++ [d]) = s.value ds * s.base + s.digitValue d := by
  simp [value]

@[simp] theorem length_fixed (width n : Nat) : (s.fixed width n).length = width := by
  induction width generalizing n with
  | zero => rfl
  | succ width ih => simp [fixed, ih]

theorem value_fixed (width n : Nat) : s.value (s.fixed width n) = n % Nat.pow s.base width := by
  induction width generalizing n with
  | zero => simp [fixed, Nat.mod_one]
  | succ width ih =>
    have next : Nat.pow s.base (width + 1) = s.base * Nat.pow s.base width := Nat.mul_comm _ _
    rw [fixed, value_append_singleton, ih, s.digitValue_digit _ (mod_base_lt n), next, Nat.mod_mul,
      Nat.mul_comm s.base]
    exact Nat.add_comm _ _

theorem exists_of_mem_fixed {width n : Nat} {c : Char} (h : c ∈ s.fixed width n) :
    ∃ k < s.base, s.digit k = c := by
  induction width generalizing n with
  | zero => simp [fixed] at h
  | succ width ih =>
    rw [fixed, List.mem_append, List.mem_singleton] at h
    rcases h with h | rfl
    · exact ih h
    · exact ⟨_, mod_base_lt n, rfl⟩

theorem isDigit_of_mem_fixed {width n : Nat} {c : Char} (h : c ∈ s.fixed width n) :
    s.isDigit c = true := by
  obtain ⟨k, small, rfl⟩ := exists_of_mem_fixed h
  exact s.isDigit_digit k small

theorem value_minimal (n : Nat) : s.value (s.minimal n) = n := by
  fun_induction minimal s n with
  | case1 n small => simp [value, s.digitValue_digit n small]
  | case2 n large ih =>
    rw [value_append_singleton, ih, s.digitValue_digit _ (mod_base_lt n)]
    exact Nat.div_add_mod' n s.base

theorem exists_of_mem_minimal {n : Nat} {c : Char} (h : c ∈ s.minimal n) :
    ∃ k < s.base, s.digit k = c := by
  fun_induction minimal s n with
  | case1 n small =>
    rw [List.mem_singleton] at h
    exact ⟨n, small, h.symm⟩
  | case2 n large ih =>
    rw [List.mem_append, List.mem_singleton] at h
    rcases h with h | rfl
    · exact ih h
    · exact ⟨_, mod_base_lt n, rfl⟩

theorem isDigit_of_mem_minimal {n : Nat} {c : Char} (h : c ∈ s.minimal n) :
    s.isDigit c = true := by
  obtain ⟨k, small, rfl⟩ := exists_of_mem_minimal h
  exact s.isDigit_digit k small

theorem minimal_ne_nil (n : Nat) : s.minimal n ≠ [] := by
  rw [minimal]
  split <;> simp

/-- Only zero is written with a leading zero. -/
theorem minimal_leading {n : Nat} {rest : List Char} (h : s.minimal n = s.digit 0 :: rest) :
    rest = [] := by
  fun_induction minimal s n generalizing rest with
  | case1 n small => exact ((List.cons.inj h).2).symm
  | case2 n large ih =>
    cases front : s.minimal (n / s.base) with
    | nil => exact absurd front (minimal_ne_nil _)
    | cons c more =>
      rw [front, List.cons_append] at h
      obtain ⟨rfl, -⟩ := List.cons.inj h
      have alone := ih front
      have zero := value_minimal (s := s) (n / s.base)
      have positive := Nat.div_pos (Nat.le_of_not_lt large) (Nat.lt_trans (by decide) s.base_large)
      rw [front, alone, value, List.foldl_cons, List.foldl_nil,
        s.digitValue_digit 0 (Nat.lt_trans (by decide) s.base_large), Nat.zero_mul] at zero
      omega

/-- The digits of a number in two parts are those of the first part and then those of the second,
as many as that part has room for. -/
theorem fixed_append (a x : Nat) {b y : Nat} (small : y < Nat.pow s.base b) :
    s.fixed (a + b) (x * Nat.pow s.base b + y) = s.fixed a x ++ s.fixed b y := by
  induction b generalizing y with
  | zero =>
    obtain rfl : y = 0 := Nat.lt_one_iff.mp small
    have one : Nat.pow s.base 0 = 1 := rfl
    rw [Nat.add_zero, one, Nat.mul_one, Nat.add_zero, fixed, List.append_nil]
  | succ b ih =>
    have positive : 0 < s.base := Nat.lt_trans (by decide) s.base_large
    have next : Nat.pow s.base (b + 1) = s.base * Nat.pow s.base b := Nat.mul_comm _ _
    rw [next] at small ⊢
    rw [← Nat.add_assoc, fixed, fixed, Nat.mul_left_comm, Nat.mul_add_div positive, Nat.mul_add_mod,
      ih (Nat.div_lt_of_lt_mul small), List.append_assoc]

theorem fixed_zero (width : Nat) : s.fixed width 0 = List.replicate width (s.digit 0) := by
  induction width with
  | zero => rfl
  | succ width ih => rw [fixed, Nat.zero_div, ih, Nat.zero_mod, List.replicate_succ']

/-- Leading zeros make up for the difference between the two ways of writing. -/
theorem leftpad_minimal {width n : Nat} (some : 0 < width) (small : n < Nat.pow s.base width) :
    (s.minimal n).leftpad width (s.digit 0) = s.fixed width n := by
  induction width generalizing n with
  | zero => exact absurd some (Nat.lt_irrefl 0)
  | succ width ih =>
    rw [minimal, fixed]
    split
    · next lone =>
      rw [Nat.div_eq_of_lt lone, Nat.mod_eq_of_lt lone, fixed_zero, List.leftpad,
        List.length_singleton, Nat.add_sub_cancel]
    · next large =>
      have next : Nat.pow s.base (width + 1) = s.base * Nat.pow s.base width := Nat.mul_comm _ _
      have rest : n / s.base < Nat.pow s.base width := Nat.div_lt_of_lt_mul (next ▸ small)
      have positive : 0 < n / s.base :=
        Nat.div_pos (Nat.le_of_not_lt large) (Nat.lt_trans (by decide) s.base_large)
      have some : 0 < width := by
        rcases Nat.eq_zero_or_pos width with rfl | some
        · exact absurd rest (Nat.not_lt.mpr positive)
        · exact some
      rw [← ih some rest, List.leftpad, List.leftpad, List.length_append, List.length_singleton,
        Nat.add_sub_add_right, List.append_assoc]

end Numerals

namespace Hex

def lower : Numerals where
  base := 16
  digit := digit
  digitValue := digitValue
  isDigit := isDigit
  base_large := by decide
  isDigit_digit := by decide
  digitValue_digit := by decide

def upper : Numerals where
  base := 16
  digit := upperDigit
  digitValue := digitValue
  isDigit := isDigit
  base_large := by decide
  isDigit_digit := by decide
  digitValue_digit := by decide

theorem fixed_eq (width n : Nat) : fixed width n = lower.fixed width n := by
  induction width generalizing n with
  | zero => rfl
  | succ width ih =>
    rw [fixed, Numerals.fixed, ih]
    rfl

theorem fixedUpper_eq (width n : Nat) : fixedUpper width n = upper.fixed width n := by
  induction width generalizing n with
  | zero => rfl
  | succ width ih =>
    rw [fixedUpper, Numerals.fixed, ih]
    rfl

@[simp] theorem length_fixedUpper (width n : Nat) : (fixedUpper width n).length = width := by
  rw [fixedUpper_eq, Numerals.length_fixed]

theorem value_fixedUpper {width n : Nat} (h : n < Nat.pow 16 width) :
    value (fixedUpper width n) = n := by
  rw [fixedUpper_eq]
  exact (Numerals.value_fixed (s := upper) width n).trans (Nat.mod_eq_of_lt h)

theorem isDigit_of_mem_fixedUpper {width n : Nat} {c : Char} (h : c ∈ fixedUpper width n) :
    isDigit c = true := by
  rw [fixedUpper_eq] at h
  exact Numerals.isDigit_of_mem_fixed (s := upper) h

theorem minimal_eq (n : Nat) : minimal n = lower.minimal n := by
  fun_induction minimal n with
  | case1 n small =>
    rw [Numerals.minimal, if_pos (show n < lower.base from small)]
    rfl
  | case2 n large ih =>
    rw [Numerals.minimal, if_neg (show ¬ n < lower.base from large), ih]
    rfl

@[simp] theorem length_fixed (width n : Nat) : (fixed width n).length = width := by
  rw [fixed_eq, Numerals.length_fixed]

theorem value_fixed {width n : Nat} (h : n < Nat.pow 16 width) : value (fixed width n) = n := by
  rw [fixed_eq]
  exact (Numerals.value_fixed (s := lower) width n).trans (Nat.mod_eq_of_lt h)

theorem value_minimal (n : Nat) : value (minimal n) = n := by
  rw [minimal_eq]
  exact Numerals.value_minimal (s := lower) n

theorem isDigit_of_mem_fixed {width n : Nat} {c : Char} (h : c ∈ fixed width n) :
    isDigit c = true := by
  rw [fixed_eq] at h
  exact Numerals.isDigit_of_mem_fixed (s := lower) h

theorem isDigit_of_mem_minimal {n : Nat} {c : Char} (h : c ∈ minimal n) : isDigit c = true := by
  rw [minimal_eq] at h
  exact Numerals.isDigit_of_mem_minimal (s := lower) h

/-- The digits that are written. -/
def lowerDigits : List Char := "0123456789abcdef".toList

theorem digit_mem_lowerDigits : ∀ n < 16, digit n ∈ lowerDigits := by decide

theorem mem_lowerDigits_of_mem_fixed {width n : Nat} {c : Char} (h : c ∈ fixed width n) :
    c ∈ lowerDigits := by
  rw [fixed_eq] at h
  obtain ⟨k, small, rfl⟩ := Numerals.exists_of_mem_fixed h
  exact digit_mem_lowerDigits k small

theorem mem_lowerDigits_of_mem_minimal {n : Nat} {c : Char} (h : c ∈ minimal n) :
    c ∈ lowerDigits := by
  rw [minimal_eq] at h
  obtain ⟨k, small, rfl⟩ := Numerals.exists_of_mem_minimal h
  exact digit_mem_lowerDigits k small

theorem minimal_ne_nil (n : Nat) : minimal n ≠ [] := by
  rw [minimal_eq]
  exact Numerals.minimal_ne_nil n

theorem minimal_leading {n : Nat} {rest : List Char} (h : minimal n = '0' :: rest) : rest = [] := by
  rw [minimal_eq] at h
  exact Numerals.minimal_leading h

theorem minimal_cases (n : Nat) :
    minimal n = ['0'] ∨ ∃ first rest, minimal n = first :: rest ∧ first ≠ '0' := by
  cases shape : minimal n with
  | nil => exact absurd shape (minimal_ne_nil n)
  | cons first rest =>
    by_cases zero : first = '0'
    · subst zero
      rw [minimal_leading shape]
      exact .inl rfl
    · exact .inr ⟨first, rest, rfl, zero⟩

theorem leftpad_minimal {width n : Nat} (some : 0 < width) (small : n < Nat.pow 16 width) :
    (minimal n).leftpad width '0' = fixed width n := by
  rw [minimal_eq, fixed_eq]
  exact @Numerals.leftpad_minimal lower width n some small

theorem toNat_append {m n : Nat} (x : BitVec m) (y : BitVec n) :
    (x ++ y).toNat = x.toNat * Nat.pow 2 n + y.toNat := by
  rw [BitVec.toNat_append, ← Nat.shiftLeft_add_eq_or_of_lt y.isLt, Nat.shiftLeft_eq]
  rfl

/-- The second part is written in full if it has four bits for each of its digits. -/
theorem fixed_append {m n : Nat} (a b : Nat) (x : BitVec m) (y : BitVec n) (room : n = 4 * b) :
    fixed (a + b) (x ++ y).toNat = fixed a x.toNat ++ fixed b y.toNat := by
  have power : Nat.pow 2 n = Nat.pow lower.base b := by
    rw [room]
    exact Nat.pow_mul 2 4 b
  have small : y.toNat < Nat.pow lower.base b := power ▸ y.isLt
  rw [toNat_append, power, fixed_eq, fixed_eq, fixed_eq, Numerals.fixed_append a x.toNat small]

end Hex

namespace Decimal

def numerals : Numerals where
  base := 10
  digit n := Char.ofNat (48 + n)
  digitValue := digitValue
  isDigit := isDigit
  base_large := by decide
  isDigit_digit := by decide
  digitValue_digit := by decide

theorem fixed_eq (width n : Nat) : fixed width n = numerals.fixed width n := by
  induction width generalizing n with
  | zero => rfl
  | succ width ih =>
    rw [fixed, Numerals.fixed, ih]
    rfl

theorem minimal_eq (n : Nat) : minimal n = numerals.minimal n := by
  fun_induction minimal n with
  | case1 n small =>
    rw [Numerals.minimal, if_pos (show n < numerals.base from small)]
    rfl
  | case2 n large ih =>
    rw [Numerals.minimal, if_neg (show ¬ n < numerals.base from large), ih]
    rfl

@[simp] theorem length_fixed (width n : Nat) : (fixed width n).length = width := by
  rw [fixed_eq, Numerals.length_fixed]

theorem value_fixed {width n : Nat} (h : n < Nat.pow 10 width) : value (fixed width n) = n := by
  rw [fixed_eq]
  exact (Numerals.value_fixed (s := numerals) width n).trans (Nat.mod_eq_of_lt h)

theorem value_minimal (n : Nat) : value (minimal n) = n := by
  rw [minimal_eq]
  exact Numerals.value_minimal (s := numerals) n

theorem isDigit_of_mem_fixed {width n : Nat} {c : Char} (h : c ∈ fixed width n) :
    isDigit c = true := by
  rw [fixed_eq] at h
  exact Numerals.isDigit_of_mem_fixed (s := numerals) h

theorem isDigit_of_mem_minimal {n : Nat} {c : Char} (h : c ∈ minimal n) : isDigit c = true := by
  rw [minimal_eq] at h
  exact Numerals.isDigit_of_mem_minimal (s := numerals) h

theorem minimal_ne_nil (n : Nat) : minimal n ≠ [] := by
  rw [minimal_eq]
  exact Numerals.minimal_ne_nil n

theorem minimal_leading {n : Nat} {rest : List Char} (h : minimal n = '0' :: rest) : rest = [] := by
  rw [minimal_eq] at h
  exact Numerals.minimal_leading h

theorem toDigits_eq (n : Nat) : Nat.toDigits 10 n = minimal n := by
  have digit (k : Nat) (small : k < 10) : k.digitChar = Char.ofNat (48 + k) := by
    revert k
    decide
  fun_induction minimal n with
  | case1 n small => rw [Nat.toDigits_of_lt_base small, digit n small]
  | case2 n large ih =>
    rw [Nat.toDigits_of_base_le (by decide) (Nat.le_of_not_lt large), ih,
      digit _ (Nat.mod_lt _ (by decide))]

theorem toList_toString (n : Nat) : (toString n).toList = minimal n := by
  rw [Nat.toString_eq_ofList_toDigits, String.toList_ofList, toDigits_eq]

end Decimal

end TrustedAppId
