import TrustedAppId.Identifier
import TrustedAppId.Text.Blank
import TrustedAppId.Text.Digits
/-! Classes of characters as ranges of code points, which decide how they lie to one another. -/
namespace TrustedAppId

theorem Text.char_le_iff {a b : Char} : a ≤ b ↔ a.toNat ≤ b.toNat := UInt32.le_iff_toNat_le

theorem Text.char_eq_iff {a b : Char} : a = b ↔ a.toNat = b.toNat := Char.toNat_inj.symm

/-- What holds of each of the first 128 characters holds of every one that is among them. -/
theorem Text.of_ascii {P : Char → Prop} (each : ∀ n < 128, P (Char.ofNat n)) {c : Char}
    (ascii : c.toNat < 128) : P c := by
  have holds := each c.toNat ascii
  rwa [Char.ofNat_toNat] at holds

/-- A list has all characters of a class within ASCII if it has those of the first 128. -/
theorem Text.mem_iff_of_ascii {cs : List Char} {p : Char → Bool}
    (ascii : ∀ c, p c = true → c.toNat < 128) (only : cs.all p = true)
    (each : ∀ n < 128, p (Char.ofNat n) = true → Char.ofNat n ∈ cs) {c : Char} :
    c ∈ cs ↔ p c = true := by
  constructor
  · exact List.all_eq_true.mp only c
  · intro holds
    exact of_ascii (P := fun c => p c = true → c ∈ cs) each (ascii c holds) holds

theorem Text.toLower_eq_self {c : Char} (large : 128 ≤ c.toNat) : c.toLower = c := by
  refine dif_neg ?_
  rintro ⟨-, last⟩
  have bound : c.toNat ≤ 90 := UInt32.le_iff_toNat_le.mp last
  omega

theorem Text.ascii_of_toLower {c : Char} (ascii : c.toLower.toNat < 128) : c.toNat < 128 := by
  rcases Nat.lt_or_ge c.toNat 128 with small | large
  · exact small
  · rwa [toLower_eq_self large] at ascii

theorem Text.utf8Size_of_ascii {c : Char} (ascii : c.toNat < 128) : c.utf8Size = 1 := by
  rw [Char.utf8Size_eq_one_iff, UInt32.le_iff_toNat_le]
  exact Nat.le_of_lt_succ ascii

theorem Hex.toNat_of_isDigit {c : Char} (h : isDigit c = true) :
    48 ≤ c.toNat ∧ c.toNat ≤ 57 ∨ 97 ≤ c.toNat ∧ c.toNat ≤ 102 ∨
      65 ≤ c.toNat ∧ c.toNat ≤ 70 := by
  simpa [isDigit, Text.char_le_iff, or_assoc] using h

theorem Hex.ascii_of_isDigit {c : Char} (h : isDigit c = true) : c.toNat < 128 := by
  have := toNat_of_isDigit h
  omega

theorem Hex.utf8Size_of_isDigit {c : Char} (h : isDigit c = true) : c.utf8Size = 1 :=
  Text.utf8Size_of_ascii (ascii_of_isDigit h)

theorem Hex.isBlank_of_isDigit {c : Char} (h : isDigit c = true) : Text.isBlank c = false := by
  have := toNat_of_isDigit h
  simp only [Text.isBlank, Bool.or_eq_false_iff, Bool.and_eq_false_iff, decide_eq_false_iff_not,
    beq_eq_false_iff_ne]
  omega

namespace Decimal

theorem toNat_of_isDigit {c : Char} (h : isDigit c = true) : 48 ≤ c.toNat ∧ c.toNat ≤ 57 := by
  simpa [isDigit, Text.char_le_iff] using h

theorem isBlank_of_isDigit {c : Char} (h : isDigit c = true) : Text.isBlank c = false :=
  Hex.isBlank_of_isDigit (by rw [Hex.isDigit, show ('0' ≤ c && c ≤ '9') = true from h]; rfl)

theorem ne_of_isDigit {c d : Char} (h : isDigit c = true) (other : isDigit d = false) : c ≠ d := by
  rintro rfl
  exact Bool.false_ne_true (other.symm.trans h)

end Decimal

namespace Identifier

theorem toNat_of_isPart {c : Char} (h : isPart c = true) :
    97 ≤ c.toNat ∧ c.toNat ≤ 122 ∨ 65 ≤ c.toNat ∧ c.toNat ≤ 90 ∨ c.toNat = 95 ∨
      48 ≤ c.toNat ∧ c.toNat ≤ 57 := by
  simpa [isPart, isLetter, Decimal.isDigit, Text.char_le_iff, Text.char_eq_iff, or_assoc] using h

theorem ascii_of_isPart {c : Char} (h : isPart c = true) : c.toNat < 128 := by
  have := toNat_of_isPart h
  omega

theorem isBlank_of_isPart {c : Char} (h : isPart c = true) : Text.isBlank c = false := by
  have := toNat_of_isPart h
  simp only [Text.isBlank, Bool.or_eq_false_iff, Bool.and_eq_false_iff, decide_eq_false_iff_not,
    beq_eq_false_iff_ne]
  omega

theorem isPart_of_mem {name : List Char} (h : isName name = true) {c : Char} (hc : c ∈ name) :
    isPart c = true := by
  cases name with
  | nil => contradiction
  | cons first rest =>
    rw [isName, Bool.and_eq_true, List.all_eq_true] at h
    rcases List.mem_cons.mp hc with rfl | hc
    · rw [isPart, h.1, Bool.true_or]
    · exact h.2 c hc

/-- A character that cannot be part of a name is not in one. -/
theorem not_mem_of_isName {name : List Char} (h : isName name = true) {c : Char}
    (hc : isPart c = false) : c ∉ name := by
  intro mem
  rw [isPart_of_mem h mem] at hc
  contradiction

end Identifier

end TrustedAppId
