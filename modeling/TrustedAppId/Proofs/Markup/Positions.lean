import TrustedAppId.Markup.Spelling
import TrustedAppId.Proofs.Text.Characters
/-! Places behind stretches of text. Spelling writes printable characters only; among them a space is
the only spacing, and every line break stands for itself. -/
namespace TrustedAppId.Markup

variable {c : Char}

theorem isBreak_iff : isBreak c = true ↔ c.toNat = 0x0d ∨ c.toNat = 0x0a ∨ c.toNat = 0x85 ∨
    c.toNat = 0x2028 ∨ c.toNat = 0x2029 := by
  simp [isBreak, Text.char_eq_iff, or_assoc]

theorem isSpacing_iff : isSpacing c = true ↔ c.toNat = 0x20 ∨ c.toNat = 0x09 := by
  simp [isSpacing, Text.char_eq_iff]

theorem isPrintable_iff : isPrintable c = true ↔ c.toNat = 0x0a ∨
    (0x20 ≤ c.toNat ∧ c.toNat ≤ 0x7e) ∨ (0xa0 ≤ c.toNat ∧ c.toNat ≤ 0xd7ff) ∨
    ((0xe000 ≤ c.toNat ∧ c.toNat ≤ 0xfffd) ∧ c.toNat ≠ 0xfeff) ∨ 0x10000 ≤ c.toNat := by
  simp [isPrintable, or_assoc]

theorem isAllowed_of_isPrintable (h : isPrintable c = true) : isAllowed c = true := by
  have := isPrintable_iff.mp h
  simp only [isAllowed, Bool.or_eq_true, Bool.and_eq_true, beq_iff_eq, decide_eq_true_eq]
  omega

theorem eq_space_of_isSpacing (h : isPrintable c = true) (spacing : isSpacing c = true) :
    c = ' ' := by
  have := isPrintable_iff.mp h
  have := isSpacing_iff.mp spacing
  rw [Text.char_eq_iff]
  change c.toNat = 32
  omega

theorem breakText_of_isPrintable (h : isPrintable c = true) (breaks : isBreak c = true) :
    breakText c = c := by
  have := isPrintable_iff.mp h
  have := isBreak_iff.mp breaks
  unfold breakText
  split
  · rfl
  · next other =>
    simp only [Text.char_eq_iff, Bool.or_eq_true, decide_eq_true_eq, Char.reduceToNat] at other ⊢
    omega

theorem not_carriageReturn (h : isPrintable c = true) : c ≠ '\r' := by
  rintro rfl
  contradiction

theorem isSpacing_of_isBreak (h : isBreak c = true) : isSpacing c = false := by
  have := isBreak_iff.mp h
  rw [← Bool.not_eq_true, isSpacing_iff]
  omega

/-- The place behind a stretch of text that holds no carriage return. -/
def Position.through (p : Position) : List Char → Position
  | [] => p
  | c :: rest => (if isBreak c then p.nextLine c.utf8Size else p.next c).through rest

/-- How many octets a text takes. -/
def octets (cs : List Char) : Nat := cs.foldr (fun c n => c.utf8Size + n) 0

namespace Position

variable {p : Position} {cs ds : List Char}

@[simp] theorem through_nil (p : Position) : p.through [] = p := rfl

theorem through_cons_of_isBreak (h : isBreak c = true) (p : Position) (cs : List Char) :
    p.through (c :: cs) = (p.nextLine c.utf8Size).through cs := by
  rw [through, if_pos h]

theorem through_cons (h : isBreak c = false) (p : Position) (cs : List Char) :
    p.through (c :: cs) = (p.next c).through cs := by
  rw [through, h]
  rfl

theorem through_append (p : Position) (cs ds : List Char) :
    p.through (cs ++ ds) = (p.through cs).through ds := by
  induction cs generalizing p with
  | nil => rfl
  | cons c rest ih => exact ih _

theorem index_through (p : Position) (cs : List Char) :
    (p.through cs).index = p.index + octets cs := by
  induction cs generalizing p with
  | nil => rfl
  | cons c rest ih =>
    rw [through, ih]
    simp only [octets, List.foldr_cons]
    split <;> simp [next, nextLine, Nat.add_assoc]

theorem line_le_through (p : Position) (cs : List Char) : p.line ≤ (p.through cs).line := by
  induction cs generalizing p with
  | nil => exact Nat.le_refl _
  | cons c rest ih =>
    refine Nat.le_trans ?_ (ih _)
    split <;> simp [next, nextLine]

theorem line_through (h : cs.any isBreak = false) (p : Position) :
    (p.through cs).line = p.line := by
  induction cs generalizing p with
  | nil => rfl
  | cons c rest ih =>
    rw [List.any_cons, Bool.or_eq_false_iff] at h
    rw [through_cons h.1, ih h.2]
    rfl

theorem line_lt_through (h : cs.any isBreak = true) (p : Position) :
    p.line < (p.through cs).line := by
  induction cs generalizing p with
  | nil => contradiction
  | cons c rest ih =>
    cases breaks : isBreak c with
    | true =>
      rw [through_cons_of_isBreak breaks]
      exact line_le_through (p.nextLine c.utf8Size) rest
    | false =>
      rw [List.any_cons, breaks, Bool.false_or] at h
      rw [through_cons breaks]
      exact ih h (p.next c)

theorem column_through (h : cs.any isBreak = false) (p : Position) :
    (p.through cs).column = p.column + cs.length := by
  induction cs generalizing p with
  | nil => rfl
  | cons c rest ih =>
    rw [List.any_cons, Bool.or_eq_false_iff] at h
    rw [through_cons h.1, ih h.2, List.length_cons]
    simp only [next]
    omega

end Position

/-! Indentation. -/

@[simp] theorem spaces_zero : spaces 0 = [] := rfl

theorem spaces_succ (n : Nat) : spaces (n + 1) = ' ' :: spaces n := rfl

theorem any_isBreak_spaces (n : Nat) : (spaces n).any isBreak = false := by
  rw [List.any_eq_false]
  intro c mem
  rw [List.eq_of_mem_replicate mem]
  decide

@[simp] theorem column_through_spaces (p : Position) (n : Nat) :
    (p.through (spaces n)).column = p.column + n := by
  rw [Position.column_through (any_isBreak_spaces n), spaces, List.length_replicate]

/-- A character that a word may begin with when it is no comment. -/
structure StartsWord (c : Char) : Prop where
  not_spacing : isSpacing c = false
  not_break : isBreak c = false
  not_comment : c ≠ '#'
  not_byteOrderMark : c ≠ '\ufeff'

/-- The line ahead begins in the column `d` with a word, or the text ends there. -/
inductive LineAhead : (d : Nat) → (next : List Char) → Prop
  | ended : LineAhead 0 []
  | word {d : Nat} {c : Char} {rest : List Char} : StartsWord c → LineAhead d (c :: rest)

end TrustedAppId.Markup
