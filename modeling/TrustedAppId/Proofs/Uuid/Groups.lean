import Mathlib.Data.List.Forall2
import TrustedAppId.Proofs.Uuid.RoundTrip
/-! The digits of an identifier, part by part. Each field has its own digits among them, and each
octet two. The version and the variant can be told from the spelling: the one is the first digit of
the third group, and the other the upper half of the first digit of the fourth. -/
namespace TrustedAppId.Uuid

/-! Hyphens. -/

theorem hyphenate_append {a b c d : List Char} (first : a.length = 8) (second : b.length = 4)
    (third : c.length = 4) (fourth : d.length = 4) (e : List Char) :
    hyphenate (a ++ (b ++ (c ++ (d ++ e)))) =
      a ++ '-' :: (b ++ '-' :: (c ++ '-' :: (d ++ '-' :: e))) := by
  simp [hyphenate, List.drop_append, List.drop_eq_nil_of_le, first, second, third,
    fourth]

theorem filter_hyphenate {ds : List Char} (absent : '-' ∉ ds) :
    (hyphenate ds).filter (· ≠ '-') = ds := by
  have kept {part : List Char} (within : part ⊆ ds) : part.filter (· ≠ '-') = part := by
    apply List.filter_eq_self.mpr
    intro c mem
    rw [decide_eq_true_iff]
    rintro rfl
    exact absent (within mem)
  have middle (i : Nat) : (ds.drop i).take 4 ⊆ ds := fun _ mem =>
    List.mem_of_mem_drop (List.mem_of_mem_take mem)
  have dropped (rest : List Char) : ('-' :: rest).filter (· ≠ '-') = rest.filter (· ≠ '-') :=
    List.filter_cons_of_neg (by decide)
  simp only [hyphenate, List.filter_append, dropped]
  rw [kept (List.take_subset 8 ds), kept (middle 8), kept (middle 12), kept (middle 16),
    kept (List.drop_subset 20 ds), append_groups]

/-- Without its hyphens the canonical spelling is the digits. -/
theorem filter_chars (u : Uuid) : u.chars.filter (· ≠ '-') = u.digits := by
  apply filter_hyphenate
  intro mem
  exact absurd (isDigit_of_mem_digits mem) (by decide)

/-! Fields. -/

/-- Two digits for each octet. -/
def octetDigits (octets : List (BitVec 8)) : List Char :=
  octets.flatMap fun b => Hex.fixed 2 b.toNat

theorem digits_toUuid (f : Fields) : f.toUuid.digits =
    Hex.fixed 8 f.timeLow.toNat ++ Hex.fixed 4 f.timeMid.toNat ++
      Hex.fixed 4 f.timeHiAndVersion.toNat ++ octetDigits f.clockSeqAndNode.toList := by
  obtain ⟨low, mid, high, ⟨⟨octets⟩, size⟩⟩ := f
  match octets, size with
  | [a, b, c, d, e, g, h, i], _ =>
    have shape : (Fields.toUuid ⟨low, mid, high, #v[a, b, c, d, e, g, h, i]⟩).digits =
        Hex.fixed (8 + 4 + 4 + (2 + 2 + 2 + 2 + 2 + 2 + 2 + 2))
          (low ++ mid ++ high ++ (a ++ b ++ c ++ d ++ e ++ g ++ h ++ i)).toNat := rfl
    rw [shape]
    repeat rw [Hex.fixed_append _ _ _ _ rfl]
    change _ = _ ++ octetDigits [a, b, c, d, e, g, h, i]
    simp only [octetDigits, List.flatMap_cons, List.flatMap_nil, List.append_assoc, List.append_nil]

theorem digits_eq (u : Uuid) : u.digits =
    Hex.fixed 8 (Fields.ofUuid u).timeLow.toNat ++ Hex.fixed 4 (Fields.ofUuid u).timeMid.toNat ++
      Hex.fixed 4 (Fields.ofUuid u).timeHiAndVersion.toNat ++
      octetDigits (Fields.ofUuid u).clockSeqAndNode.toList := by
  rw [← digits_toUuid, Fields.toUuid_ofUuid]

/-! Version and variant. -/

theorem timeHiAndVersion_ofUuid (u : Uuid) :
    (Fields.ofUuid u).timeHiAndVersion = u.version ++ u.value.extractLsb' 64 12 := by
  rw [version, BitVec.extractLsb'_append_extractLsb'_eq_extractLsb' (by decide)]
  rfl

theorem clockSeqHiAndReserved_ofUuid (u : Uuid) :
    (Fields.ofUuid u).clockSeqHiAndReserved = u.variant ++ u.value.extractLsb' 56 6 := by
  rw [variant, BitVec.extractLsb'_append_extractLsb'_eq_extractLsb' (by decide)]
  rfl

theorem exists_parts (u : Uuid) : ∃ (a : BitVec 32) (b : BitVec 16) (c : BitVec 12) (l : BitVec 2)
    (d : BitVec 12) (e : BitVec 48),
    u.value = a ++ b ++ (u.version ++ c) ++ (u.variant ++ l ++ d) ++ e := by
  refine ⟨u.value.extractLsb' 96 32, u.value.extractLsb' 80 16, u.value.extractLsb' 64 12,
    u.value.extractLsb' 60 2, u.value.extractLsb' 48 12, u.value.extractLsb' 0 48, ?_⟩
  rw [version, variant]
  repeat rw [BitVec.extractLsb'_append_extractLsb'_eq_extractLsb' (by decide)]
  exact BitVec.extractLsb'_eq_self.symm

theorem exists_groups (u : Uuid) : ∃ (a : BitVec 32) (b : BitVec 16) (c : BitVec 12) (l : BitVec 2)
    (d : BitVec 12) (e : BitVec 48), u.chars =
      Hex.fixed 8 a.toNat ++ '-' :: (Hex.fixed 4 b.toNat ++ '-' ::
        (Hex.digit u.version.toNat :: Hex.fixed 3 c.toNat ++ '-' ::
          (Hex.digit (u.variant ++ l).toNat :: Hex.fixed 3 d.toNat ++ '-' ::
            Hex.fixed 12 e.toNat))) := by
  obtain ⟨a, b, c, l, d, e, parts⟩ := u.exists_parts
  refine ⟨a, b, c, l, d, e, ?_⟩
  have lone (n : BitVec 4) : Hex.fixed 1 n.toNat = [Hex.digit n.toNat] := by
    rw [Hex.fixed, Nat.mod_eq_of_lt n.isLt]
    rfl
  have shape : u.digits = Hex.fixed (8 + 4 + (1 + 3) + (1 + 3) + 12) u.value.toNat := rfl
  rw [parts] at shape
  repeat rw [Hex.fixed_append _ _ _ _ rfl] at shape
  rw [lone, lone] at shape
  rw [chars, shape, List.append_assoc, List.append_assoc, List.append_assoc,
    hyphenate_append (Hex.length_fixed 8 _) (Hex.length_fixed 4 _) (by simp) (by simp)]
  rfl

/-! Random identifiers. -/

/-- The characters that may stand in each place of the spelling of a random identifier. -/
def randomPattern : List (List Char) :=
  List.replicate 8 Hex.lowerDigits ++ ['-'] ::
    (List.replicate 4 Hex.lowerDigits ++ ['-'] ::
      (['4'] :: List.replicate 3 Hex.lowerDigits ++ ['-'] ::
        ("89ab".toList :: List.replicate 3 Hex.lowerDigits ++ ['-'] ::
          List.replicate 12 Hex.lowerDigits)))

def LooksRandom (cs : List Char) : Prop := List.Forall₂ (· ∈ ·) cs randomPattern

theorem forall₂_append_iff {α β : Type} {R : α → β → Prop} {as cs : List α} {bs ds : List β}
    (same : as.length = bs.length) :
    List.Forall₂ R (as ++ cs) (bs ++ ds) ↔ List.Forall₂ R as bs ∧ List.Forall₂ R cs ds := by
  induction as generalizing bs with
  | nil =>
    obtain rfl := List.length_eq_zero_iff.mp same.symm
    simp
  | cons a as ih =>
    cases bs with
    | nil => cases same
    | cons b bs => simp [ih (Nat.succ.inj same), and_assoc]

theorem forall₂_fixed (width n : Nat) :
    List.Forall₂ (· ∈ ·) (Hex.fixed width n) (List.replicate width Hex.lowerDigits) := by
  induction width generalizing n with
  | zero => exact .nil
  | succ width ih =>
    rw [Hex.fixed, List.replicate_succ']
    have last := Hex.digit_mem_lowerDigits (n % 16) (Nat.mod_lt n (by decide))
    exact List.rel_append (ih _) (.cons last .nil)

/-- Digits fit, and what stands behind them must fit the rest. -/
theorem forall₂_fixed_append_iff (width n : Nat) {cs : List Char} {rest : List (List Char)} :
    List.Forall₂ (· ∈ ·) (Hex.fixed width n ++ cs) (List.replicate width Hex.lowerDigits ++ rest) ↔
      List.Forall₂ (· ∈ ·) cs rest := by
  rw [forall₂_append_iff (by simp)]
  exact and_iff_right (forall₂_fixed width n)

theorem digit_version : ∀ v : BitVec 4, Hex.digit v.toNat ∈ ['4'] ↔ v = 4#4 := by decide

theorem digit_variant : ∀ v l : BitVec 2, Hex.digit (v ++ l).toNat ∈ "89ab".toList ↔ v = 2#2 := by
  decide

theorem looksRandom_chars (u : Uuid) : LooksRandom u.chars ↔ u.isRandom = true := by
  obtain ⟨a, b, c, l, d, e, groups⟩ := u.exists_groups
  have hyphen : '-' ∈ ['-'] := List.mem_singleton_self _
  rw [isRandom, Bool.and_eq_true, beq_iff_eq, beq_iff_eq, ← digit_version, ← digit_variant _ l,
    LooksRandom, randomPattern, groups]
  simp only [forall₂_fixed_append_iff, List.cons_append, List.forall₂_cons, hyphen, true_and,
    forall₂_fixed, and_true]

end TrustedAppId.Uuid
