import TrustedAppId.Proofs.Text.Characters
import TrustedAppId.Proofs.Text.Digits
import TrustedAppId.Uuid.Fields
import TrustedAppId.Uuid.Spelling
/-! The canonical spelling of an identifier reads back, and so do its fields. -/
namespace TrustedAppId

namespace Uuid

theorem octetCount_eq_length {cs : List Char} (h : ∀ c ∈ cs, c.utf8Size = 1) :
    octetCount cs = cs.length := by
  induction cs with
  | nil => rfl
  | cons c cs ih =>
    obtain ⟨first, others⟩ := List.forall_mem_cons.mp h
    rw [octetCount, List.foldr_cons, first, ← octetCount, ih others, List.length_cons, Nat.add_comm]

theorem mem_hyphenate {ds : List Char} {c : Char} : c ∈ hyphenate ds → c = '-' ∨ c ∈ ds := by
  have part (a b : Nat) (h : c ∈ (ds.drop a).take b) : c ∈ ds :=
    List.mem_of_mem_drop (List.mem_of_mem_take h)
  simp only [hyphenate, List.mem_append, List.mem_cons]
  rintro (h | rfl | h | rfl | h | rfl | h | rfl | h)
  · exact .inr (List.mem_of_mem_take h)
  · exact .inl rfl
  · exact .inr (part _ _ h)
  · exact .inl rfl
  · exact .inr (part _ _ h)
  · exact .inl rfl
  · exact .inr (part _ _ h)
  · exact .inl rfl
  · exact .inr (List.mem_of_mem_drop h)

theorem length_hyphenate {ds : List Char} (h : ds.length = 32) : (hyphenate ds).length = 36 := by
  simp [hyphenate, h]

/-- The groups between the hyphens, one behind the other. -/
def unhyphenate (cs : List Char) : List Char :=
  cs.take 8 ++ (cs.drop 9).take 4 ++ (cs.drop 14).take 4 ++ (cs.drop 19).take 4 ++ cs.drop 24

theorem take_append_drop_of_le {ds : List Char} {m n : Nat} (h : m ≤ n) :
    (ds.drop m).take (n - m) ++ ds.drop n = ds.drop m := by
  have := List.take_append_drop (n - m) (ds.drop m)
  rwa [List.drop_drop, Nat.add_sub_cancel' h] at this

theorem append_groups (ds : List Char) : ds.take 8 ++ ((ds.drop 8).take 4 ++
    ((ds.drop 12).take 4 ++ ((ds.drop 16).take 4 ++ ds.drop 20))) = ds := by
  rw [take_append_drop_of_le (by decide : 16 ≤ 20), take_append_drop_of_le (by decide : 12 ≤ 16),
    take_append_drop_of_le (by decide : 8 ≤ 12), List.take_append_drop]

theorem unhyphenate_hyphenate {ds : List Char} (h : ds.length = 32) :
    unhyphenate (hyphenate ds) = ds := by
  have cut : unhyphenate (hyphenate ds) = ds.take 8 ++ ((ds.drop 8).take 4 ++
      ((ds.drop 12).take 4 ++ ((ds.drop 16).take 4 ++ ds.drop 20))) := by
    simp [unhyphenate, hyphenate, List.drop_append, List.drop_take, h]
  rw [cut, append_groups]

@[simp] theorem length_digits (u : Uuid) : u.digits.length = 32 := Hex.length_fixed _ _

@[simp] theorem length_chars (u : Uuid) : u.chars.length = 36 := length_hyphenate u.length_digits

theorem isDigit_of_mem_digits {u : Uuid} {c : Char} (h : c ∈ u.digits) : Hex.isDigit c = true :=
  Hex.isDigit_of_mem_fixed h

theorem mem_chars {u : Uuid} {c : Char} (h : c ∈ u.chars) : c = '-' ∨ Hex.isDigit c = true :=
  (mem_hyphenate h).imp_right isDigit_of_mem_digits

theorem ofDigits_digits (u : Uuid) : ofDigits u.digits = u := by
  rw [ofDigits, digits, @Hex.value_fixed 32 u.value.toNat u.value.isLt, BitVec.ofNat_toNat,
    BitVec.setWidth_eq]

theorem ofHyphenated_chars (u : Uuid) : ofHyphenated? u.chars = some u := by
  have digits : unhyphenate u.chars = u.digits := unhyphenate_hyphenate u.length_digits
  have spelt : u.chars.length = 36 ∧ u.digits.all Hex.isDigit = true ∧
      hyphenate u.digits = u.chars :=
    ⟨u.length_chars, List.all_eq_true.mpr fun _ => isDigit_of_mem_digits, rfl⟩
  change (if u.chars.length = 36 ∧ (unhyphenate u.chars).all Hex.isDigit = true ∧
      hyphenate (unhyphenate u.chars) = u.chars then
    some (ofDigits (unhyphenate u.chars)) else none) = _
  rw [digits, if_pos spelt, ofDigits_digits]

/-- No two identifiers are spelt alike. -/
theorem text_inj {u v : Uuid} : u.text = v.text ↔ u = v := by
  constructor
  · intro same
    have chars : u.chars = v.chars := String.ofList_inj.mp same
    have read := ofHyphenated_chars u
    rw [chars, ofHyphenated_chars, Option.some.injEq] at read
    exact read.symm
  · rintro rfl
    rfl

theorem octetCount_chars (u : Uuid) : octetCount u.chars = 36 := by
  rw [octetCount_eq_length, length_chars]
  intro c hc
  rcases mem_chars hc with rfl | hc
  · decide
  · exact Hex.utf8Size_of_isDigit hc

theorem read_chars (u : Uuid) : read u.chars = .ok u := by
  simp [read, octetCount_chars, readHyphenated, ofHyphenated_chars]

end Uuid

namespace Fields

theorem exists_octets (f : Fields) : ∃ a b c d e g h i,
    f.clockSeqAndNode = #v[a, b, c, d, e, g, h, i] ∧ f.clockSeqHiAndReserved = a ∧
      f.clockSeqLow = b ∧ f.node = [c, d, e, g, h, i] := by
  obtain ⟨_, _, _, ⟨⟨octets⟩, size⟩⟩ := f
  match octets, size with
  | [a, b, c, d, e, g, h, i], _ => exact ⟨a, b, c, d, e, g, h, i, rfl, rfl, rfl, rfl⟩

theorem toUuid_ofUuid (u : Uuid) : toUuid (ofUuid u) = u := by
  cases u with
  | mk value =>
    simp only [toUuid, ofUuid, octet, Vector.getElem_ofFn, Uuid.mk.injEq]
    repeat rw [BitVec.extractLsb'_append_extractLsb'_eq_extractLsb' (by decide)]
    exact BitVec.extractLsb'_eq_self

/-- Octets are counted from the left, and a concatenation is taken apart from the right. -/
theorem octet_toUuid (f : Fields) (i : Nat) (hi : i < 8) :
    octet (toUuid f) (8 + i) = f.clockSeqAndNode[i] := by
  rw [octet, toUuid, BitVec.extractLsb'_append_eq_of_add_le (by omega)]
  match i, hi with
  | 0, _ =>
    repeat rw [BitVec.extractLsb'_append_eq_of_le (by decide)]
    exact BitVec.extractLsb'_eq_self
  | 1, _ | 2, _ | 3, _ | 4, _ | 5, _ | 6, _ | 7, _ =>
    repeat rw [BitVec.extractLsb'_append_eq_of_le (by decide)]
    exact BitVec.extractLsb'_append_eq_right

theorem ofUuid_toUuid (f : Fields) : ofUuid (toUuid f) = f := by
  have groups : (toUuid f).value = (f.timeLow ++ f.timeMid ++ f.timeHiAndVersion) ++
      (toUuid f).value.extractLsb' 0 64 := by
    rw [toUuid, BitVec.extractLsb'_append_eq_right]
  cases f with
  | mk low mid high octets =>
    rw [ofUuid, Fields.mk.injEq]
    refine ⟨?_, ?_, ?_, Vector.ext fun i hi => ?_⟩
    · rw [groups]
      repeat rw [BitVec.extractLsb'_append_eq_of_le (by decide)]
      exact BitVec.extractLsb'_eq_self
    · rw [groups]
      repeat rw [BitVec.extractLsb'_append_eq_of_le (by decide)]
      exact BitVec.extractLsb'_append_eq_right
    · rw [groups, BitVec.extractLsb'_append_eq_of_le (by decide)]
      exact BitVec.extractLsb'_append_eq_right
    · rw [Vector.getElem_ofFn]
      exact octet_toUuid _ i hi

end Fields

end TrustedAppId
