import Mathlib.Data.List.Induction
import TrustedAppId.Proofs.Uuid.RoundTrip
/-! All spellings of an identifier. In lower case a spelling is the digits, the canonical spelling,
or the canonical spelling in braces or behind a label, and nothing else is read. -/
namespace TrustedAppId

namespace Hex

theorem isDigit_toLower (c : Char) : isDigit c.toLower = isDigit c := by
  by_cases ascii : c.toNat < 128
  · exact Text.of_ascii (P := fun c => isDigit c.toLower = isDigit c) (by decide) ascii
  · rw [Text.toLower_eq_self (Nat.le_of_not_lt ascii)]

/-- Digits of the same value differ in case at most. -/
theorem digit_digitValue {c : Char} (digit' : isDigit c = true) :
    digit (digitValue c) = c.toLower ∧ digitValue c < 16 :=
  Text.of_ascii
    (P := fun c => isDigit c = true → digit (digitValue c) = c.toLower ∧ digitValue c < 16)
    (by decide) (ascii_of_isDigit digit') digit'

theorem value_append_singleton (ds : List Char) (d : Char) :
    value (ds ++ [d]) = value ds * 16 + digitValue d :=
  Numerals.value_append_singleton (s := lower) ds d

theorem value_lt {ds : List Char} (digits : ∀ d ∈ ds, isDigit d = true) :
    value ds < Nat.pow 16 ds.length := by
  induction ds using List.reverseRecOn with
  | nil => exact Nat.one_pos
  | append_singleton ds d ih =>
    rw [List.forall_mem_append, List.forall_mem_singleton] at digits
    have small := (digit_digitValue digits.2).2
    have front := ih digits.1
    have next : Nat.pow 16 (ds.length + 1) = Nat.pow 16 ds.length * 16 := rfl
    rw [value_append_singleton, List.length_append, List.length_singleton, next]
    omega

/-- Digits are written again as they are in lower case. -/
theorem fixed_value {ds : List Char} (digits : ∀ d ∈ ds, isDigit d = true) :
    fixed ds.length (value ds) = ds.map Char.toLower := by
  induction ds using List.reverseRecOn with
  | nil => rfl
  | append_singleton ds d ih =>
    rw [List.forall_mem_append, List.forall_mem_singleton] at digits
    obtain ⟨lower, small⟩ := digit_digitValue digits.2
    rw [List.length_append, List.length_singleton, fixed, value_append_singleton,
      Nat.mul_comm, Nat.mul_add_div (by decide), Nat.div_eq_of_lt small, Nat.add_zero,
      Nat.mul_add_mod, Nat.mod_eq_of_lt small, ih digits.1, lower, List.map_append]
    rfl

end Hex

namespace Uuid

def lower (cs : List Char) : List Char := cs.map Char.toLower

/-- The label of an identifier among uniform resource names. -/
def label : List Char := ['u', 'r', 'n', ':', 'u', 'u', 'i', 'd', ':']

/-- The spellings of `u`, with letters of either case. -/
inductive Spells (u : Uuid) : List Char → Prop where
  | digits {cs : List Char} : lower cs = u.digits → Spells u cs
  | hyphenated {cs : List Char} : lower cs = u.chars → Spells u cs
  | braced {cs : List Char} : lower cs = u.chars → Spells u ('\x7b' :: (cs ++ ['\x7d']))
  | labelled {front cs : List Char} :
      lower front = label → lower cs = u.chars → Spells u (front ++ cs)

/-! Digits. -/

theorem lower_eq_digits_iff {cs : List Char} {u : Uuid} :
    lower cs = u.digits ↔ (cs.length = 32 ∧ cs.all Hex.isDigit = true) ∧ ofDigits cs = u := by
  rw [List.all_eq_true]
  constructor
  · intro spelt
    have long : cs.length = 32 := by
      rw [← List.length_map Char.toLower, ← lower, spelt, length_digits]
    have digits : ∀ c ∈ cs, Hex.isDigit c = true := by
      intro c mem
      rw [← Hex.isDigit_toLower]
      exact isDigit_of_mem_digits (u := u) (spelt ▸ List.mem_map_of_mem mem)
    have same : Hex.value u.digits = Hex.value cs := by
      rw [← spelt, lower, ← Hex.fixed_value digits, Hex.value_fixed (Hex.value_lt digits)]
    refine ⟨⟨long, digits⟩, ?_⟩
    rw [ofDigits, ← same, ← ofDigits, ofDigits_digits]
  · rintro ⟨⟨long, digits⟩, rfl⟩
    have bound := Hex.value_lt digits
    rw [long] at bound
    rw [Uuid.digits, ofDigits, BitVec.toNat_ofNat, Nat.mod_eq_of_lt bound, ← long,
      Hex.fixed_value digits]
    rfl

theorem ofPlain_eq_some_iff {cs : List Char} {u : Uuid} :
    ofPlain? cs = some u ↔ lower cs = u.digits := by
  rw [ofPlain?, Option.ite_none_right_eq_some, Option.some.injEq, lower_eq_digits_iff]

/-! Groups. -/

theorem lower_hyphenate (ds : List Char) : lower (hyphenate ds) = hyphenate (lower ds) := by
  have hyphen : Char.toLower '-' = '-' := by decide
  simp only [lower, hyphenate, List.map_append, List.map_cons, List.map_take, List.map_drop, hyphen]

theorem lower_unhyphenate (cs : List Char) : lower (unhyphenate cs) = unhyphenate (lower cs) := by
  simp only [lower, unhyphenate, List.map_append, List.map_take, List.map_drop]

/-- A hyphen has no other case. -/
theorem exists_of_lower_eq_append {cs front rest : List Char}
    (spelt : lower cs = front ++ '-' :: rest) :
    ∃ front' rest', cs = front' ++ '-' :: rest' ∧ front'.length = front.length ∧
      lower rest' = rest := by
  obtain ⟨front', _, rfl, rfl, behind⟩ := List.map_eq_append_iff.mp spelt
  obtain ⟨c, rest', rfl, hyphen, rfl⟩ := List.map_eq_cons_iff.mp behind
  have ascii : c.toNat < 128 := Text.ascii_of_toLower (by rw [hyphen]; decide)
  obtain rfl : c = '-' :=
    Text.of_ascii (P := fun c => c.toLower = '-' → c = '-') (by decide) ascii hyphen
  exact ⟨front', rest', rfl, (List.length_map _).symm, rfl⟩

theorem hyphenate_unhyphenate {cs ds : List Char} (long : ds.length = 32)
    (spelt : lower cs = hyphenate ds) : hyphenate (unhyphenate cs) = cs := by
  obtain ⟨a, _, rfl, first, spelt⟩ := exists_of_lower_eq_append spelt
  obtain ⟨b, _, rfl, second, spelt⟩ := exists_of_lower_eq_append spelt
  obtain ⟨c, _, rfl, third, spelt⟩ := exists_of_lower_eq_append spelt
  obtain ⟨d, e, rfl, fourth, -⟩ := exists_of_lower_eq_append spelt
  simp only [List.length_take, List.length_drop, long, Nat.reduceSub, Nat.reduceLeDiff,
    Nat.min_eq_left] at first second third fourth
  simp [hyphenate, unhyphenate, List.drop_append, List.drop_eq_nil_of_le, first, second, third,
    fourth]

theorem ofHyphenated_eq_some_iff {cs : List Char} {u : Uuid} :
    ofHyphenated? cs = some u ↔ lower cs = u.chars := by
  change (if cs.length = 36 ∧ (unhyphenate cs).all Hex.isDigit = true ∧
      hyphenate (unhyphenate cs) = cs then some (ofDigits (unhyphenate cs)) else none) = _ ↔ _
  rw [Option.ite_none_right_eq_some, Option.some.injEq]
  constructor
  · rintro ⟨⟨long, digits, shape⟩, same⟩
    have groups : (unhyphenate cs).length = 32 := by
      simp [unhyphenate, long]
    rw [← shape, lower_hyphenate, lower_eq_digits_iff.mpr ⟨⟨groups, digits⟩, same⟩, chars]
  · intro spelt
    have digits : lower (unhyphenate cs) = u.digits := by
      rw [lower_unhyphenate, spelt, chars, unhyphenate_hyphenate u.length_digits]
    have long : cs.length = 36 := by
      rw [← List.length_map Char.toLower, ← lower, spelt, length_chars]
    obtain ⟨⟨-, all⟩, same⟩ := lower_eq_digits_iff.mp digits
    exact ⟨⟨long, all, hyphenate_unhyphenate u.length_digits spelt⟩, same⟩

/-! Braces and labels. -/

theorem inBraces_eq_some_iff {cs body : List Char} :
    inBraces? cs = some body ↔ cs = '\x7b' :: (body ++ ['\x7d']) := by
  constructor
  · intro found
    unfold inBraces? at found
    split at found
    · next rest =>
      rw [Option.ite_none_right_eq_some, Option.some.injEq] at found
      obtain ⟨last, rfl⟩ := found
      obtain ⟨front, rfl⟩ := List.getLast?_eq_some_iff.mp last
      rw [List.dropLast_concat]
    · contradiction
  · rintro rfl
    simp [inBraces?]

theorem dropLabel_eq_some_iff {word cs rest : List Char} :
    dropLabel? word cs = some rest ↔ ∃ front, cs = front ++ rest ∧ lower front = word := by
  induction word generalizing cs with
  | nil =>
    constructor
    · intro dropped
      exact ⟨[], Option.some.inj dropped, rfl⟩
    · rintro ⟨front, rfl, empty⟩
      obtain rfl := List.map_eq_nil_iff.mp empty
      rfl
  | cons l word ih =>
    cases cs with
    | nil =>
      constructor
      · exact nofun
      · rintro ⟨front, shape, spelt⟩
        rw [(List.nil_eq_append_iff.mp shape).1] at spelt
        contradiction
    | cons c cs =>
      rw [dropLabel?, Option.ite_none_right_eq_some, ih]
      constructor
      · rintro ⟨rfl, front, rfl, rfl⟩
        exact ⟨c :: front, rfl, rfl⟩
      · rintro ⟨front, shape, spelt⟩
        obtain ⟨d, front', rfl, rfl, rfl⟩ := List.map_eq_cons_iff.mp spelt
        obtain ⟨rfl, rfl⟩ := List.cons.inj shape
        exact ⟨rfl, front', rfl, rfl⟩

/-! Lengths. -/

theorem octetCount_append (cs ds : List Char) :
    octetCount (cs ++ ds) = octetCount cs + octetCount ds := by
  induction cs with
  | nil => exact (Nat.zero_add _).symm
  | cons c cs ih =>
    rw [List.cons_append, octetCount, octetCount, List.foldr_cons, List.foldr_cons, ← octetCount,
      ← octetCount, ih, Nat.add_assoc]

/-- A text that is ASCII in lower case has as many octets as characters. -/
theorem octetCount_of_lower {cs ds : List Char} (spelt : lower cs = ds)
    (ascii : ∀ d ∈ ds, d.toNat < 128) : octetCount cs = ds.length := by
  subst spelt
  rw [octetCount_eq_length, lower, List.length_map]
  intro c mem
  exact Text.utf8Size_of_ascii (Text.ascii_of_toLower (ascii _ (List.mem_map_of_mem mem)))

theorem octetCount_of_lower_digits {cs : List Char} {u : Uuid} (spelt : lower cs = u.digits) :
    octetCount cs = 32 := by
  rw [octetCount_of_lower spelt, length_digits]
  intro d mem
  exact Hex.ascii_of_isDigit (isDigit_of_mem_digits mem)

theorem octetCount_of_lower_chars {cs : List Char} {u : Uuid} (spelt : lower cs = u.chars) :
    octetCount cs = 36 := by
  rw [octetCount_of_lower spelt, length_chars]
  intro d mem
  rcases mem_chars mem with rfl | digit
  · decide
  · exact Hex.ascii_of_isDigit digit

/-! Reading. -/

theorem readPlain_eq_ok_iff {cs : List Char} {u : Uuid} :
    readPlain cs = .ok u ↔ lower cs = u.digits := by
  rw [← ofPlain_eq_some_iff, readPlain]
  cases ofPlain? cs with
  | some v => simp
  | none => simp

theorem readHyphenated_eq_ok_iff {cs : List Char} {u : Uuid} :
    readHyphenated cs = .ok u ↔ lower cs = u.chars := by
  rw [← ofHyphenated_eq_some_iff, readHyphenated]
  cases ofHyphenated? cs with
  | some v => simp
  | none => simp

theorem elim_readHyphenated_eq_ok_iff {found : Option (List Char)} {fault : SpellingFault}
    {u : Uuid} : found.elim (.error fault) readHyphenated = .ok u ↔
      ∃ body, found = some body ∧ lower body = u.chars := by
  cases found with
  | none => simp
  | some body => simp [readHyphenated_eq_ok_iff]

/-- A text is read as `u` if and only if it is one of the spellings of `u`. -/
theorem read_eq_ok_iff_spells {cs : List Char} {u : Uuid} : read cs = .ok u ↔ Spells u cs := by
  constructor
  · intro taken
    rw [read] at taken
    split at taken
    · exact .digits (readPlain_eq_ok_iff.mp taken)
    split at taken
    · exact .hyphenated (readHyphenated_eq_ok_iff.mp taken)
    split at taken
    · obtain ⟨body, braces, spelt⟩ := elim_readHyphenated_eq_ok_iff.mp taken
      obtain rfl := inBraces_eq_some_iff.mp braces
      exact .braced spelt
    split at taken
    · obtain ⟨body, found, spelt⟩ := elim_readHyphenated_eq_ok_iff.mp taken
      obtain ⟨front, rfl, label⟩ := dropLabel_eq_some_iff.mp found
      exact .labelled label spelt
    · contradiction
  · intro spells
    rw [read]
    cases spells with
    | digits spelt =>
      rw [if_pos (octetCount_of_lower_digits spelt)]
      exact readPlain_eq_ok_iff.mpr spelt
    | hyphenated spelt =>
      rw [octetCount_of_lower_chars spelt]
      exact readHyphenated_eq_ok_iff.mpr spelt
    | @braced cs spelt =>
      have count : octetCount ('\x7b' :: (cs ++ ['\x7d'])) = 38 := by
        rw [← List.singleton_append, octetCount_append, octetCount_append,
          octetCount_of_lower_chars spelt]
        rfl
      rw [count]
      exact elim_readHyphenated_eq_ok_iff.mpr ⟨cs, inBraces_eq_some_iff.mpr rfl, spelt⟩
    | @labelled front cs label' spelt =>
      have count : octetCount (front ++ cs) = 45 := by
        rw [octetCount_append, octetCount_of_lower_chars spelt,
          octetCount_of_lower label' (by simp [label])]
        rfl
      rw [count]
      exact elim_readHyphenated_eq_ok_iff.mpr
        ⟨cs, dropLabel_eq_some_iff.mpr ⟨front, rfl, label'⟩, spelt⟩

end Uuid

end TrustedAppId
