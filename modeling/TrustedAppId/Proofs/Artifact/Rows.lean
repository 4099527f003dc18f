import Mathlib.Data.List.Basic
import Mathlib.Data.Nat.Digits.Defs
import TrustedAppId.Proofs.Artifact.Header
import TrustedAppId.Proofs.Script.Contexts
/-! Rows of literals. The literals between two braces are read whatever separates them, and the two
rows of an initializer are read as an identifier if and only if they list its fields. -/
namespace TrustedAppId.Header

/-! What is written between two braces. -/

def separators : List Char := [' ', '\t', '\r', '\n', ',', '\\']

theorem isDigit_of_mem_separators : ∀ c ∈ separators, Hex.isDigit c = false := by
  simp only [separators, List.forall_mem_cons]
  exact ⟨rfl, rfl, rfl, rfl, rfl, rfl, nofun⟩

def digitChars : List Char := "0123456789abcdefABCDEF".toList

theorem mem_digitChars {c : Char} : c ∈ digitChars ↔ Hex.isDigit c = true :=
  Text.mem_iff_of_ascii (fun _ => Hex.ascii_of_isDigit) (by decide) (by decide)

/-- The place of a digit among the sixteen, in either case. -/
def place (d : Char) : Nat := "0123456789abcdef".toList.idxOf d.toLower

theorem digitValue_eq_place {d : Char} (mem : d ∈ digitChars) : Hex.digitValue d = place d := by
  have each : digitChars.all (fun d => Hex.digitValue d == place d) = true := by decide
  exact beq_iff_eq.mp (List.all_eq_true.mp each d mem)

namespace Literal

def chars (l : Literal) : List Char := '0' :: l.mark :: l.digits

/-- The number that the digits write, however large. -/
def number (l : Literal) : Nat := Nat.ofDigits 16 (l.digits.reverse.map place)

structure WellFormed (l : Literal) : Prop where
  mark : l.mark = 'x' ∨ l.mark = 'X'
  digits : ∀ d ∈ l.digits, d ∈ digitChars
  some : l.digits ≠ []

instance (l : Literal) : Decidable l.WellFormed :=
  decidable_of_iff
    ((l.mark = 'x' ∨ l.mark = 'X') ∧ l.digits.all digitChars.contains = true ∧ l.digits ≠ [])
    ⟨fun ⟨mark, digits, any⟩ =>
        ⟨mark, fun d mem => List.contains_iff_mem.mp (List.all_eq_true.mp digits d mem), any⟩,
      fun formed => ⟨formed.mark,
        List.all_eq_true.mpr fun d mem => List.contains_iff_mem.mpr (formed.digits d mem),
        formed.some⟩⟩

namespace WellFormed

variable {l : Literal}

theorem isMark (formed : l.WellFormed) : isMark l.mark = true := by
  rw [Header.isMark, Bool.or_eq_true, decide_eq_true_iff, decide_eq_true_iff]
  exact formed.mark

theorem isDigit (formed : l.WellFormed) {d : Char} (mem : d ∈ l.digits) : Hex.isDigit d = true :=
  mem_digitChars.mp (formed.digits d mem)

theorem literals_chars (formed : l.WellFormed) {rest : List Char}
    (boundary : ∀ c ∈ rest.head?, Hex.isDigit c = false) :
    literals (l.chars ++ rest) = l :: literals rest :=
  literals_digits formed.isMark (fun _ => formed.isDigit) formed.some boundary

/-- Digits are read with the most significant one first. -/
theorem value_digits (formed : l.WellFormed) : Hex.value l.digits = l.number := by
  rw [Hex.value, number, List.map_reverse, Nat.ofDigits_eq_foldr, List.foldr_reverse,
    List.foldl_map]
  apply List.foldl_ext
  intro n d mem
  rw [digitValue_eq_place (formed.digits d mem), Nat.mul_comm, Nat.add_comm]
  rfl

end WellFormed

end Literal

/-! Whatever is found is a literal. -/

/-- What has been read so far is the front of a literal. -/
def Scan.Sound : Scan → Prop
  | .idle | .zero => True
  | .mark x => isMark x = true
  | .digits x done => isMark x = true ∧ done ≠ [] ∧ ∀ d ∈ done, Hex.isDigit d = true

theorem Scan.sound_restart (c : Char) : (Scan.restart c).Sound := by
  rw [Scan.restart]
  split
  · trivial
  · trivial

theorem Scan.Sound.wellFormed {x : Char} {done : List Char} (sound : Scan.Sound (.digits x done)) :
    Literal.WellFormed ⟨x, done.reverse⟩ := by
  obtain ⟨mark, some, digits⟩ := sound
  rw [isMark, Bool.or_eq_true, decide_eq_true_iff, decide_eq_true_iff] at mark
  refine ⟨mark, ?_, List.reverse_eq_nil_iff.not.mpr some⟩
  intro d mem
  exact mem_digitChars.mpr (digits d (List.mem_reverse.mp mem))

theorem wellFormed_of_mem_literalsFrom {scan : Scan} (sound : scan.Sound) {cs : List Char} :
    ∀ l ∈ literalsFrom scan cs, l.WellFormed := by
  induction cs generalizing scan with
  | nil =>
    cases scan with
    | digits x done =>
      rw [literalsFrom, List.forall_mem_singleton]
      exact sound.wellFormed
    | _ =>
      intro l mem
      exact absurd mem List.not_mem_nil
  | cons c cs ih =>
    cases scan with
    | idle => exact ih (Scan.sound_restart c)
    | zero =>
      rw [literalsFrom]
      split
      · next mark => exact ih mark
      · exact ih (Scan.sound_restart c)
    | mark x =>
      rw [literalsFrom]
      split
      · next digit => exact ih ⟨sound, List.cons_ne_nil _ _, List.forall_mem_singleton.mpr digit⟩
      · exact ih (Scan.sound_restart c)
    | digits x done =>
      rw [literalsFrom]
      split
      · next digit =>
        exact ih ⟨sound.1, List.cons_ne_nil _ _, List.forall_mem_cons.mpr ⟨digit, sound.2.2⟩⟩
      · exact List.forall_mem_cons.mpr ⟨sound.wellFormed, ih trivial⟩

theorem wellFormed_of_mem_literals {cs : List Char} : ∀ l ∈ literals cs, l.WellFormed :=
  @wellFormed_of_mem_literalsFrom .idle trivial cs

/-! Rows. -/

/-- A literal and the separators behind it. -/
structure Entry where
  literal : Literal
  gap : List Char
  formed : literal.WellFormed
  gap_separators : ∀ c ∈ gap, c ∈ separators

def Entry.chars (e : Entry) : List Char := e.literal.chars ++ e.gap

/-- Any count of literals, with separators in front of the first one and behind each. Two literals
need at least one separator between them. -/
structure Row where
  before : List Char
  entries : List Entry
  before_separators : ∀ c ∈ before, c ∈ separators
  apart : ∀ e ∈ entries.dropLast, e.gap ≠ []

namespace Row

def text (row : Row) : List Char := row.before ++ row.entries.flatMap Entry.chars

def values (row : Row) : List Nat := row.entries.map fun e => e.literal.number

end Row

theorem literals_gap {gap : List Char} (only : ∀ c ∈ gap, c ∈ separators) (rest : List Char) :
    literals (gap ++ rest) = literals rest := by
  induction gap with
  | nil => rfl
  | cons c gap ih =>
    obtain ⟨first, others⟩ := List.forall_mem_cons.mp only
    have other : c ≠ '0' := by
      rintro rfl
      exact absurd first (by decide)
    rw [List.cons_append, literals_cons other, ih others]

/-- Each literal ends at its gap, and the last one may end with the text. -/
theorem literals_entries {entries : List Entry} (apart : ∀ e ∈ entries.dropLast, e.gap ≠ []) :
    literals (entries.flatMap Entry.chars) = entries.map Entry.literal := by
  induction entries with
  | nil => rfl
  | cons e entries ih =>
    have later : ∀ e ∈ entries.dropLast, e.gap ≠ [] := by
      intro d mem
      cases entries with
      | nil => contradiction
      | cons => exact apart d (List.mem_cons_of_mem _ mem)
    have boundary : ∀ c ∈ (e.gap ++ entries.flatMap Entry.chars).head?, Hex.isDigit c = false := by
      intro c first
      cases gap : e.gap with
      | nil =>
        cases entries with
        | nil => simp [gap] at first
        | cons => exact absurd gap (apart e List.mem_cons_self)
      | cons d gap' =>
        rw [gap, List.cons_append, List.head?_cons, Option.mem_some_iff] at first
        subst first
        exact isDigit_of_mem_separators d (e.gap_separators d (gap ▸ List.mem_cons_self))
    rw [List.flatMap_cons, Entry.chars, List.append_assoc, e.formed.literals_chars boundary,
      literals_gap e.gap_separators, ih later, List.map_cons]

theorem Row.literals_text (row : Row) : literals row.text = row.entries.map Entry.literal := by
  rw [text, literals_gap row.before_separators, literals_entries row.apart]

/-- No mark of another kind stands in a row. -/
theorem Row.not_mem_text (row : Row) {c : Char} (separator : c ∉ separators)
    (mark : isMark c = false) (digit : Hex.isDigit c = false) : c ∉ row.text := by
  intro mem
  rcases List.mem_append.mp mem with mem | mem
  · exact separator (row.before_separators c mem)
  · obtain ⟨e, -, mem⟩ := List.mem_flatMap.mp mem
    rcases List.mem_append.mp mem with mem | mem
    · rcases List.mem_cons.mp mem with rfl | mem
      · exact absurd digit (by decide)
      rcases List.mem_cons.mp mem with rfl | mem
      · exact Bool.false_ne_true (mark.symm.trans e.formed.isMark)
      · exact Bool.false_ne_true (digit.symm.trans (e.formed.isDigit mem))
    · exact separator (e.gap_separators c mem)

/-! What is read of it. -/

theorem value_eq_ok_iff {l : Literal} (formed : l.WellFormed) {n : Nat} :
    l.value = .ok n ↔ l.number = n ∧ n < Nat.pow 2 64 := by
  rw [Literal.value, formed.value_digits]
  constructor
  · intro read
    split at read
    · next bound =>
      obtain rfl := Except.ok.inj read
      exact ⟨rfl, bound⟩
    · simp only [fault, reduceCtorEq] at read
  · rintro ⟨rfl, bound⟩
    rw [if_pos bound]

theorem mapM_value_eq_ok_iff {ls : List Literal} (formed : ∀ l ∈ ls, l.WellFormed)
    {values : List Nat} : ls.mapM Literal.value = .ok values ↔
      ls.map Literal.number = values ∧ ∀ v ∈ values, v < Nat.pow 2 64 := by
  induction ls generalizing values with
  | nil =>
    constructor
    · intro read
      obtain rfl := Except.ok.inj read
      exact ⟨rfl, nofun⟩
    · rintro ⟨rfl, -⟩
      rfl
  | cons l ls ih =>
    obtain ⟨formed, others⟩ := List.forall_mem_cons.mp formed
    have ih := @ih others
    rw [List.mapM_cons, bind_eq_ok_iff]
    constructor
    · rintro ⟨n, first, read⟩
      obtain ⟨_, later, last⟩ := bind_eq_ok_iff.mp read
      obtain rfl := Except.ok.inj last
      obtain ⟨rfl, bound⟩ := (value_eq_ok_iff formed).mp first
      obtain ⟨rfl, bounds⟩ := ih.mp later
      exact ⟨rfl, List.forall_mem_cons.mpr ⟨bound, bounds⟩⟩
    · rintro ⟨rfl, bounds⟩
      obtain ⟨bound, bounds⟩ := List.forall_mem_cons.mp bounds
      exact ⟨_, (value_eq_ok_iff formed).mpr ⟨rfl, bound⟩,
        bind_eq_ok_iff.mpr ⟨_, ih.mpr ⟨rfl, bounds⟩, rfl⟩⟩

theorem literalValues_eq_ok_iff {cs : List Char} {values : List Nat} :
    literalValues cs = .ok values ↔
      (literals cs).map Literal.number = values ∧ ∀ v ∈ values, v < Nat.pow 2 64 :=
  mapM_value_eq_ok_iff wellFormed_of_mem_literals

theorem narrow_eq_ok_iff {bits n : Nat} {v : BitVec bits} :
    narrow bits n = .ok v ↔ v.toNat = n := by
  constructor
  · intro read
    rw [narrow] at read
    split at read
    · next bound =>
      obtain rfl := Except.ok.inj read
      rw [BitVec.toNat_ofNat]
      exact Nat.mod_eq_of_lt bound
    · simp only [fault, reduceCtorEq] at read
  · rintro rfl
    exact narrow_toNat v

theorem readInner_eq_ok_iff {values : List Nat} {octets : Vector (BitVec 8) 8} :
    readInner values = .ok octets ↔ octets.toList.map BitVec.toNat = values := by
  constructor
  · intro read
    unfold readInner at read
    split at read
    · simp only [bind_eq_ok_iff, narrow_eq_ok_iff] at read
      obtain ⟨_, rfl, _, rfl, _, rfl, _, rfl, _, rfl, _, rfl, _, rfl, _, rfl, same⟩ := read
      rw [← Except.ok.inj same]
      rfl
    · simp only [fault, reduceCtorEq] at read
  · rintro rfl
    obtain ⟨a, b, c, d, e, g, h, i, same, -⟩ := Fields.exists_octets ⟨0, 0, 0, octets⟩
    obtain rfl : octets = #v[a, b, c, d, e, g, h, i] := same
    simp [readInner, narrow_toNat, bind, Except.bind, pure, Except.pure]

/-- The values of the two rows are the fields of `u`, in their order. -/
def Lists (u : Uuid) (outer inner : List Nat) : Prop :=
  let f := Fields.ofUuid u
  outer = [f.timeLow.toNat, f.timeMid.toNat, f.timeHiAndVersion.toNat] ∧
    inner = f.clockSeqAndNode.toList.map BitVec.toNat

theorem readInitializer_eq_ok_iff {outer inner : List Char} {u : Uuid} :
    readInitializer outer inner = .ok u ↔ ∃ first second,
      literalValues outer = .ok first ∧ literalValues inner = .ok second ∧
        Lists u first second := by
  rw [readInitializer, bind_eq_ok_iff]
  constructor
  · rintro ⟨first, values, read⟩
    split at read
    · simp only [bind_eq_ok_iff, readInner_eq_ok_iff, narrow_eq_ok_iff] at read
      obtain ⟨second, values', _, rfl, _, rfl, _, rfl, _, rfl, same⟩ := read
      refine ⟨_, _, values, values', ?_⟩
      rw [← Except.ok.inj same, Lists, Fields.ofUuid_toUuid]
      exact ⟨rfl, rfl⟩
    · simp only [fault, reduceCtorEq] at read
  · rintro ⟨_, _, values, values', rfl, rfl⟩
    refine ⟨_, values, ?_⟩
    simp only [bind_eq_ok_iff]
    exact ⟨_, values', _, readInner_eq_ok_iff.mpr rfl, _, narrow_toNat _, _, narrow_toNat _, _,
      narrow_toNat _, congrArg Except.ok (Fields.toUuid_ofUuid u)⟩

/-- Two texts are read as `u` if and only if their literals list its fields: a field of an
identifier is far below the bound on a literal. -/
theorem readInitializer_iff_lists {outer inner : List Char} {u : Uuid} :
    readInitializer outer inner = .ok u ↔
      Lists u ((literals outer).map Literal.number) ((literals inner).map Literal.number) := by
  have bounded {bits : Nat} (narrower : bits ≤ 64) (v : BitVec bits) : v.toNat < Nat.pow 2 64 :=
    Nat.lt_of_lt_of_le v.isLt (Nat.pow_le_pow_right (by decide) narrower)
  simp only [readInitializer_eq_ok_iff, literalValues_eq_ok_iff]
  constructor
  · rintro ⟨_, _, ⟨rfl, -⟩, ⟨rfl, -⟩, lists⟩
    exact lists
  · intro lists
    refine ⟨_, _, ⟨rfl, ?_⟩, ⟨rfl, ?_⟩, lists⟩
    · rw [lists.1]
      simp only [List.forall_mem_cons]
      exact ⟨bounded (by decide) _, bounded (by decide) _, bounded (by decide) _, nofun⟩
    · rw [lists.2]
      intro v mem
      obtain ⟨octet, -, rfl⟩ := List.mem_map.mp mem
      exact bounded (by decide) octet

theorem readInitializer_rows {outer inner : Row} {u : Uuid} :
    readInitializer outer.text inner.text = .ok u ↔ Lists u outer.values inner.values := by
  rw [readInitializer_iff_lists, outer.literals_text, inner.literals_text, List.map_map,
    List.map_map]
  rfl

/-- The two rows have the counts of an initializer, and each value the width of its field. -/
def Fits (outer inner : List Nat) : Prop :=
  (∃ low mid high, outer = [low, mid, high] ∧ low < 2 ^ 32 ∧ mid < 2 ^ 16 ∧ high < 2 ^ 16) ∧
    inner.length = 8 ∧ ∀ v ∈ inner, v < 2 ^ 8

theorem fits_iff {outer inner : List Nat} : Fits outer inner ↔ ∃ u, Lists u outer inner := by
  constructor
  · rintro ⟨⟨low, mid, high, rfl, low_lt, mid_lt, high_lt⟩, count, inner_lt⟩
    let f : Fields := ⟨.ofNat 32 low, .ofNat 16 mid, .ofNat 16 high,
      ⟨(inner.map (BitVec.ofNat 8)).toArray, by simp [count]⟩⟩
    have octets : f.clockSeqAndNode.toList.map BitVec.toNat = inner := by
      have same : inner.map (BitVec.toNat ∘ BitVec.ofNat 8) = inner.map id := by
        apply List.map_congr_left
        intro v mem
        exact (BitVec.toNat_ofNat ..).trans (Nat.mod_eq_of_lt (inner_lt v mem))
      rw [← List.map_map, List.map_id] at same
      exact same
    refine ⟨f.toUuid, ?_⟩
    rw [Lists, Fields.ofUuid_toUuid]
    refine ⟨?_, octets.symm⟩
    simp only [f, BitVec.toNat_ofNat, Nat.mod_eq_of_lt low_lt, Nat.mod_eq_of_lt mid_lt,
      Nat.mod_eq_of_lt high_lt]
  · rintro ⟨u, rfl, rfl⟩
    refine ⟨⟨_, _, _, rfl, BitVec.isLt _, BitVec.isLt _, BitVec.isLt _⟩, by simp, ?_⟩
    intro v mem
    obtain ⟨octet, -, rfl⟩ := List.mem_map.mp mem
    exact octet.isLt

/-! What is wrong with it. -/

/-- If there is no result, then for a fault of the header. -/
def FaultOnly {α : Type} (x : Except Error α) : Prop :=
  ∀ e, x = .error e → ∃ cause, e = .header cause

namespace FaultOnly

variable {α β : Type}

theorem ok (a : α) : FaultOnly (.ok a) := nofun

theorem fault (cause : HeaderFault) : FaultOnly (Header.fault (α := α) cause) := by
  rintro _ ⟨⟩
  exact ⟨cause, rfl⟩

theorem bind {x : Except Error α} (first : FaultOnly x) {f : α → Except Error β}
    (later : ∀ a, FaultOnly (f a)) : FaultOnly (x >>= f) := by
  intro e failed
  cases x with
  | error e' => exact first e (congrArg Except.error (Except.error.inj failed))
  | ok a => exact later a e failed

theorem mapM {f : α → Except Error β} (each : ∀ a, FaultOnly (f a)) (as : List α) :
    FaultOnly (as.mapM f) := by
  induction as with
  | nil => exact ok []
  | cons a as ih =>
    rw [List.mapM_cons]
    exact (each a).bind fun b => ih.bind fun bs => ok (b :: bs)

theorem value (l : Literal) : FaultOnly l.value := by
  simp only [Literal.value]
  split
  · exact ok _
  · exact fault _

theorem narrow (bits n : Nat) : FaultOnly (Header.narrow bits n) := by
  unfold Header.narrow
  split
  · exact ok _
  · exact fault _

theorem readInner (values : List Nat) : FaultOnly (Header.readInner values) := by
  unfold Header.readInner
  split
  · repeat' refine (narrow _ _).bind fun _ => ?_
    exact ok _
  · exact fault _

theorem readInitializer (outer inner : List Char) : FaultOnly (readInitializer outer inner) := by
  refine (mapM value _).bind fun first => ?_
  split
  · refine (mapM value _).bind fun second => (readInner second).bind fun octets => ?_
    repeat' refine (narrow _ _).bind fun _ => ?_
    exact ok _
  · exact fault _

end FaultOnly

end TrustedAppId.Header
