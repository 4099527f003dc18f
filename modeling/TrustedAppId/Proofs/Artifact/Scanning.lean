import TrustedAppId.Proofs.Artifact.Rows
/-! Scanning a text for literals. `Scanned` says which ones are found: from left to right, each at
the first place where one begins and with all the digits that follow. So the texts on the two sides
of a character that no literal has are scanned apart. -/
namespace TrustedAppId.Header

/-- The characters of literals. -/
def literalChars : List Char := "0123456789ABCDEFabcdefxX".toList

theorem mem_literalChars_of_digit {c : Char} (mem : c ∈ digitChars) : c ∈ literalChars := by
  have each : digitChars.all literalChars.contains = true := by decide
  exact List.contains_iff_mem.mp (List.all_eq_true.mp each c mem)

/-- A literal begins at the front of the text. -/
def Begins (text : List Char) : Prop := ∃ l : Literal, l.WellFormed ∧ l.chars <+: text

/-- The literals that are found in a text. They do not overlap, and no digit follows one. -/
inductive Scanned : (text : List Char) → List Literal → Prop where
  | nil : Scanned [] []
  | skip {c : Char} {text : List Char} {ls : List Literal} (none : ¬ Begins (c :: text)) :
      Scanned text ls → Scanned (c :: text) ls
  | found {l : Literal} {text : List Char} {ls : List Literal} (formed : l.WellFormed)
      (longest : ∀ c ∈ text.head?, c ∉ digitChars) :
      Scanned text ls → Scanned (l.chars ++ text) (l :: ls)

theorem isDigit_eq_false {c : Char} (other : c ∉ digitChars) : Hex.isDigit c = false :=
  eq_false_of_ne_true (mem_digitChars.not.mp other)

namespace Literal.WellFormed

variable {l : Literal}

theorem mem_literalChars (formed : l.WellFormed) {c : Char} (mem : c ∈ l.chars) :
    c ∈ literalChars := by
  rcases List.mem_cons.mp mem with rfl | mem
  · decide
  rcases List.mem_cons.mp mem with rfl | mem
  · rcases formed.mark with mark | mark
    · rw [mark]
      decide
    · rw [mark]
      decide
  · exact mem_literalChars_of_digit (formed.digits c mem)

end Literal.WellFormed

/-! The scan is the one that is meant. -/

theorem begins_of_digits {x : Char} (mark : isMark x = true) {d : Char}
    (digit : Hex.isDigit d = true) (text : List Char) : Begins ('0' :: x :: d :: text) := by
  refine ⟨⟨x, [d]⟩, ⟨?_, ?_, List.cons_ne_nil _ _⟩, text, rfl⟩
  · rwa [isMark, Bool.or_eq_true, decide_eq_true_iff, decide_eq_true_iff] at mark
  · exact List.forall_mem_singleton.mpr (mem_digitChars.mpr digit)

/-- Where no literal begins, the scan goes on with the next character as if none stood before. -/
theorem literals_skip {c : Char} {text : List Char} (none : ¬ Begins (c :: text)) :
    literals (c :: text) = literals text := by
  by_cases zero : c = '0'
  · subst zero
    match text with
    | [] => rfl
    | x :: text =>
      by_cases mark : isMark x = true
      · have other : x ≠ '0' := by
          rintro rfl
          contradiction
        rw [literals_cons other]
        match text with
        | [] => simp [literals, literalsFrom, Scan.restart, mark]
        | d :: text =>
          have other : Hex.isDigit d = false :=
            Bool.not_eq_true _ ▸ fun digit => none (begins_of_digits mark digit text)
          simp [literals, literalsFrom, Scan.restart, mark, other]
      · simp [literals, literalsFrom, Scan.restart, mark]
  · exact literals_cons zero text

/-- A literal that begins here can be taken with all its digits. -/
theorem Begins.exists_longest {text : List Char} (begins : Begins text) :
    ∃ (l : Literal) (rest : List Char), l.WellFormed ∧ (∀ c ∈ rest.head?, c ∉ digitChars) ∧
      text = l.chars ++ rest := by
  obtain ⟨l, formed, rest, rfl⟩ := begins
  refine ⟨⟨l.mark, l.digits ++ rest.takeWhile Hex.isDigit⟩, rest.dropWhile Hex.isDigit,
    ⟨formed.mark, ?_, ?_⟩, ?_, ?_⟩
  · intro d mem
    rcases List.mem_append.mp mem with mem | mem
    · exact formed.digits d mem
    · exact mem_digitChars.mpr (List.all_eq_true.mp List.all_takeWhile d mem)
  · exact List.append_ne_nil_of_left_ne_nil formed.some _
  · intro c first mem
    have stop := List.head?_dropWhile_not Hex.isDigit rest
    rw [first] at stop
    exact Bool.false_ne_true (stop.symm.trans (mem_digitChars.mp mem))
  · simp [Literal.chars, List.takeWhile_append_dropWhile]

theorem scanned_literals (text : List Char) : Scanned text (literals text) := by
  by_cases begins : Begins text
  · obtain ⟨l, rest, formed, longest, shape⟩ := begins.exists_longest
    have shorter : rest.length < text.length := by
      rw [shape, Literal.chars, List.cons_append, List.cons_append, List.length_cons,
        List.length_cons, List.length_append]
      omega
    rw [shape, formed.literals_chars fun c first => isDigit_eq_false (longest c first)]
    exact .found formed longest (scanned_literals rest)
  · match text with
    | [] => exact .nil
    | c :: text =>
      rw [literals_skip begins]
      exact .skip begins (scanned_literals text)
termination_by text.length

theorem scanned_iff {text : List Char} {ls : List Literal} :
    Scanned text ls ↔ literals text = ls := by
  constructor
  · intro scanned
    induction scanned with
    | nil => rfl
    | skip none _ ih => rw [literals_skip none, ih]
    | found formed longest _ ih =>
      rw [formed.literals_chars fun c first => isDigit_eq_false (longest c first), ih]
  · rintro rfl
    exact scanned_literals text

/-! Separators. -/

section Separator

variable {separator : Char} (outside : separator ∉ literalChars) {front back : List Char}

include outside

/-- No literal reaches beyond the separator. -/
theorem begins_of_append (begins : Begins (front ++ separator :: back)) : Begins front := by
  obtain ⟨l, formed, rest, shape⟩ := begins
  refine ⟨l, formed, ?_⟩
  rcases List.append_eq_append_iff.mp shape with ⟨more, rfl, -⟩ | ⟨more, whole, behind⟩
  · exact List.prefix_append _ _
  · cases more with
    | nil => exact ⟨[], by rw [whole, List.append_nil, List.append_nil]⟩
    | cons c more =>
      obtain ⟨rfl, -⟩ := List.cons.inj behind
      have mem : separator ∈ l.chars := whole ▸ List.mem_append_right _ List.mem_cons_self
      exact absurd (formed.mem_literalChars mem) outside

theorem Scanned.append_cons {ls ls' : List Literal} (first : Scanned front ls)
    (second : Scanned back ls') : Scanned (front ++ separator :: back) (ls ++ ls') := by
  induction first with
  | nil =>
    refine .skip (fun begins => ?_) second
    obtain ⟨l, formed, none⟩ := @begins_of_append separator outside [] back begins
    exact absurd none (by simp [Literal.chars])
  | skip none _ ih => exact .skip (fun begins => none (begins_of_append outside begins)) ih
  | @found l text ls formed longest _ ih =>
    rw [List.append_assoc, List.cons_append]
    refine .found formed ?_ ih
    intro c first
    cases text with
    | nil =>
      obtain rfl := Option.some.inj first
      exact fun mem => outside (mem_literalChars_of_digit mem)
    | cons d text => exact longest c first

theorem literals_append_cons :
    literals (front ++ separator :: back) = literals front ++ literals back :=
  scanned_iff.mp ((scanned_literals front).append_cons outside (scanned_literals back))

theorem literalValues_append_cons : literalValues (front ++ separator :: back) = (do
    let first ← literalValues front
    let second ← literalValues back
    pure (first ++ second)) := by
  rw [literalValues, literals_append_cons outside, List.mapM_append]
  rfl

end Separator

/-! Values. -/

namespace Literal

/-- The literal with more zeros in front of its digits. -/
def padded (zeros : Nat) (l : Literal) : Literal :=
  ⟨l.mark, List.replicate zeros '0' ++ l.digits⟩

theorem number_padded (zeros : Nat) (l : Literal) : (l.padded zeros).number = l.number := by
  have zero : place '0' = 0 := by decide
  rw [number, padded, List.reverse_append, List.reverse_replicate, List.map_append,
    List.map_replicate, zero, Nat.ofDigits_append_replicate_zero, number]

theorem WellFormed.padded {l : Literal} (formed : l.WellFormed) (zeros : Nat) :
    (l.padded zeros).WellFormed where
  mark := formed.mark
  digits := by
    intro d mem
    rcases List.mem_append.mp mem with mem | mem
    · obtain ⟨-, rfl⟩ := List.mem_replicate.mp mem
      decide
    · exact formed.digits d mem
  some := List.append_ne_nil_of_right_ne_nil _ formed.some

/-- A literal by itself is the only one that is found. -/
theorem WellFormed.literalValues_chars {l : Literal} (formed : l.WellFormed) :
    literalValues l.chars = if l.number < 2 ^ 64 then .ok [l.number]
      else .error (.header (.hugeLiteral (String.ofList l.chars))) := by
  have alone : literals l.chars = [l] := by
    have found := @WellFormed.literals_chars l formed [] nofun
    rwa [List.append_nil] at found
  have value : l.value = if l.number < 2 ^ 64 then .ok l.number
      else .error (.header (.hugeLiteral (String.ofList l.chars))) := by
    rw [Literal.value, formed.value_digits]
    rfl
  rw [literalValues, alone, List.mapM_cons, value]
  split
  · rfl
  · rfl

end Literal

/-- The values of a text are those of the literals that are scanned. On the two sides of a separator
they are found apart, and the first fault counts. A literal by itself has the value of its digits,
however many zeros stand in front of these, and is at fault from 2 ^ 64 on. -/
theorem literalValues_scan :
    (∀ text values, literalValues text = .ok values ↔
      ∃ ls, Scanned text ls ∧ ls.map Literal.number = values ∧ ∀ v ∈ values, v < 2 ^ 64) ∧
    (∀ front back separator, separator ∉ literalChars →
      literalValues (front ++ separator :: back) = do
        let first ← literalValues front
        let second ← literalValues back
        pure (first ++ second)) ∧
    ∀ l : Literal, l.WellFormed → ∀ zeros, literalValues (l.padded zeros).chars =
      if l.number < 2 ^ 64 then .ok [l.number]
      else .error (.header (.hugeLiteral (String.ofList (l.padded zeros).chars))) := by
  refine ⟨fun text values => ?_, fun _ _ _ => ?_, fun l formed zeros => ?_⟩
  · rw [literalValues_eq_ok_iff]
    constructor
    · intro bounded
      exact ⟨literals text, scanned_literals text, bounded⟩
    · rintro ⟨ls, scanned, bounded⟩
      rwa [scanned_iff.mp scanned]
  · exact fun outside => literalValues_append_cons outside
  · rw [(formed.padded zeros).literalValues_chars, l.number_padded zeros]

/-- Parts of literals on both sides of a comma, and the largest number that fits, and the next one,
with more digits than it needs. -/
theorem literalValues_scan_fragments :
    ',' ∉ literalChars ∧
    literalValues ("0x0x5".toList ++ ',' :: "00x1 0x".toList) = .ok [0, 1] ∧
    literalValues ("0x10000000000000000".toList ++ ',' :: "0x20000000000000000".toList) =
      .error (.header (.hugeLiteral "0x10000000000000000")) ∧
    Literal.WellFormed ⟨'X', "fFFFffffFFFFffff".toList⟩ ∧
    literalValues "0X000fFFFffffFFFFffff".toList = .ok [2 ^ 64 - 1] ∧
    Literal.WellFormed ⟨'x', "10000000000000000".toList⟩ ∧
    literalValues "0x0010000000000000000".toList =
      .error (.header (.hugeLiteral "0x0010000000000000000")) := by
  obtain ⟨-, apart, alone⟩ := literalValues_scan
  have comma : ',' ∉ literalChars := by decide
  have largest : Literal.WellFormed ⟨'X', "fFFFffffFFFFffff".toList⟩ := by decide
  have next : Literal.WellFormed ⟨'x', "10000000000000000".toList⟩ := by decide
  exact ⟨comma, apart _ _ _ comma, apart _ _ _ comma, largest, alone _ largest 3, next,
    alone _ next 2⟩

end TrustedAppId.Header
