import TrustedAppId.Proofs.Markup.SingleQuotes
import TrustedAppId.Proofs.Text.Digits
/-! Scalars between double quotes read back. They are spelt on one line, and each character or
escape adds one character to the text. -/
namespace TrustedAppId.Markup

variable {c letter : Char} {p : Position} {gap : Gap} {cs ds tail done : List Char}

theorem isBreak_of_isDigit (h : Hex.isDigit c = true) : isBreak c = false := by
  have := Hex.toNat_of_isDigit h
  rw [← Bool.not_eq_true, isBreak_iff]
  omega

theorem charOfCode?_toNat (c : Char) : charOfCode? c.toNat = some c := by
  have valid : c.toNat < 0xd800 ∨ 0xdfff < c.toNat ∧ c.toNat ≤ 0x10ffff := by
    rcases c.valid with low | ⟨middle, high⟩
    · exact .inl low
    · exact .inr ⟨middle, Nat.le_of_lt_succ high⟩
  rw [charOfCode?, if_pos valid, Char.ofNat_toNat]

theorem escapeOf_of_lookup (found : escapeLetters.lookup c = some letter) :
    escapeOf letter = some (.char c) ∧ isBreak letter = false ∧ isPrintable letter = true ∧
      letter.utf8Size = 1 := by
  simp only [escapeLetters, List.lookup_cons] at found
  repeat' split at found
  all_goals first
    | contradiction
    | obtain rfl := Option.some.inj found; simp_all [escapeOf]; decide

/-- The digits of an escaped code point. -/
theorem doubleQuoted_digits (digits : ∀ d ∈ ds, Hex.isDigit d = true) (some' : ds ≠ [])
    (value : Nat) (p : Position) (gap : Gap) (tail done : List Char) :
    doubleQuoted (some (ds.length, value)) (ds ++ tail) p gap done =
      (charOfCode? (ds.foldl (fun n d => n * 16 + Hex.digitValue d) value)).bind fun meaning =>
        doubleQuoted none tail (p.through ds) .none (meaning :: done) := by
  induction ds generalizing p gap value with
  | nil => exact absurd rfl some'
  | cons d rest ih =>
    obtain ⟨digit, others⟩ := List.forall_mem_cons.mp digits
    rw [List.cons_append, doubleQuoted, if_pos digit,
      Position.through_cons (isBreak_of_isDigit digit)]
    cases rest with
    | nil => rfl
    | cons e rest => exact ih others (List.cons_ne_nil e rest) _ _ _

/-- The code point of `c` can be escaped by `mark` and so many digits. -/
structure EscapesCode (c mark : Char) (width : Nat) : Prop where
  escape : escapeOf mark = some (.code width)
  not_break : isBreak mark = false
  printable : isPrintable mark = true
  not_zero : width ≠ 0
  wide : c.toNat < Nat.pow 16 width

theorem doubleQuoted_code {mark : Char} {width : Nat} (code : EscapesCode c mark width) :
    doubleQuoted none ('\\' :: mark :: Hex.fixedUpper width c.toNat ++ tail) p gap done =
      doubleQuoted none tail (p.through ('\\' :: mark :: Hex.fixedUpper width c.toNat)) .none
        (c :: gap.fill.reverse ++ done) := by
  obtain ⟨escape, noBreak, -, notZero, wide⟩ := code
  have notReturn : mark ≠ '\r' := by
    rintro rfl
    contradiction
  have digits : ∀ d ∈ Hex.fixedUpper width c.toNat, Hex.isDigit d = true := by
    intro d mem
    exact Hex.isDigit_of_mem_fixedUpper mem
  have length := Hex.length_fixedUpper width c.toNat
  have value : (Hex.fixedUpper width c.toNat).foldl (fun n d => n * 16 + Hex.digitValue d) 0 =
      c.toNat := Hex.value_fixedUpper wide
  have notEmpty : Hex.fixedUpper width c.toNat ≠ [] := by
    intro empty
    rw [empty] at length
    exact notZero length.symm
  have read := doubleQuoted_digits digits notEmpty 0 ((p.next '\\').next mark) .none tail
    (gap.fill.reverse ++ done)
  rw [length, value, charOfCode?_toNat] at read
  rw [List.cons_append, List.cons_append, doubleQuoted, Position.through_cons rfl,
    Position.through_cons noBreak]
  · simp only [noBreak, Bool.false_eq_true, reduceIte, escape]
    exact read
  · intro _ same
    exact absurd same notReturn

/-- A character is written as it is or escaped, by a letter or by its code point. -/
theorem doubleChar_cases (c : Char) :
    (isPrintable c = true ∧ isBreak c = false ∧ c ≠ '\x22' ∧ c ≠ '\\' ∧ doubleChar c = [c]) ∨
    (∃ letter, escapeLetters.lookup c = some letter ∧ doubleChar c = ['\\', letter]) ∨
    (∃ mark width, EscapesCode c mark width ∧
      doubleChar c = '\\' :: mark :: Hex.fixedUpper width c.toNat) := by
  unfold doubleChar
  split
  · next plain =>
    simp only [Bool.and_eq_true, Bool.not_eq_true', decide_eq_true_eq] at plain
    obtain ⟨⟨⟨printable, noBreak⟩, notQuote⟩, notSlash⟩ := plain
    exact .inl ⟨printable, noBreak, notQuote, notSlash, rfl⟩
  · refine .inr ?_
    cases found : escapeLetters.lookup c with
    | some letter => exact .inl ⟨letter, rfl, rfl⟩
    | none =>
      refine .inr ?_
      simp only [escapeCode]
      split
      · next small =>
        have wide : c.toNat < Nat.pow 16 2 := Nat.lt_succ_of_le small
        exact ⟨'x', 2, ⟨rfl, by decide, by decide, by decide, wide⟩, rfl⟩
      · split
        · next middle =>
          have wide : c.toNat < Nat.pow 16 4 := Nat.lt_succ_of_le middle
          exact ⟨'u', 4, ⟨rfl, by decide, by decide, by decide, wide⟩, rfl⟩
        · have wide : c.toNat < Nat.pow 16 8 := by
            rcases c.valid with low | ⟨-, high⟩
            · exact Nat.lt_trans low (by decide)
            · exact Nat.lt_trans high (by decide)
          exact ⟨'U', 8, ⟨rfl, by decide, by decide, by decide, wide⟩, rfl⟩

theorem any_isBreak_doubleChar (c : Char) : (doubleChar c).any isBreak = false := by
  rcases doubleChar_cases c with ⟨-, noBreak, -, -, same⟩ | ⟨letter, found, same⟩ |
    ⟨mark, width, code, same⟩
  · simp [same, noBreak]
  · simp [same, (escapeOf_of_lookup found).2.1, show isBreak '\\' = false from rfl]
  · rw [same, List.any_cons, List.any_cons, code.not_break, show isBreak '\\' = false from rfl,
      Bool.false_or, Bool.false_or, List.any_eq_false]
    intro d mem
    rw [Bool.not_eq_true]
    exact isBreak_of_isDigit (Hex.isDigit_of_mem_fixedUpper mem)

theorem doubleQuoted_cons (printable : isPrintable c = true) (noBreak : isBreak c = false)
    (notSlash : c ≠ '\\') (column : 0 < p.column) :
    doubleQuoted none (c :: tail) p gap done =
      if isSpacing c then doubleQuoted none tail (p.next c) (gap.addSpacing c) done
      else if c = '\x22' then some ((gap.fill.reverse ++ done).reverse, ⟨tail, p.next c⟩)
      else doubleQuoted none tail (p.next c) .none (c :: gap.fill.reverse ++ done) := by
  have notMargin : ¬ (p.column = 0 ∧ isDocumentMark (c :: tail) = true) := by
    rintro ⟨margin, -⟩
    exact Nat.ne_of_gt column margin
  rw [doubleQuoted]
  · simp only [noBreak, Bool.false_eq_true, reduceIte, if_neg notMargin]
  · intro _ same
    exact absurd same (not_carriageReturn printable)
  · intro _ same
    exact absurd same notSlash
  · intro _ _ same
    exact absurd same notSlash

theorem doubleQuoted_doubleChar (inside : gap.isBreaks = false) (column : 0 < p.column)
    (c : Char) (tail done : List Char) : ∃ gap' done', gap'.isBreaks = false ∧
      readSoFar gap' done' = readSoFar gap done ++ [c] ∧
      doubleQuoted none (doubleChar c ++ tail) p gap done =
        doubleQuoted none tail (p.through (doubleChar c)) gap' done' := by
  rcases doubleChar_cases c with ⟨printable, noBreak, notQuote, notSlash, same⟩ |
    ⟨letter, found, same⟩ | ⟨mark, width, code, same⟩
  · rw [same, List.singleton_append, doubleQuoted_cons printable noBreak notSlash column,
      Position.through_cons noBreak, if_neg notQuote]
    split
    · refine ⟨gap.addSpacing c, done, by rw [Gap.isBreaks_addSpacing, inside], ?_, rfl⟩
      simp [readSoFar, Gap.fill_addSpacing inside]
    · exact ⟨.none, c :: gap.fill.reverse ++ done, rfl, readSoFar_cons gap done c, rfl⟩
  · obtain ⟨escape, noBreak, -⟩ := escapeOf_of_lookup found
    refine ⟨.none, c :: gap.fill.reverse ++ done, rfl, readSoFar_cons gap done c, ?_⟩
    rw [same, Position.through_cons rfl, Position.through_cons noBreak, List.cons_append,
      List.singleton_append, doubleQuoted]
    · simp only [noBreak, Bool.false_eq_true, reduceIte, escape]
      rfl
    · rintro _ rfl
      contradiction
  · refine ⟨.none, c :: gap.fill.reverse ++ done, rfl, readSoFar_cons gap done c, ?_⟩
    rw [same]
    exact doubleQuoted_code code

theorem doubleQuoted_body (inside : gap.isBreaks = false) (column : 0 < p.column) :
    doubleQuoted none (cs.flatMap doubleChar ++ '\x22' :: tail) p gap done =
      some (readSoFar gap done ++ cs,
        ⟨tail, p.through (cs.flatMap doubleChar ++ ['\x22'])⟩) := by
  induction cs generalizing p gap done with
  | nil =>
    rw [List.flatMap_nil, List.nil_append,
      doubleQuoted_cons (by decide) (by decide) (by decide) column, List.append_nil]
    simp only [show isSpacing '\x22' = false from rfl, Bool.false_eq_true, reduceIte, readSoFar,
      List.reverse_append, List.reverse_reverse]
    rfl
  | cons c rest ih =>
    obtain ⟨gap', done', inside', soFar, read⟩ := doubleQuoted_doubleChar inside column c
      (rest.flatMap doubleChar ++ '\x22' :: tail) done
    have column' : 0 < (p.through (doubleChar c)).column := by
      rw [Position.column_through (any_isBreak_doubleChar c)]
      exact Nat.lt_of_lt_of_le column (Nat.le_add_right _ _)
    rw [List.flatMap_cons, List.append_assoc, read, ih inside' column', soFar]
    simp only [Position.through_append, List.append_assoc, List.singleton_append]

end TrustedAppId.Markup
