import TrustedAppId.Proofs.Text.Characters
import TrustedAppId.Proofs.Text.Digits
import TrustedAppId.Proofs.Text.Lines
import TrustedAppId.Timestamp.Reading
import TrustedAppId.Timestamp.Writing
/-! A point in time reads back from its text: numbers of set width, the year in each of its forms,
and the fraction with the zeros that were left out. -/
namespace TrustedAppId

namespace Timestamp

variable {ds rest : List Char}

theorem trimLeft_digits (notEmpty : ds ≠ []) (digits : ∀ d ∈ ds, Decimal.isDigit d = true) :
    Text.trimLeft (ds ++ rest) = ds ++ rest := by
  cases ds with
  | nil => contradiction
  | cons d ds =>
    exact Text.trimLeft_cons (Decimal.isBlank_of_isDigit (digits d List.mem_cons_self)) _

/-- Digits are read to the last of them, or up to as many as may be read. -/
theorem readDigits_append {most : Nat} (notEmpty : ds ≠ [])
    (digits : ∀ d ∈ ds, Decimal.isDigit d = true) (fits : ds.length ≤ most)
    (ends : ds.length = most ∨ rest.head?.any Decimal.isDigit = false) :
    readDigits most (ds ++ rest) = .ok (ds, rest) := by
  have run : ((ds ++ rest).take most).takeWhile Decimal.isDigit = ds := by
    rw [List.take_append, List.take_of_length_le fits, List.takeWhile_append_of_pos digits]
    have none : (rest.take (most - ds.length)).takeWhile Decimal.isDigit = [] := by
      rcases ends with full | stops
      · rw [full, Nat.sub_self, List.take_zero, List.takeWhile_nil]
      · cases rest with
        | nil => rw [List.take_nil, List.takeWhile_nil]
        | cons c rest =>
          have stops : Decimal.isDigit c = false := stops
          cases most - ds.length with
          | zero => rw [List.take_zero, List.takeWhile_nil]
          | succ more => rw [List.take_succ_cons, List.takeWhile_cons_of_neg (by simp [stops])]
    rw [none, List.append_nil]
  cases ds with
  | nil => contradiction
  | cons d ds =>
    rw [List.cons_append] at run ⊢
    simp only [readDigits, digits d List.mem_cons_self, if_true, run]
    rw [← List.cons_append, List.drop_left]

theorem fixed_ne_nil {width : Nat} (h : width ≠ 0) (n : Nat) : Decimal.fixed width n ≠ [] := by
  intro empty
  exact h (by rw [← Decimal.length_fixed width n, empty, List.length_nil])

theorem readDigits_fixed {width most n : Nat} (wide : width ≠ 0) (fits : width ≤ most)
    (ends : width = most ∨ rest.head?.any Decimal.isDigit = false) :
    readDigits most (Decimal.fixed width n ++ rest) = .ok (Decimal.fixed width n, rest) :=
  readDigits_append (fixed_ne_nil wide n) (fun _ => Decimal.isDigit_of_mem_fixed)
    (by rwa [Decimal.length_fixed]) (by rwa [Decimal.length_fixed])

theorem readPart_fixed {least most n : Nat} (small : n < 100) (h : least ≤ n ∧ n ≤ most)
    (rest : List Char) : readPart least most (Decimal.fixed 2 n ++ rest) = .ok (n, rest) := by
  have value : Decimal.value (Decimal.fixed 2 n) = n := Decimal.value_fixed small
  rw [readPart, trimLeft_digits (fixed_ne_nil (by decide) n) fun _ => Decimal.isDigit_of_mem_fixed,
    readDigits_fixed (by decide) (Nat.le_refl 2) (.inl rfl)]
  simp only [bind, Except.bind, value, h, and_self, if_true]
  rfl

theorem readMark_cons {c : Char} (h : Text.isBlank c = false) (rest : List Char) :
    readMark c (c :: rest) = .ok rest := by
  simp only [readMark, Text.trimLeft_cons h, if_true]

/-- A year with a sign. -/
theorem readYear_signed (negative : Bool) (digits : ∀ d ∈ ds, Decimal.isDigit d = true)
    (notEmpty : ds ≠ []) (ends : rest.head?.any Decimal.isDigit = false) {year : Int}
    (value : (if negative then -(Decimal.value ds : Int) else Decimal.value ds) = year)
    (bounds : -yearLimit ≤ year ∧ year < yearLimit) :
    readYear ((if negative then '-' else '+') :: ds ++ rest) = .ok (year, rest) := by
  have read : readDigits (ds ++ rest).length (ds ++ rest) = .ok (ds, rest) :=
    readDigits_append notEmpty digits (by simp) (.inr ends)
  cases negative with
  | true =>
    rw [if_pos rfl] at value ⊢
    rw [readYear, List.cons_append, Text.trimLeft_cons (by decide)]
    simp only [read, bind, Except.bind, pure, Except.pure, if_true, value, bounds, and_self]
  | false =>
    rw [if_neg Bool.false_ne_true] at value ⊢
    rw [readYear, List.cons_append, Text.trimLeft_cons (by decide)]
    simp only [read, bind, Except.bind, pure, Except.pure, Bool.false_eq_true, if_false, value,
      bounds, and_self, if_true]

theorem readYear_fixed {year : Nat} (small : year ≤ 9999) (rest : List Char) :
    readYear (Decimal.fixed 4 year ++ rest) = .ok ((year : Int), rest) := by
  have read : readDigits 4 (Decimal.fixed 4 year ++ rest) = .ok (Decimal.fixed 4 year, rest) :=
    readDigits_fixed (by decide) (Nat.le_refl 4) (.inl rfl)
  have digits : ∀ d ∈ Decimal.fixed 4 year, Decimal.isDigit d = true :=
    fun _ => Decimal.isDigit_of_mem_fixed
  have value : Decimal.value (Decimal.fixed 4 year) = year :=
    Decimal.value_fixed (Nat.lt_succ_of_le small)
  have bounds : -yearLimit ≤ (year : Int) ∧ (year : Int) < yearLimit := by
    rw [yearLimit]
    omega
  rw [readYear, trimLeft_digits (fixed_ne_nil (by decide) year) digits]
  cases spelt : Decimal.fixed 4 year with
  | nil => exact absurd spelt (fixed_ne_nil (by decide) year)
  | cons d ds =>
    rw [spelt] at read digits value
    have first := digits d List.mem_cons_self
    have notMinus := Decimal.ne_of_isDigit first (by decide : Decimal.isDigit '-' = false)
    have notPlus := Decimal.ne_of_isDigit first (by decide : Decimal.isDigit '+' = false)
    rw [List.cons_append] at read ⊢
    split
    · next h => exact absurd (List.cons.inj h).1 notMinus
    · next h => exact absurd (List.cons.inj h).1 notPlus
    · simp only [read, bind, Except.bind, pure, Except.pure, Bool.false_eq_true, if_false, value,
        bounds, and_self, if_true]

theorem readYear_yearChars {year : Int} (reach : firstYear ≤ year ∧ year ≤ lastYear)
    (ends : rest.head?.any Decimal.isDigit = false) :
    readYear (yearChars year ++ rest) = .ok (year, rest) := by
  rw [firstYear, lastYear] at reach
  by_cases four : 0 ≤ year ∧ year ≤ 9999
  · have natural : ((year.toNat : Nat) : Int) = year := Int.toNat_of_nonneg four.1
    rw [yearChars, if_pos four, readYear_fixed (by omega), natural]
  · let size := if year.natAbs < 1000 then Decimal.fixed 4 year.natAbs
      else Decimal.minimal year.natAbs
    have spelt : yearChars year = (if decide (year < 0) then '-' else '+') :: size := by
      simp only [yearChars, if_neg four, decide_eq_true_eq, size]
    have digits : ∀ d ∈ size, Decimal.isDigit d = true := by
      intro d mem
      simp only [size] at mem
      split at mem
      · exact Decimal.isDigit_of_mem_fixed mem
      · exact Decimal.isDigit_of_mem_minimal mem
    have notEmpty : size ≠ [] := by
      simp only [size]
      split
      · exact fixed_ne_nil (by decide) _
      · exact Decimal.minimal_ne_nil _
    have value : Decimal.value size = year.natAbs := by
      simp only [size]
      split
      · next short => exact Decimal.value_fixed (Nat.lt_trans short (by decide))
      · exact Decimal.value_minimal _
    have signed : (if decide (year < 0) then -(Decimal.value size : Int)
        else Decimal.value size) = year := by
      rw [value]
      by_cases negative : year < 0
      · rw [decide_eq_true negative, if_pos rfl]
        omega
      · rw [decide_eq_false negative, if_neg Bool.false_ne_true]
        omega
    have bounds : -yearLimit ≤ year ∧ year < yearLimit := by
      rw [yearLimit]
      omega
    rw [spelt]
    exact readYear_signed _ digits notEmpty ends signed bounds

/-- A fraction that is written with `width` digits. -/
theorem readFraction_fixed {width n : Nat} (wide : width ≠ 0) (fits : width ≤ 9)
    (small : n < Nat.pow 10 width) (stops : rest.head?.any Decimal.isDigit = false) :
    readFraction ('.' :: Decimal.fixed width n ++ rest) =
      .ok (n * Nat.pow 10 (9 - width), rest) := by
  have stay : rest.dropWhile Decimal.isDigit = rest := by
    cases rest with
    | nil => rfl
    | cons c rest => exact List.dropWhile_cons_of_neg (by simpa using stops)
  rw [List.cons_append, readFraction, readDigits_fixed wide fits (.inr stops)]
  simp only [bind, Except.bind, pure, Except.pure, Decimal.value_fixed small, Decimal.length_fixed,
    stay]

theorem readFraction_fractionChars {n : Nat} (small : n < 1000000000) :
    readFraction (fractionChars n ++ ['Z']) = .ok (n, ['Z']) := by
  rw [fractionChars]
  split
  · next zero =>
    rw [zero]
    rfl
  · split
    · next even =>
      rw [readFraction_fixed (by decide) (by decide) (by omega : n / 1000000 < 1000) rfl]
      have : n / 1000000 * Nat.pow 10 (9 - 3) = n := (by omega : n / 1000000 * 1000000 = n)
      rw [this]
    · split
      · next even =>
        rw [readFraction_fixed (by decide) (by decide) (by omega : n / 1000 < 1000000) rfl]
        have : n / 1000 * Nat.pow 10 (9 - 6) = n := (by omega : n / 1000 * 1000 = n)
        rw [this]
      · rw [readFraction_fixed (by decide) (by decide) small rfl]
        have : n * Nat.pow 10 (9 - 9) = n := Nat.mul_one n
        rw [this]

theorem ofLocal?_zero (date : Date) (time : TimeOfDay) :
    ofLocal? date time 0 = some ⟨date, time⟩ := by
  have hour := time.hour_exists
  have minute := time.minute_exists
  let total : Int := 60 * time.hour + time.minute - 0
  have day : total / 1440 = 0 := by omega
  have hours : (total % 1440).toNat / 60 = time.hour := by omega
  have minutes : (total % 1440).toNat % 60 = time.minute := by omega
  have same : TimeOfDay.of? time.hour time.minute time.second time.nanosecond = some time := by
    rw [TimeOfDay.of?, dif_pos
      ⟨time.hour_exists, time.minute_exists, time.second_exists, time.nanosecond_exists⟩]
  simp only [ofLocal?, total] at day hours minutes ⊢
  simp only [day, hours, minutes, same]
  rfl

theorem read_text (t : Timestamp) : read t.text = .ok t := by
  obtain ⟨⟨year, month, day, reach, months, days⟩,
    ⟨hour, minute, second, nanosecond, hours, minutes, seconds, nanoseconds⟩⟩ := t
  have longest : daysInMonth year month ≤ 31 := by
    unfold daysInMonth
    repeat' split
    all_goals decide
  have readMonth (rest : List Char) := readPart_fixed (by omega) months rest
  have readDay (rest : List Char) := readPart_fixed (by omega) (⟨days.1, by omega⟩ :
    1 ≤ day ∧ day ≤ 31) rest
  have readHour (rest : List Char) := readPart_fixed (by omega) (⟨Nat.zero_le _, by omega⟩ :
    0 ≤ hour ∧ hour ≤ 23) rest
  have readMinute (rest : List Char) := readPart_fixed (by omega) (⟨Nat.zero_le _, by omega⟩ :
    0 ≤ minute ∧ minute ≤ 59) rest
  have readSecond (rest : List Char) := readPart_fixed (by omega) (⟨Nat.zero_le _, seconds⟩ :
    0 ≤ second ∧ second ≤ 60) rest
  have separator : isSeparator 'T' = true := rfl
  have offset : readOffset (Text.trimLeft ['Z']) = .ok (0, []) := rfl
  have nothing : Text.trimLeft [] = [] := rfl
  rw [read, text, String.toList_ofList, readChars, chars, dateChars, timeChars]
  simp only [List.append_assoc, List.cons_append]
  rw [readYear_yearChars reach rfl]
  simp only [bind, Except.bind, readMark_cons (by decide : Text.isBlank '-' = false),
    readMark_cons (by decide : Text.isBlank ':' = false), readMonth, readDay, readSeparator,
    separator, if_true, readHour, readMinute, readSecond, readFraction_fractionChars nanoseconds,
    offset, nothing, ne_eq, not_true_eq_false, if_false]
  simp only [Date.of?, TimeOfDay.of?, reach, months, days, hours, minutes, seconds, nanoseconds,
    and_self, dite_true, ofLocal?_zero]
  rfl

end Timestamp

end TrustedAppId
