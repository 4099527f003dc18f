import TrustedAppId.Artifact.Header
import TrustedAppId.Proofs.Text.Lines
import TrustedAppId.Proofs.Uuid.RoundTrip
/-! A rendered header reads back under a name that is one, and whatever is read has such a name. The
guard line and the definition are found, and the literals in front of the inner braces and within
them are the fields of the identifier. -/
namespace TrustedAppId

theorem Identifier.take_isName {name : List Char} (valid : isName name = true) {c : Char}
    (hc : isPart c = false) (rest : List Char) :
    take? (name ++ c :: rest) = some (name, c :: rest) := by
  cases name with
  | nil => contradiction
  | cons first name =>
    rw [isName, Bool.and_eq_true, List.all_eq_true] at valid
    have run : (name ++ c :: rest).takeWhile isPart = name := by
      rw [List.takeWhile_append_of_pos valid.2, List.takeWhile_cons_of_neg (by simp [hc]),
        List.append_nil]
    have rest' : (name ++ c :: rest).dropWhile isPart = c :: rest := by
      rw [List.dropWhile_append_of_pos valid.2, List.dropWhile_cons_of_neg (by simp [hc])]
    simp [take?, valid.1, run, rest']

namespace Header

/-! Literals. -/

theorem literals_cons {c : Char} (h : c ≠ '0') (cs : List Char) :
    literals (c :: cs) = literals cs := by
  simp [literals, literalsFrom, Scan.restart, h]

/-- The digits of a literal are read to their end. -/
theorem literalsFrom_digits {ds : List Char} (digits : ∀ d ∈ ds, Hex.isDigit d = true)
    {rest : List Char} (boundary : ∀ c ∈ rest.head?, Hex.isDigit c = false) (x : Char)
    (done : List Char) :
    literalsFrom (.digits x done) (ds ++ rest) = ⟨x, done.reverse ++ ds⟩ :: literals rest := by
  induction ds generalizing done with
  | nil =>
    cases rest with
    | nil => simp [literalsFrom, literals]
    | cons c rest =>
      -- What ends the digits is skipped; only a zero, which is a digit, could begin a literal.
      have other : c ≠ '0' := by
        rintro rfl
        exact Bool.false_ne_true (boundary _ rfl).symm
      simp [literalsFrom, boundary c rfl, literals, Scan.restart, other]
  | cons d ds ih =>
    rw [List.forall_mem_cons] at digits
    rw [List.cons_append, literalsFrom, if_pos digits.1, ih digits.2]
    simp

theorem literals_digits {x : Char} (mark : isMark x = true) {ds : List Char}
    (digits : ∀ d ∈ ds, Hex.isDigit d = true) (some : ds ≠ []) {rest : List Char}
    (boundary : ∀ c ∈ rest.head?, Hex.isDigit c = false) :
    literals ('0' :: x :: (ds ++ rest)) = ⟨x, ds⟩ :: literals rest := by
  cases ds with
  | nil => exact absurd rfl some
  | cons d ds =>
    rw [List.forall_mem_cons] at digits
    have behind := literalsFrom_digits digits.2 boundary x [d]
    simpa [literals, literalsFrom, Scan.restart, mark, digits.1] using behind

theorem literals_literal (n : Nat) {c : Char} (hc : Hex.isDigit c = false) (rest : List Char) :
    literals (literal n ++ c :: rest) = ⟨'x', Hex.minimal n⟩ :: literals (c :: rest) :=
  literals_digits rfl (fun _ => Hex.isDigit_of_mem_minimal) (Hex.minimal_ne_nil n) (by simp [hc])

theorem literals_octetLiteral (b : BitVec 8) {c : Char} (hc : Hex.isDigit c = false)
    (rest : List Char) :
    literals (octetLiteral b ++ c :: rest) = ⟨'x', Hex.fixed 2 b.toNat⟩ :: literals (c :: rest) :=
  literals_digits rfl (fun _ => Hex.isDigit_of_mem_fixed) (by simp [Hex.fixed]) (by simp [hc])

theorem value_minimal {bits : Nat} (fits : bits ≤ 64) (v : BitVec bits) :
    Literal.value ⟨'x', Hex.minimal v.toNat⟩ = .ok v.toNat := by
  have bound : v.toNat < Nat.pow 2 64 :=
    Nat.lt_of_lt_of_le v.isLt (Nat.pow_le_pow_right (by decide) fits)
  simp only [Literal.value, Hex.value_minimal, if_pos bound]

theorem value_fixed (b : BitVec 8) : Literal.value ⟨'x', Hex.fixed 2 b.toNat⟩ = .ok b.toNat := by
  have bound : b.toNat < Nat.pow 2 64 := Nat.lt_of_lt_of_le b.isLt (by decide)
  simp only [Literal.value, @Hex.value_fixed 2 _ b.isLt, if_pos bound]

theorem narrow_toNat {bits : Nat} (v : BitVec bits) : narrow bits v.toNat = .ok v := by
  rw [narrow, if_pos (show v.toNat < Nat.pow 2 bits from v.isLt), BitVec.ofNat_toNat,
    BitVec.setWidth_eq]

/-- The text between the brace of the definition and the one of the inner list. -/
def outerText (f : Fields) : List Char := [' ', '\\', '\n'] ++ outerChars f ++ [' ', ' ']

def innerText (f : Fields) : List Char :=
  [' '] ++ literal f.clockSeqHiAndReserved.toNat ++ comma ++ literal f.clockSeqLow.toNat ++
    f.node.flatMap (fun b => comma ++ octetLiteral b) ++ [' ']

theorem literals_outerText (f : Fields) :
    literals (outerText f) = [⟨'x', Hex.minimal f.timeLow.toNat⟩,
      ⟨'x', Hex.minimal f.timeMid.toNat⟩, ⟨'x', Hex.minimal f.timeHiAndVersion.toNat⟩] := by
  simp only [outerText, outerChars, comma, List.append_assoc, List.cons_append, List.nil_append]
  simp (disch := decide) only [literals_cons, literals_literal]
  rfl

theorem literals_innerText (f : Fields) :
    literals (innerText f) = ⟨'x', Hex.minimal f.clockSeqHiAndReserved.toNat⟩ ::
      ⟨'x', Hex.minimal f.clockSeqLow.toNat⟩ ::
        f.node.map fun b => ⟨'x', Hex.fixed 2 b.toNat⟩ := by
  obtain ⟨_, _, _, _, _, _, _, _, -, -, -, node⟩ := f.exists_octets
  simp only [innerText, comma, node, List.flatMap_cons, List.flatMap_nil, List.map_cons,
    List.map_nil, List.append_assoc, List.cons_append, List.nil_append]
  simp (disch := decide) only [literals_cons, literals_literal, literals_octetLiteral]
  rfl

theorem readInitializer_fields (f : Fields) :
    readInitializer (outerText f) (innerText f) = .ok f.toUuid := by
  obtain ⟨_, _, _, _, _, _, _, _, same, first, second, node⟩ := f.exists_octets
  have outer : literalValues (outerText f) =
      .ok [f.timeLow.toNat, f.timeMid.toNat, f.timeHiAndVersion.toNat] := by
    simp [literalValues, literals_outerText, List.mapM_cons, value_minimal, bind, Except.bind, pure,
      Except.pure]
  have inner : literalValues (innerText f) = .ok (f.clockSeqHiAndReserved.toNat ::
      f.clockSeqLow.toNat :: f.node.map BitVec.toNat) := by
    simp [literalValues, literals_innerText, node, List.mapM_cons, value_minimal,
      value_fixed, bind, Except.bind, pure, Except.pure]
  have octets : readInner (f.clockSeqHiAndReserved.toNat :: f.clockSeqLow.toNat ::
      f.node.map BitVec.toNat) = .ok f.clockSeqAndNode := by
    simp [readInner, node, first, second, same, narrow_toNat, bind, Except.bind, pure, Except.pure]
  simp [readInitializer, outer, inner, octets, narrow_toNat, bind, Except.bind, pure, Except.pure]

/-! The definition. -/

theorem mem_literal {n : Nat} {c : Char} (h : c ∈ literal n) : c = 'x' ∨ Hex.isDigit c = true := by
  simp only [literal, List.mem_cons] at h
  rcases h with rfl | rfl | h
  · exact .inr (by decide)
  · exact .inl rfl
  · exact .inr (Hex.isDigit_of_mem_minimal h)

theorem mem_octetLiteral {b : BitVec 8} {c : Char} (h : c ∈ octetLiteral b) :
    c = 'x' ∨ Hex.isDigit c = true := by
  simp only [octetLiteral, List.mem_cons] at h
  rcases h with rfl | rfl | h
  · exact .inr (by decide)
  · exact .inl rfl
  · exact .inr (Hex.isDigit_of_mem_fixed h)

theorem not_mem_literal {mark : Char} (other : mark ≠ 'x') (digit : Hex.isDigit mark = false)
    (n : Nat) : mark ∉ literal n := by
  intro mem
  rcases mem_literal mem with same | found
  · exact other same
  · exact Bool.false_ne_true (digit.symm.trans found)

theorem not_mem_octetLiteral {mark : Char} (other : mark ≠ 'x') (digit : Hex.isDigit mark = false)
    (b : BitVec 8) : mark ∉ octetLiteral b := by
  intro mem
  rcases mem_octetLiteral mem with same | found
  · exact other same
  · exact Bool.false_ne_true (digit.symm.trans found)

theorem not_mem_outerText {mark : Char} (f : Fields) (other : mark ∉ [' ', '\\', '\n', ',', 'x'])
    (digit : Hex.isDigit mark = false) : mark ∉ outerText f := by
  simp only [List.mem_cons, not_or] at other
  have none := not_mem_literal other.2.2.2.2.1 digit
  simp [outerText, outerChars, comma, none, other]

theorem not_mem_innerText {mark : Char} (f : Fields) (other : mark ∉ [' ', ',', 'x'])
    (digit : Hex.isDigit mark = false) : mark ∉ innerText f := by
  simp only [List.mem_cons, not_or] at other
  have none := not_mem_literal other.2.2.1 digit
  have none' := not_mem_octetLiteral other.2.2.1 digit
  simp [innerText, comma, none, none', other]

/-- What stands behind the brace of the inner list. -/
def tailText : List Char := [' ', '\\', '\n', '\x7d', '\n']

/-- What stands behind the brace of the definition, with any text behind the inner list. -/
def bodyText (f : Fields) (tail : List Char) : List Char :=
  outerText f ++ '\x7b' :: (innerText f ++ '\x7d' :: tail)

def guardText : List Char := "#pragma once ".toList

def defineText : List Char := "#define ".toList

/-- A header with any text behind the brace of its definition. -/
def opened (name body : List Char) : List Char :=
  guardText ++ '\n' :: ([] ++ '\n' :: (defineText ++ (name ++ ' ' :: '\x7b' :: body)))

theorem layout_eq (name : List Char) (f : Fields) :
    "#pragma once \n\n#define ".toList ++ name ++ [' ', '\x7b', ' ', '\\', '\n'] ++ outerChars f ++
        innerChars f ++ ['\x7d', '\n'] = opened name (bodyText f tailText) := by
  have opening : "#pragma once \n\n#define ".toList =
      guardText ++ '\n' :: ([] ++ '\n' :: defineText) := by decide
  rw [opening]
  simp only [opened, bodyText, outerText, innerText, innerChars, tailText, List.append_assoc,
    List.cons_append, List.nil_append]

theorem renderChars_eq (name : List Char) (u : Uuid) :
    renderChars name u = opened name (bodyText (.ofUuid u) tailText) :=
  layout_eq name (.ofUuid u)

theorem splitBody_bodyText (f : Fields) {tail : List Char} (closed : '\x7d' ∈ tail) :
    splitBody (bodyText f tail) = .ok (outerText f, innerText f) := by
  rw [splitBody, bodyText, Text.splitFirst_append (not_mem_outerText f (by decide) (by decide))]
  simp only []
  rw [Text.splitFirst_append (not_mem_innerText f (by decide) (by decide))]
  simp only [List.contains_iff_mem, closed, if_true]

theorem dropSpaces_name {name : List Char} (valid : Identifier.isName name = true)
    (rest : List Char) : dropSpaces (name ++ rest) = name ++ rest := by
  cases name with
  | nil => contradiction
  | cons first name =>
    have part := Identifier.isPart_of_mem valid (List.mem_cons_self ..)
    have other : isSpace first = false := by
      have := Identifier.toNat_of_isPart part
      simp only [isSpace, Text.char_eq_iff, Char.reduceToNat, Bool.or_eq_false_iff,
        decide_eq_false_iff_not]
      omega
    rw [List.cons_append, dropSpaces, List.dropWhile_cons_of_neg (by simp [other])]

theorem dropSpaces_append {gap : List Char} (spaces : ∀ c ∈ gap, isSpace c = true)
    (rest : List Char) : dropSpaces (gap ++ rest) = dropSpaces rest :=
  List.dropWhile_append_of_pos spaces

theorem dropSpaces_cons {c : Char} (other : isSpace c = false) (rest : List Char) :
    dropSpaces (c :: rest) = c :: rest :=
  List.dropWhile_cons_of_neg (by simp [other])

theorem dropGap_append {gap : List Char} (spaces : ∀ c ∈ gap, isSpace c = true) (some : gap ≠ [])
    (rest : List Char) : dropGap? (gap ++ rest) = .some (dropSpaces rest) := by
  cases gap with
  | nil => exact absurd rfl some
  | cons c gap =>
    rw [dropGap?, dropSpaces_append spaces]
    simp [spaces c List.mem_cons_self]

def defineWord : List Char := ['d', 'e', 'f', 'i', 'n', 'e']

/-- A name ends at the space or at the brace behind it. -/
theorem take_name {name : List Char} (valid : Identifier.isName name = true) {gap : List Char}
    (spaces : ∀ c ∈ gap, isSpace c = true) (rest : List Char) :
    Identifier.take? (name ++ (gap ++ '\x7b' :: rest)) = some (name, gap ++ '\x7b' :: rest) := by
  cases gap with
  | nil => exact Identifier.take_isName valid (by decide) rest
  | cons c gap =>
    have space := spaces c List.mem_cons_self
    have other : Identifier.isPart c = false := by
      rw [isSpace, Bool.or_eq_true, decide_eq_true_iff, decide_eq_true_iff] at space
      rcases space with rfl | rfl
      · decide
      · decide
    exact Identifier.take_isName valid other _

/-- Any spaces may stand around the parts of a definition, and some must stand in front of its
name. -/
theorem define_spaced {indent afterHash afterDefine name afterName : List Char}
    (indent_spaces : ∀ c ∈ indent, isSpace c = true)
    (afterHash_spaces : ∀ c ∈ afterHash, isSpace c = true)
    (afterDefine_spaces : ∀ c ∈ afterDefine, isSpace c = true) (apart : afterDefine ≠ [])
    (valid : Identifier.isName name = true) (afterName_spaces : ∀ c ∈ afterName, isSpace c = true)
    (body : List Char) :
    define? (indent ++ '#' :: (afterHash ++ (defineWord ++ (afterDefine ++
      (name ++ (afterName ++ '\x7b' :: body)))))) = some (name, body) := by
  rw [define?, dropSpaces_append indent_spaces, dropSpaces_cons (by decide)]
  simp only [dropWord?, if_true, Option.bind_eq_bind, Option.bind_some]
  rw [dropSpaces_append afterHash_spaces, defineWord, List.cons_append, dropSpaces_cons (by decide)]
  simp only [dropWord?, List.cons_append, List.nil_append, if_true, Option.bind_some]
  rw [dropGap_append afterDefine_spaces apart, Option.bind_some, dropSpaces_name valid,
    take_name valid afterName_spaces, Option.bind_some, dropSpaces_append afterName_spaces,
    dropSpaces_cons (by decide)]
  simp only [dropWord?, if_true, Option.bind_some]
  rfl

theorem define_name {name : List Char} (valid : Identifier.isName name = true) (body : List Char) :
    define? ("#define ".toList ++ (name ++ ' ' :: '\x7b' :: body)) = some (name, body) := by
  have space : ∀ c ∈ [' '], isSpace c = true := List.all_eq_true.mp rfl
  exact @define_spaced [] [] [' '] name [' '] nofun nofun space (List.cons_ne_nil _ _) valid space
    body

/-- No definition begins within a line that has another beginning. -/
theorem findDefine_false_append {line : List Char} (newline : '\n' ∉ line) (rest : List Char) :
    findDefine? false (line ++ '\n' :: rest) = findDefine? true rest := by
  induction line with
  | nil => simp [findDefine?]
  | cons c line ih =>
    rw [List.mem_cons, not_or] at newline
    simp [findDefine?, Ne.symm newline.1, ih newline.2]

theorem findDefine_append {line rest : List Char} (newline : '\n' ∉ line)
    (other : define? (line ++ '\n' :: rest) = none) :
    findDefine? true (line ++ '\n' :: rest) = findDefine? true rest := by
  cases line with
  | nil =>
    rw [List.nil_append] at other
    simp [findDefine?, other]
  | cons c line =>
    rw [List.mem_cons, not_or] at newline
    rw [List.cons_append] at other
    simp [findDefine?, other, Ne.symm newline.1, findDefine_false_append newline.2]

/-- A definition at the front of a line is the first one. -/
theorem findDefine_of_define {text : List Char} {found : List Char × List Char}
    (here : define? text = some found) : findDefine? true text = some found := by
  cases text with
  | nil => simp [define?, dropSpaces, dropWord?] at here
  | cons c rest => simp only [findDefine?, here, if_true]

/-! The guard line. -/

theorem hasGuard_append {line : List Char} (newline : '\n' ∉ line)
    (guard : Text.trim line = guardLine) (rest : List Char) :
    hasGuard (line ++ '\n' :: rest) = true := by
  rw [hasGuard, Text.lines_append newline, List.any_cons, Text.trim_closeLine, guard,
    decide_eq_true rfl, Bool.true_or]

/-- The guard line defines nothing. -/
theorem define_guard {line : List Char} (guard : Text.trim line = guardLine) (rest : List Char) :
    define? (line ++ rest) = none := by
  obtain ⟨before, after, shape, blanks, -⟩ := Text.exists_trim_append line
  rw [shape, guard, List.append_assoc]
  clear shape
  -- Blanks in front of the mark are skipped until one of them is no space.
  induction before with
  | nil => rfl
  | cons c before ih =>
    obtain ⟨blank, blanks⟩ := List.forall_mem_cons.mp blanks
    rw [List.cons_append, define?]
    by_cases space : isSpace c = true
    · rw [dropSpaces, List.dropWhile_cons_of_pos space, ← dropSpaces]
      exact ih blanks
    · have other : c ≠ '#' := by
        rintro rfl
        contradiction
      rw [dropSpaces_cons (Bool.not_eq_true _ ▸ space), dropWord?, if_neg other]
      rfl

/-! Headers as they are rendered. -/

theorem findDefine_opened {name : List Char} (valid : Identifier.isName name = true)
    (body : List Char) : findDefine? true (opened name body) = some (name, body) := by
  have guarded : Text.trim guardText = guardLine := by decide
  rw [opened, findDefine_append (by decide) (define_guard guarded _),
    findDefine_append (by decide) rfl]
  exact findDefine_of_define (define_name valid body)

theorem hasGuard_opened (name body : List Char) : hasGuard (opened name body) = true :=
  hasGuard_append (by decide) (by decide) _

/-- Behind the inner list only a brace is needed. -/
theorem readChars_opened {name : List Char} (valid : Identifier.isName name = true) (u : Uuid)
    {tail : List Char} (closed : '\x7d' ∈ tail) :
    readChars (opened name (bodyText (.ofUuid u) tail)) = .ok (String.ofList name, u) := by
  simp [readChars, hasGuard_opened, findDefine_opened valid, valid, splitBody_bodyText _ closed,
    readInitializer_fields, Fields.toUuid_ofUuid, bind, Except.bind, pure, Except.pure]

theorem read_render {name : String} (valid : Identifier.isName name.toList = true) (u : Uuid) :
    read (render name u) = .ok (name, u) := by
  rw [read, render, String.toList_ofList, renderChars_eq, readChars_opened valid u (by decide),
    String.ofList_toList]

/-- What a text must hold to be read as a header. -/
theorem readChars_eq_ok_iff {text : List Char} {name : String} {u : Uuid} :
    readChars text = .ok (name, u) ↔ hasGuard text = true ∧ ∃ found body outer inner,
      findDefine? true text = some (found, body) ∧ Identifier.isName found = true ∧
      splitBody body = .ok (outer, inner) ∧ readInitializer outer inner = .ok u ∧
      String.ofList found = name := by
  simp only [readChars, bind, Except.bind, fault, pure, Except.pure, throw, throwThe,
    MonadExceptOf.throw]
  cases hasGuard text with
  | false => simp
  | true =>
    cases findDefine? true text with
    | none => simp
    | some found =>
      obtain ⟨found, body⟩ := found
      cases valid : Identifier.isName found with
      | false => simp [valid]
      | true =>
        cases split : splitBody body with
        | error e => simp [valid, split]
        | ok parts =>
          obtain ⟨outer, inner⟩ := parts
          cases initializer : readInitializer outer inner with
          | error e => simp [valid, split, initializer]
          | ok v =>
            simp only [valid, split, initializer, Bool.not_true, Bool.false_eq_true, if_false,
              Except.ok.injEq, Prod.mk.injEq, true_and, Option.some.injEq]
            constructor
            · rintro ⟨rfl, rfl⟩
              exact ⟨found, body, outer, inner, ⟨rfl, rfl⟩, valid, split, initializer, rfl⟩
            · rintro ⟨_, _, _, _, ⟨rfl, rfl⟩, _, split', initializer', rfl⟩
              rw [split, Except.ok.injEq, Prod.mk.injEq] at split'
              rw [← split'.1, ← split'.2, initializer, Except.ok.injEq] at initializer'
              exact ⟨rfl, initializer'⟩

theorem isName_of_read {text name : String} {u : Uuid} (h : read text = .ok (name, u)) :
    Identifier.isName name.toList = true := by
  obtain ⟨_, found, _, _, _, _, valid, _, _, rfl⟩ := readChars_eq_ok_iff.mp h
  rw [String.toList_ofList]
  exact valid

end Header

end TrustedAppId
