import TrustedAppId.Proofs.Artifact.BuildVar
import TrustedAppId.Proofs.Artifact.Header
/-! Artifacts that have been cut off. Of a rendered artifact no front part is read but the whole and
the whole without its last line feed: a shorter build variable has too short a value, and a shorter
header lacks a brace. -/
namespace TrustedAppId

namespace Artifact

/-- All of a text, but for a line feed that may be missing at its end. -/
def Complete (whole part : String) : Prop := part = whole ∨ part ++ "\n" = whole

theorem Complete.front {whole part : String} (complete : Complete whole part) :
    part.toList <+: whole.toList := by
  rcases complete with rfl | rfl
  · exact List.prefix_refl _
  · rw [String.toList_append]
    exact List.prefix_append _ _

theorem complete_iff {whole part : String} {line : List Char}
    (ended : whole.toList = line ++ ['\n']) :
    Complete whole part ↔ part.toList = line ++ ['\n'] ∨ part.toList = line := by
  have whole' : part = whole ↔ part.toList = line ++ ['\n'] := by
    rw [← String.toList_inj, ended]
  have unended : part ++ "\n" = whole ↔ part.toList = line := by
    rw [← String.toList_inj, String.toList_append, ended]
    exact List.append_left_inj _
  rw [Complete, whole', unended]

/-- A reader that takes a line with and without its end, but no shorter front part of it, takes the
complete text only. -/
theorem readChars_front_iff {α : Type} {readChars : List Char → Except Error α} {line : List Char}
    {whole part : String} {x found : α} (ended : whole.toList = line ++ ['\n'])
    (taken : readChars (line ++ ['\n']) = .ok x) (unended : readChars line = .ok x)
    (shorter : ∀ {part}, part <+: line → readChars part = .ok found → part = line)
    (front : part.toList <+: whole.toList) :
    readChars part.toList = .ok found ↔ Complete whole part ∧ found = x := by
  rw [complete_iff ended]
  constructor
  · intro read
    rw [ended] at front
    rcases List.prefix_concat_iff.mp front with all | front
    · rw [all, taken] at read
      exact ⟨.inl all, (Except.ok.inj read).symm⟩
    · have all := shorter front read
      rw [all, unended] at read
      exact ⟨.inr all, (Except.ok.inj read).symm⟩
  · rintro ⟨all | all, rfl⟩
    · rw [all, taken]
    · rw [all, unended]

end Artifact

namespace BuildVar

/-- What is read has a value as long as an identifier. -/
theorem length_of_readLine {line : List Char} {found : String × Uuid}
    (read : readLine line = .ok found) :
    ∃ left right, line = left ++ '=' :: right ∧ '=' ∉ left ∧ 36 ≤ right.length := by
  simp only [readLine, fault] at read
  split at read
  · simp only [reduceCtorEq] at read
  next left right split' =>
  obtain ⟨shape, without⟩ := Text.splitFirst_eq_some split'
  refine ⟨left, right, shape, without, ?_⟩
  split at read
  · split at read
    · simp only [reduceCtorEq] at read
    next u spelt =>
    split at read
    · next canonical =>
      have length := Text.length_trim_le right
      rwa [← canonical, Uuid.length_chars] at length
    · simp only [reduceCtorEq] at read
  · simp only [reduceCtorEq] at read

variable {name : List Char} (valid : Identifier.isName name = true)

include valid

theorem eq_of_readLine {u : Uuid} {part : List Char} {found : String × Uuid}
    (front : part <+: name ++ '=' :: u.chars) (read : readLine part = .ok found) :
    part = name ++ '=' :: u.chars := by
  obtain ⟨left, right, rfl, without, long⟩ := length_of_readLine read
  obtain ⟨rest, shape⟩ := front
  have split := Text.splitFirst_append without (right ++ rest)
  rw [List.append_assoc, List.cons_append] at shape
  rw [shape, Text.splitFirst_append (Identifier.not_mem_of_isName valid (by decide)),
    Option.some.injEq, Prod.mk.injEq] at split
  have lengths := congrArg List.length split.2
  rw [Uuid.length_chars, List.length_append] at lengths
  have nothing : rest = [] := List.length_eq_zero_iff.mp (by omega)
  rw [nothing, List.append_nil] at shape
  exact shape

theorem eq_of_readChars {u : Uuid} {part : List Char} {found : String × Uuid}
    (front : part <+: name ++ '=' :: u.chars) (read : readChars part = .ok found) :
    part = name ++ '=' :: u.chars := by
  cases part with
  | nil => simp [readChars, Text.lines, Text.pieces, fault] at read
  | cons c line =>
    have newline : '\n' ∉ c :: line := fun mem =>
      newline_not_mem_assignment valid u (front.subset mem)
    rw [readChars, Text.lines_of_not_mem newline] at read
    cases blank : isBlankLine (c :: line) with
    | true => simp [blank, fault] at read
    | false =>
      rw [List.filter_cons_of_pos (by rw [blank, Bool.not_false]), List.filter_nil] at read
      exact eq_of_readLine valid front read

theorem readChars_assignment (u : Uuid) :
    readChars (name ++ '=' :: u.chars) = .ok (String.ofList name, u) := by
  apply readChars_of_lines valid
  obtain ⟨first, rest, shape⟩ : ∃ first rest, name ++ '=' :: u.chars = first :: rest := by
    cases name with
    | nil => contradiction
    | cons first rest => exact ⟨first, _, rfl⟩
  have newline := newline_not_mem_assignment valid u
  rw [shape] at newline ⊢
  exact Text.lines_of_not_mem newline

omit valid in
/-- A front part of a rendered build variable is read only if it is complete. -/
theorem read_front_iff {name : String} (valid : Identifier.isName name.toList = true) {u : Uuid}
    {part : String} {found : String × Uuid} (front : part.toList <+: (render name u).toList) :
    read part = .ok found ↔ Artifact.Complete (render name u) part ∧ found = (name, u) := by
  have ended : (render name u).toList = (name.toList ++ '=' :: u.chars) ++ ['\n'] :=
    String.toList_ofList
  have taken := readChars_of_lines valid (lines_renderChars valid u)
  have unended := readChars_assignment valid u
  rw [String.ofList_toList] at taken unended
  exact Artifact.readChars_front_iff ended taken unended (eq_of_readChars valid) front

end BuildVar

namespace Header

/-! Both closing braces have been written when a header is read. -/

theorem dropWord_suffix {word cs rest : List Char} (dropped : dropWord? word cs = some rest) :
    rest <:+ cs := by
  induction word generalizing cs with
  | nil => exact Option.some.inj dropped ▸ List.suffix_refl cs
  | cons w word ih =>
    cases cs with
    | nil => contradiction
    | cons c cs =>
      rw [dropWord?] at dropped
      split at dropped
      · exact (ih dropped).trans (List.suffix_cons c cs)
      · contradiction

theorem dropSpaces_suffix (cs : List Char) : dropSpaces cs <:+ cs := List.dropWhile_suffix _

theorem define_suffix {cs name body : List Char} (defined : define? cs = some (name, body)) :
    body <:+ cs := by
  simp only [define?, Option.bind_eq_bind, Option.bind_eq_some_iff, Option.pure_def,
    Option.some.injEq, Prod.mk.injEq, Prod.exists] at defined
  obtain ⟨first, mark, second, word, third, gap, taken, rest, name', last, brace, rfl, rfl⟩ :=
    defined
  have behindGap : third <:+ second := by
    rw [dropGap?] at gap
    split at gap
    · exact Option.some.inj gap ▸ dropSpaces_suffix second
    · contradiction
  have behindName : rest <:+ third := by
    cases third with
    | nil => contradiction
    | cons c third =>
      rw [Identifier.take?] at name'
      split at name'
      · obtain ⟨-, rfl⟩ := Prod.mk.inj (Option.some.inj name')
        exact (List.dropWhile_suffix _).trans (List.suffix_cons c third)
      · contradiction
  have front : second <:+ cs :=
    ((dropWord_suffix word).trans (dropSpaces_suffix first)).trans
      ((dropWord_suffix mark).trans (dropSpaces_suffix cs))
  have behindBrace : last <:+ rest := (dropWord_suffix brace).trans (dropSpaces_suffix rest)
  exact ((behindBrace.trans behindName).trans behindGap).trans front

theorem findDefine_suffix {lineStart : Bool} {text name body : List Char}
    (found : findDefine? lineStart text = some (name, body)) : body <:+ text := by
  induction text generalizing lineStart with
  | nil => contradiction
  | cons c rest ih =>
    rw [findDefine?] at found
    split at found
    · next here =>
      obtain rfl := Option.some.inj found
      split at here
      · exact define_suffix here
      · contradiction
    · exact (ih found).trans (List.suffix_cons c rest)

theorem braces_of_splitBody {body outer inner : List Char}
    (split' : splitBody body = .ok (outer, inner)) : 2 ≤ body.count '\x7d' := by
  simp only [splitBody, fault] at split'
  split at split'
  · simp only [reduceCtorEq] at split'
  next before rest opens =>
  split at split'
  · simp only [reduceCtorEq] at split'
  next inside tail closes =>
  split at split'
  · next closed =>
    rw [(Text.splitFirst_eq_some opens).1, (Text.splitFirst_eq_some closes).1]
    have last : 0 < tail.count '\x7d' := List.count_pos_iff.mpr (List.contains_iff_mem.mp closed)
    have other : ('\x7b' == '\x7d') = false := by decide
    simp only [List.count_append, List.count_cons, other, beq_self_eq_true, if_true]
    omega
  · simp only [reduceCtorEq] at split'

theorem braces_of_readChars {text : List Char} {found : String × Uuid}
    (read : readChars text = .ok found) : 2 ≤ text.count '\x7d' := by
  obtain ⟨name, u⟩ := found
  obtain ⟨-, _, body, outer, inner, defined, -, split, -⟩ := readChars_eq_ok_iff.mp read
  exact Nat.le_trans (braces_of_splitBody split) ((findDefine_suffix defined).sublist.count_le _)

/-- All of a header but its last brace. -/
def unclosed (name : List Char) (u : Uuid) : List Char :=
  opened name (bodyText (.ofUuid u) [' ', '\\', '\n'])

theorem opened_bodyText_append (name : List Char) (f : Fields) (tail more : List Char) :
    opened name (bodyText f (tail ++ more)) = opened name (bodyText f tail) ++ more := by
  simp [opened, bodyText]

theorem renderChars_eq_unclosed (name : List Char) (u : Uuid) :
    renderChars name u = (unclosed name u ++ ['\x7d']) ++ ['\n'] := by
  rw [renderChars_eq, unclosed, ← opened_bodyText_append, ← opened_bodyText_append]
  rfl

variable {name : List Char} (valid : Identifier.isName name = true)

include valid

theorem count_unclosed (u : Uuid) : (unclosed name u).count '\x7d' = 1 := by
  have guard : guardText.count '\x7d' = 0 := by decide
  have define : defineText.count '\x7d' = 0 := by decide
  have name' : name.count '\x7d' = 0 :=
    List.count_eq_zero.mpr (Identifier.not_mem_of_isName valid (by decide))
  have outer : (outerText (.ofUuid u)).count '\x7d' = 0 :=
    List.count_eq_zero.mpr (not_mem_outerText _ (by decide) (by decide))
  have inner : (innerText (.ofUuid u)).count '\x7d' = 0 :=
    List.count_eq_zero.mpr (not_mem_innerText _ (by decide) (by decide))
  simp +decide [unclosed, opened, bodyText, guard, define, name', outer, inner]

theorem eq_of_readChars {u : Uuid} {part : List Char} {found : String × Uuid}
    (front : part <+: unclosed name u ++ ['\x7d']) (read : readChars part = .ok found) :
    part = unclosed name u ++ ['\x7d'] := by
  rcases List.prefix_concat_iff.mp front with all | front
  · exact all
  · have braces := Nat.le_trans (braces_of_readChars read) (front.sublist.count_le '\x7d')
    rw [count_unclosed valid u] at braces
    contradiction

theorem readChars_unclosed (u : Uuid) {more : List Char} (closed : '\x7d' ∈ more) :
    readChars (unclosed name u ++ more) = .ok (String.ofList name, u) := by
  rw [unclosed, ← opened_bodyText_append]
  exact readChars_opened valid u (List.mem_append_right _ closed)

omit valid in
/-- A front part of a rendered header is read only if it is complete. -/
theorem read_front_iff {name : String} (valid : Identifier.isName name.toList = true) {u : Uuid}
    {part : String} {found : String × Uuid} (front : part.toList <+: (render name u).toList) :
    read part = .ok found ↔ Artifact.Complete (render name u) part ∧ found = (name, u) := by
  have ended : (render name u).toList = (unclosed name.toList u ++ ['\x7d']) ++ ['\n'] := by
    rw [render, String.toList_ofList, renderChars_eq_unclosed]
  have taken := @readChars_unclosed _ valid u ['\x7d', '\n'] (by decide)
  have unended := @readChars_unclosed _ valid u ['\x7d'] (by decide)
  rw [String.ofList_toList] at taken unended
  rw [List.append_cons] at taken
  exact Artifact.readChars_front_iff ended taken unended (eq_of_readChars valid) front

omit valid in
/-- Only its own header completes the header of another identifier. -/
theorem complete_render_iff {name : String} (valid : Identifier.isName name.toList = true)
    {old new : Uuid} : Artifact.Complete (render name new) (render name old) ↔ old = new := by
  constructor
  · intro complete
    have read := ((read_front_iff valid complete.front).mpr ⟨complete, rfl⟩).symm
    rw [read_render valid old] at read
    exact (congrArg Prod.snd (Except.ok.inj read)).symm
  · rintro rfl
    exact .inl rfl

end Header

end TrustedAppId
