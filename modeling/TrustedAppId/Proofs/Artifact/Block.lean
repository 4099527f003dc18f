import TrustedAppId.Proofs.Artifact.Definition
import TrustedAppId.Proofs.Artifact.Rows
/-! Blocks. What is read of a header should stand between the brace of its definition and the brace
that matches it. The reader matches no braces: it stops at the first brace that closes behind the
next one that opens, and of the text behind it only wants to see another one. -/
namespace TrustedAppId.Header

/-- Each brace has its partner. -/
inductive Balanced : List Char → Prop where
  | nil : Balanced []
  | other {c : Char} {rest : List Char} (opening : c ≠ '\x7b') (closing : c ≠ '\x7d') :
      Balanced rest → Balanced (c :: rest)
  | braces {inside rest : List Char} :
      Balanced inside → Balanced rest → Balanced ('\x7b' :: (inside ++ '\x7d' :: rest))

namespace Balanced

variable {cs ds : List Char}

theorem append_of_not_mem (opening : '\x7b' ∉ cs) (closing : '\x7d' ∉ cs) (balanced : Balanced ds) :
    Balanced (cs ++ ds) := by
  induction cs with
  | nil => exact balanced
  | cons c cs ih =>
    rw [List.mem_cons, not_or] at opening closing
    exact .other (Ne.symm opening.1) (Ne.symm closing.1) (ih opening.2 closing.2)

theorem of_not_mem (opening : '\x7b' ∉ cs) (closing : '\x7d' ∉ cs) : Balanced cs := by
  rw [← List.append_nil cs]
  exact append_of_not_mem opening closing .nil

theorem count_eq (balanced : Balanced cs) : cs.count '\x7b' = cs.count '\x7d' := by
  induction balanced with
  | nil => rfl
  | other opening closing _ ih =>
    rw [List.count_cons_of_ne opening, List.count_cons_of_ne closing, ih]
  | braces _ _ inside rest =>
    simp [List.count_append, inside, rest]
    omega

end Balanced

/-- The parts of a text with one pair of braces. -/
def nested (outer inner after : List Char) : List Char :=
  outer ++ '\x7b' :: (inner ++ '\x7d' :: after)

/-- No brace stands in a part of the text. -/
structure Plain (cs : List Char) : Prop where
  opening : '\x7b' ∉ cs
  closing : '\x7d' ∉ cs

theorem balanced_nested_iff {outer inner after : List Char} :
    Balanced (nested outer inner after) ∧ (nested outer inner after).count '\x7b' = 1 ↔
      Plain outer ∧ Plain inner ∧ Plain after := by
  have opened : (nested outer inner after).count '\x7b' =
      outer.count '\x7b' + (inner.count '\x7b' + after.count '\x7b') + 1 := by
    simp [nested, List.count_append]
    omega
  have closed : (nested outer inner after).count '\x7d' =
      outer.count '\x7d' + (inner.count '\x7d' + after.count '\x7d') + 1 := by
    simp [nested, List.count_append]
    omega
  constructor
  · rintro ⟨balanced, one⟩
    have one' := balanced.count_eq ▸ one
    have none {c : Char} {cs : List Char} (zero : cs.count c = 0) : c ∉ cs :=
      List.count_eq_zero.mp zero
    refine ⟨⟨none ?_, none ?_⟩, ⟨none ?_, none ?_⟩, ⟨none ?_, none ?_⟩⟩ <;> omega
  · rintro ⟨outer_plain, inner_plain, after_plain⟩
    constructor
    · apply Balanced.append_of_not_mem outer_plain.opening outer_plain.closing
      exact .braces (.of_not_mem inner_plain.opening inner_plain.closing)
        (.of_not_mem after_plain.opening after_plain.closing)
    · rw [opened, List.count_eq_zero.mpr outer_plain.opening,
        List.count_eq_zero.mpr inner_plain.opening, List.count_eq_zero.mpr after_plain.opening]

/-- `block` stands between the brace of the first definition and the one that matches it. -/
def Block (text name : String) (block : List Char) : Prop :=
  Balanced block ∧
    ∃ rest, FirstDefinition true text.toList name.toList (block ++ '\x7d' :: rest)

/-- One nested pair of braces, and the eleven fields of `u` as the only literals, three in front of
the pair and eight within it. -/
def HoldsFields (u : Uuid) (block : List Char) : Prop :=
  block.count '\x7b' = 1 ∧ ∃ outer inner after, block = nested outer inner after ∧
    Lists u ((literals outer).map Literal.number) ((literals inner).map Literal.number) ∧
    literals after = []

def InOneBlock (text name : String) (u : Uuid) : Prop :=
  ∃ block, Block text name block ∧ HoldsFields u block

/-- How the text behind the brace of the first definition is cut: at the next brace that opens and
at the first brace behind it that closes. Another one closes anywhere behind that. -/
structure Cut (text name : String) (outer inner tail : List Char) : Prop where
  first : FirstDefinition true text.toList name.toList (nested outer inner tail)
  outer_opening : '\x7b' ∉ outer
  inner_closing : '\x7d' ∉ inner
  tail_closing : '\x7d' ∈ tail

/-- What the cut does not look for: a brace that closes in front of the inner list, one that opens
within it, and a brace that opens or a literal behind it. -/
structure Tidy (outer inner tail : List Char) : Prop where
  outer : '\x7d' ∉ outer
  inner : '\x7b' ∉ inner
  after : ∃ after rest, tail = after ++ '\x7d' :: rest ∧ Plain after ∧ literals after = []

theorem splitBody_eq_ok_iff {body outer inner : List Char} :
    splitBody body = .ok (outer, inner) ↔
      ∃ tail, body = nested outer inner tail ∧ '\x7b' ∉ outer ∧ '\x7d' ∉ inner ∧ '\x7d' ∈ tail := by
  constructor
  · intro split'
    simp only [splitBody, fault] at split'
    split at split'
    · simp only [reduceCtorEq] at split'
    next before rest opens =>
    split at split'
    · simp only [reduceCtorEq] at split'
    next inside tail closes =>
    split at split'
    · next closed =>
      obtain ⟨rfl, rfl⟩ := Prod.mk.inj (Except.ok.inj split')
      obtain ⟨rfl, opening⟩ := Text.splitFirst_eq_some opens
      obtain ⟨rfl, closing⟩ := Text.splitFirst_eq_some closes
      exact ⟨tail, rfl, opening, closing, List.contains_iff_mem.mp closed⟩
    · simp only [reduceCtorEq] at split'
  · rintro ⟨tail, rfl, opening, closing, closed⟩
    rw [splitBody, nested, Text.splitFirst_append opening]
    dsimp only
    rw [Text.splitFirst_append closing]
    dsimp only
    rw [if_pos (List.contains_iff_mem.mpr closed)]

theorem nested_append (outer inner after rest : List Char) :
    nested outer inner after ++ rest = nested outer inner (after ++ rest) := by
  simp [nested]

/-- A text is cut in one way. -/
theorem nested_inj {outer inner tail outer' inner' tail' : List Char}
    (same : nested outer inner tail = nested outer' inner' tail')
    (opening : '\x7b' ∉ outer) (opening' : '\x7b' ∉ outer')
    (closing : '\x7d' ∉ inner) (closing' : '\x7d' ∉ inner') :
    outer = outer' ∧ inner = inner' ∧ tail = tail' := by
  have first := Text.splitFirst_append opening (inner ++ '\x7d' :: tail)
  rw [← nested, same, nested, Text.splitFirst_append opening'] at first
  obtain ⟨rfl, rest⟩ := Prod.mk.inj (Option.some.inj first)
  have second := Text.splitFirst_append closing tail
  rw [← rest, Text.splitFirst_append closing'] at second
  obtain ⟨rfl, rfl⟩ := Prod.mk.inj (Option.some.inj second)
  exact ⟨rfl, rfl, rfl⟩

theorem FirstDefinition.body_eq {lineStart : Bool} {text name body body' : List Char}
    (first : FirstDefinition lineStart text name body)
    (first' : FirstDefinition lineStart text name body') : body = body' := by
  have found := findDefine_eq_some_iff.mpr first
  rw [findDefine_eq_some_iff.mpr first'] at found
  exact (Prod.mk.inj (Option.some.inj found)).2.symm

theorem Cut.inOneBlock_iff {text name : String} {outer inner tail : List Char} {u : Uuid}
    (cut : Cut text name outer inner tail)
    (lists : Lists u ((literals outer).map Literal.number)
      ((literals inner).map Literal.number)) :
    InOneBlock text name u ↔ Tidy outer inner tail := by
  constructor
  · rintro ⟨_, ⟨balanced, rest, first⟩, onePair, outer', inner', after, rfl, -, none⟩
    obtain ⟨outer_plain, inner_plain, after_plain⟩ := balanced_nested_iff.mp ⟨balanced, onePair⟩
    have same : nested outer inner tail = nested outer' inner' (after ++ '\x7d' :: rest) := by
      rw [cut.first.body_eq first, nested_append]
    obtain ⟨rfl, rfl, rfl⟩ := nested_inj same cut.outer_opening outer_plain.opening
      cut.inner_closing inner_plain.closing
    exact ⟨outer_plain.closing, inner_plain.opening, after, rest, rfl, after_plain, none⟩
  · rintro ⟨outer_closing, inner_opening, after, rest, rfl, after_plain, none⟩
    obtain ⟨balanced, onePair⟩ := balanced_nested_iff.mpr
      ⟨⟨cut.outer_opening, outer_closing⟩, ⟨inner_opening, cut.inner_closing⟩, after_plain⟩
    have first := cut.first
    rw [← nested_append] at first
    exact ⟨nested outer inner after, ⟨balanced, rest, first⟩, onePair, outer, inner, after, rfl,
      lists, none⟩

theorem FirstDefinition.isName {lineStart : Bool} {text name body : List Char}
    (first : FirstDefinition lineStart text name body) : Identifier.isName name = true := by
  obtain ⟨_, _, -, -, ⟨-, -, -, -, valid, -⟩, -⟩ := first
  exact valid

/-- A text is read as `u` if and only if it has a guard line and is cut into parts that list the
fields of `u`. -/
theorem read_eq_ok_iff {text name : String} {u : Uuid} :
    read text = .ok (name, u) ↔ hasGuard text.toList = true ∧ ∃ outer inner tail,
      Cut text name outer inner tail ∧
        Lists u ((literals outer).map Literal.number) ((literals inner).map Literal.number) := by
  rw [read, readChars_eq_ok_iff]
  constructor
  · rintro ⟨guarded, found, body, outer, inner, defined, -, split, initializer, rfl⟩
    obtain ⟨tail, rfl, opening, closing, closed⟩ := splitBody_eq_ok_iff.mp split
    have first := findDefine_eq_some_iff.mp defined
    rw [← @String.toList_ofList found] at first
    exact ⟨guarded, outer, inner, tail, ⟨first, opening, closing, closed⟩,
      readInitializer_iff_lists.mp initializer⟩
  · rintro ⟨guarded, outer, inner, tail, cut, lists⟩
    refine ⟨guarded, name.toList, nested outer inner tail, outer, inner, ?_, ?_, ?_, ?_, ?_⟩
    · exact findDefine_eq_some_iff.mpr cut.first
    · exact cut.first.isName
    · exact splitBody_eq_ok_iff.mpr
        ⟨tail, rfl, cut.outer_opening, cut.inner_closing, cut.tail_closing⟩
    · exact readInitializer_iff_lists.mpr lists
    · exact String.ofList_toList

/-- What is read is cut from the text behind the first definition, and the three literals of one
part and the eight of the other are its fields. They make up the one block of that definition if and
only if the cut is tidy. -/
theorem read_cut {text name : String} {u : Uuid} (taken : read text = .ok (name, u)) :
    ∃ outer inner tail, Cut text name outer inner tail ∧
      Lists u ((literals outer).map Literal.number) ((literals inner).map Literal.number) ∧
      (InOneBlock text name u ↔ Tidy outer inner tail) := by
  obtain ⟨-, outer, inner, tail, cut, lists⟩ := read_eq_ok_iff.mp taken
  exact ⟨outer, inner, tail, cut, lists, cut.inOneBlock_iff lists⟩

/-- A text that opens as a rendered header does is read from parts that list the fields. -/
theorem read_opened {text name : String} {outer inner tail : List Char} {u : Uuid}
    (valid : Identifier.isName name.toList = true)
    (shape : text.toList = opened name.toList (nested outer inner tail))
    (opening : '\x7b' ∉ outer) (closing : '\x7d' ∉ inner) (closed : '\x7d' ∈ tail)
    (initializer : readInitializer outer inner = .ok u) :
    read text = .ok (name, u) ∧ Cut text name outer inner tail ∧
      (InOneBlock text name u ↔ Tidy outer inner tail) := by
  have found := findDefine_opened valid (nested outer inner tail)
  have guarded := hasGuard_opened name.toList (nested outer inner tail)
  rw [← shape] at found guarded
  have cut : Cut text name outer inner tail :=
    ⟨findDefine_eq_some_iff.mp found, opening, closing, closed⟩
  have lists := readInitializer_iff_lists.mp initializer
  exact ⟨read_eq_ok_iff.mpr ⟨guarded, outer, inner, tail, cut, lists⟩, cut,
    cut.inOneBlock_iff lists⟩

/-- All of a rendered header stands in its block. -/
theorem inOneBlock_render {name : String} (valid : Identifier.isName name.toList = true)
    (u : Uuid) : InOneBlock (render name u) name u := by
  have shape : (render name u).toList =
      opened name.toList (nested (outerText (.ofUuid u)) (innerText (.ofUuid u)) tailText) := by
    rw [render, String.toList_ofList, renderChars_eq]
    rfl
  have initializer := readInitializer_fields (.ofUuid u)
  rw [Fields.toUuid_ofUuid] at initializer
  obtain ⟨-, -, tidy⟩ := read_opened valid shape (not_mem_outerText _ (by decide) (by decide))
    (not_mem_innerText _ (by decide) (by decide)) (by decide) initializer
  apply tidy.mpr
  constructor
  · exact not_mem_outerText _ (by decide) (by decide)
  · exact not_mem_innerText _ (by decide) (by decide)
  · exact ⟨[' ', '\\', '\n'], ['\n'], rfl, ⟨by decide, by decide⟩, rfl⟩

def countedId : Uuid := ⟨0x00000001000200030102030405060708⟩

theorem read_cut_countedId :
    read (render "TA_UUID" countedId) = .ok ("TA_UUID", countedId) ∧
    ∃ outer inner tail, Cut (render "TA_UUID" countedId) "TA_UUID" outer inner tail ∧
      Lists countedId ((literals outer).map Literal.number)
        ((literals inner).map Literal.number) ∧
      (InOneBlock (render "TA_UUID" countedId) "TA_UUID" countedId ↔ Tidy outer inner tail) := by
  have taken := @read_render "TA_UUID" (by decide) countedId
  exact ⟨taken, read_cut taken⟩

/-- A header with a twelfth literal behind the inner list. -/
def twelfthLiteral : String :=
  "#pragma once \n\n#define A \x7b 0x1, 0x2, 0x3, \x7b " ++
    "0x1, 0x2, 0x3, 0x4, 0x5, 0x6, 0x7, 0x8 \x7d, 0x99 \x7d\n"

/-- A header whose inner list is the value of a second macro. -/
def secondMacro : String :=
  "#pragma once \n\n#define A \x7b 0x1, 0x2, 0x3 \x7d\n#define B \x7b " ++
    "0x1, 0x2, 0x3, 0x4, 0x5, 0x6, 0x7, 0x8 \x7d \x7d\n"

/-- Both headers are read. In the first the block has twelve literals, and in the second it has
three. -/
theorem read_strays :
    (read twelfthLiteral = .ok ("A", countedId) ∧ ¬ InOneBlock twelfthLiteral "A" countedId ∧
      ∃ block, Block twelfthLiteral "A" block ∧ (literals block).length = 12) ∧
    (read secondMacro = .ok ("A", countedId) ∧ ¬ InOneBlock secondMacro "A" countedId ∧
      ∃ block, Block secondMacro "A" block ∧ (literals block).length = 3) := by
  let row := " 0x1, 0x2, 0x3, 0x4, 0x5, 0x6, 0x7, 0x8 ".toList
  constructor
  · let outer := " 0x1, 0x2, 0x3, ".toList
    let tail := ", 0x99 \x7d\n".toList
    have shape : twelfthLiteral.toList = opened ['A'] (nested outer row tail) := rfl
    obtain ⟨taken, cut, tidy⟩ := @read_opened twelfthLiteral "A" outer row tail countedId
      (by decide) shape (by decide) (by decide) (by decide) rfl
    refine ⟨taken, ?_, nested outer row ", 0x99 ".toList, ⟨?_, ['\n'], cut.first⟩, rfl⟩
    · rw [tidy]
      rintro ⟨-, -, after, rest, split, plain, none⟩
      have first := Text.splitFirst_append plain.closing rest
      rw [← split] at first
      obtain ⟨rfl, -⟩ := Prod.mk.inj (Option.some.inj first)
      contradiction
    · exact (balanced_nested_iff.mpr
        ⟨⟨by decide, by decide⟩, ⟨by decide, by decide⟩, by decide, by decide⟩).1
  · let outer := " 0x1, 0x2, 0x3 \x7d\n#define B ".toList
    let tail := " \x7d\n".toList
    have shape : secondMacro.toList = opened ['A'] (nested outer row tail) := rfl
    obtain ⟨taken, cut, tidy⟩ := @read_opened secondMacro "A" outer row tail countedId
      (by decide) shape (by decide) (by decide) (by decide) rfl
    refine ⟨taken, ?_, " 0x1, 0x2, 0x3 ".toList, ⟨?_, _, cut.first⟩, rfl⟩
    · rw [tidy]
      rintro ⟨closing, -, -⟩
      exact closing (by decide)
    · exact .of_not_mem (by decide) (by decide)

end TrustedAppId.Header
