import TrustedAppId.Proofs.Artifact.Block
/-! Headers within other text. Whole lines in front of a header change nothing if none of them
begins a definition, and behind it anything may follow from a new line on: the guard line, the first
definition and both parts of its value are found where they were. -/
namespace TrustedAppId.Header

/-- In no place of the text does a line begin with a definition. -/
def Defineless (lineStart : Bool) (text : List Char) : Prop :=
  ∀ front rest, text = front ++ rest → BeginsLine lineStart front →
    ∀ name body, ¬ Defines name body rest

theorem findDefine_eq_none_iff {lineStart : Bool} {text : List Char} :
    findDefine? lineStart text = none ↔ Defineless lineStart text := by
  constructor
  · intro missing front rest shape begins name body defines
    induction front generalizing lineStart text with
    | nil =>
      obtain rfl : lineStart = true := begins
      obtain rfl : text = rest := shape
      have found := findDefine_of_define (define_eq_some_iff.mpr defines)
      rw [missing] at found
      cases found
    | cons c front ih =>
      obtain rfl : text = c :: (front ++ rest) := shape
      rw [findDefine?] at missing
      split at missing
      · cases missing
      · exact ih missing rfl (beginsLine_cons.mp begins)
  · intro none
    cases found : findDefine? lineStart text with
    | none => rfl
    | some definition =>
      obtain ⟨front, rest, shape, begins, defines, -⟩ := findDefine_eq_some_iff.mp found
      exact absurd defines (none front rest shape begins _ _)

theorem beginsLine_append {lineStart : Bool} {front more : List Char}
    (begins : BeginsLine lineStart front) :
    BeginsLine lineStart (front ++ more) ↔ BeginsLine true more := by
  cases last : more.getLast? with
  | none =>
    rw [List.getLast?_eq_none_iff.mp last, List.append_nil]
    exact iff_of_true begins rfl
  | some c =>
    rw [BeginsLine, BeginsLine, List.getLast?_append, last]
    rfl

/-! A definition ends at its brace, which is the only one, and stands on one line. -/

theorem not_mem_spaces {mark : Char} (other : isSpace mark = false) {gap : List Char}
    (spaces : ∀ c ∈ gap, isSpace c = true) : mark ∉ gap := fun mem =>
  Bool.false_ne_true (other.symm.trans (spaces mark mem))

namespace Defines

variable {name body text rest : List Char}

theorem exists_opening (defines : Defines name body text) : ∃ opening,
    text = opening ++ '\x7b' :: body ∧ '\x7b' ∉ opening ∧ '\n' ∉ opening ∧
      ∀ body', Defines name body' (opening ++ '\x7b' :: body') := by
  obtain @⟨indent, afterHash, afterDefine, afterName, indent_spaces, afterHash_spaces,
    afterDefine_spaces, apart, valid, afterName_spaces⟩ := defines
  let opening := indent ++ '#' ::
    (afterHash ++ (defineWord ++ (afterDefine ++ (name ++ afterName))))
  have shape (body' : List Char) : indent ++ '#' :: (afterHash ++ (defineWord ++ (afterDefine ++
      (name ++ (afterName ++ '\x7b' :: body'))))) = opening ++ '\x7b' :: body' := by
    simp [opening]
  have absent {mark : Char} (space : isSpace mark = false) (part : Identifier.isPart mark = false)
      (other : mark ∉ '#' :: defineWord) : mark ∉ opening := by
    rw [List.mem_cons, not_or] at other
    simp only [opening, List.mem_append, List.mem_cons, not_or]
    exact ⟨not_mem_spaces space indent_spaces, other.1, not_mem_spaces space afterHash_spaces,
      other.2, not_mem_spaces space afterDefine_spaces, Identifier.not_mem_of_isName valid part,
      not_mem_spaces space afterName_spaces⟩
  refine ⟨opening, shape body, ?_, ?_, fun body' => ?_⟩
  · exact absent (by decide) (by decide) (by decide)
  · exact absent (by decide) (by decide) (by decide)
  · rw [← shape]
    exact .spaced indent_spaces afterHash_spaces afterDefine_spaces apart valid afterName_spaces

theorem append (defines : Defines name body text) (more : List Char) :
    Defines name (body ++ more) (text ++ more) := by
  obtain ⟨opening, rfl, -, -, other⟩ := defines.exists_opening
  rw [List.append_assoc, List.cons_append]
  exact other _

/-- The definition does not reach beyond a brace or the end of a line. -/
theorem of_append (defines : Defines name body (text ++ rest)) {mark : Char}
    (ends : mark = '\x7b' ∨ mark = '\n') (mem : mark ∈ text) :
    ∃ body', Defines name body' text := by
  obtain ⟨opening, shape, brace, newline, other⟩ := defines.exists_opening
  have absent : mark ∉ opening := by
    rcases ends with rfl | rfl
    · exact brace
    · exact newline
  rcases List.append_eq_append_iff.mp shape with ⟨more, rfl, -⟩ | ⟨more, rfl, shape'⟩
  · exact absurd (List.mem_append_left _ mem) absent
  · cases more with
    | nil => exact absurd ((List.append_nil opening) ▸ mem) absent
    | cons c more =>
      obtain ⟨rfl, -⟩ := List.cons.inj shape'
      exact ⟨more, other more⟩

end Defines

/-! The first definition stays the first one, and its value goes on with what is added behind. -/

namespace FirstDefinition

variable {lineStart : Bool} {before text after name body : List Char}

theorem append (first : FirstDefinition lineStart text name body) :
    FirstDefinition lineStart (text ++ after) name (body ++ after) := by
  obtain ⟨front, rest, rfl, begins, defines, first⟩ := first
  refine ⟨front, rest ++ after, List.append_assoc .., begins, defines.append after, ?_⟩
  intro front' rest' shape shorter begins' name' body' defines'
  -- An earlier definition would have the brace of this one behind it, and end within the text.
  rw [List.append_assoc] at shape
  rcases List.append_eq_append_iff.mp shape with ⟨more, rfl, -⟩ | ⟨more, rfl, rfl⟩
  · rw [List.length_append] at shorter
    omega
  · obtain ⟨opening, rfl, -⟩ := defines.exists_opening
    rw [← List.append_assoc] at defines'
    obtain ⟨body'', earlier⟩ := defines'.of_append (.inl rfl) (by simp)
    exact first front' _ (List.append_assoc ..) shorter begins' _ _ earlier

theorem prepend (begins : BeginsLine lineStart before) (none : Defineless lineStart before)
    (first : FirstDefinition true text name body) :
    FirstDefinition lineStart (before ++ text) name body := by
  obtain ⟨front, rest, rfl, begins', defines, first⟩ := first
  refine ⟨before ++ front, rest, (List.append_assoc ..).symm,
    (beginsLine_append begins).mpr begins', defines, ?_⟩
  intro front' rest' shape shorter begins'' name' body' defines'
  rcases List.append_eq_append_iff.mp shape with ⟨more, rfl, shape'⟩ | ⟨more, rfl, rfl⟩
  · rw [List.length_append, List.length_append] at shorter
    exact first more rest' shape' (by omega) ((beginsLine_append begins).mp begins'') _ _ defines'
  · have begins_more := (beginsLine_append begins'').mp begins
    cases last : more.getLast? with
    | none =>
      obtain rfl := List.getLast?_eq_none_iff.mp last
      rw [List.append_nil, List.length_append] at shorter
      exact first [] _ rfl (Nat.lt_add_right_iff_pos.mp shorter) rfl _ _ defines'
    | some c =>
      rw [BeginsLine, last] at begins_more
      obtain rfl : c = '\n' := begins_more
      obtain ⟨body'', earlier⟩ := defines'.of_append (.inr rfl) (List.mem_of_getLast? last)
      exact none front' more rfl begins'' _ _ earlier

end FirstDefinition

theorem Cut.surrounded {before text after name : String} {outer inner tail : List Char}
    (begins : BeginsLine true before.toList) (none : Defineless true before.toList)
    (cut : Cut text name outer inner tail) :
    Cut (before ++ text ++ after) name outer inner (tail ++ after.toList) where
  first := by
    rw [String.toList_append, String.toList_append, ← nested_append]
    exact (cut.first.prepend begins none).append
  outer_opening := cut.outer_opening
  inner_closing := cut.inner_closing
  tail_closing := List.mem_append_left _ cut.tail_closing

/-! The guard line. -/

theorem hasGuard_append_of_ended (front rest : List Char) :
    hasGuard (front ++ ['\n'] ++ rest) = (hasGuard (front ++ ['\n']) || hasGuard rest) := by
  rw [hasGuard, hasGuard, hasGuard, Text.lines, Text.lines, Text.lines, Text.pieces_append_of_ended,
    List.map_append, List.any_append]

theorem hasGuard_eq (text : List Char) : hasGuard text =
    ((Text.pieces text).map Prod.fst).any fun line => Text.trim line = guardLine := by
  rw [hasGuard, Text.lines, List.any_map, List.any_map]
  congr 1
  funext piece
  have trimmed : Text.trim (Text.closeLine piece) = Text.trim piece.1 :=
    Text.trim_closeLine piece.1 piece.2
  rw [Function.comp_apply, Function.comp_apply, trimmed]

theorem hasGuard_prepend {before text : List Char} (begins : BeginsLine true before)
    (guarded : hasGuard text = true) : hasGuard (before ++ text) = true := by
  cases last : before.getLast? with
  | none => rwa [List.getLast?_eq_none_iff.mp last]
  | some c =>
    rw [BeginsLine, last] at begins
    obtain rfl : c = '\n' := begins
    obtain ⟨front, rfl⟩ := List.getLast?_eq_some_iff.mp last
    rw [hasGuard_append_of_ended, guarded, Bool.or_true]

/-- From here on whatever follows stands on other lines. -/
def Parted (text after : List Char) : Prop :=
  text.getLast? = some '\n' ∨ after = [] ∨ after.head? = some '\n'

theorem hasGuard_append_of_parted {text after : List Char} (parted : Parted text after)
    (guarded : hasGuard text = true) : hasGuard (text ++ after) = true := by
  rcases parted with last | rfl | first
  · obtain ⟨front, rfl⟩ := List.getLast?_eq_some_iff.mp last
    rw [hasGuard_append_of_ended, guarded, Bool.true_or]
  · rwa [List.append_nil]
  · -- The last line may have been open and is ended now; trimmed it is the same.
    obtain ⟨rest, rfl⟩ := List.head?_eq_some_iff.mp first
    obtain ⟨others, same⟩ := Text.map_fst_pieces_prefix text rest
    rw [hasGuard_eq] at guarded ⊢
    rw [← same, List.any_append, guarded, Bool.true_or]

/-- Whatever is read is read as well with whole lines in front of it that define nothing, and with
any text behind it from a new line on. -/
theorem read_surrounded {before text after : String} {found : String × Uuid}
    (taken : read text = .ok found) (begins : BeginsLine true before.toList)
    (none : Defineless true before.toList) (parted : Parted text.toList after.toList) :
    read (before ++ text ++ after) = read text := by
  obtain ⟨name, u⟩ := found
  rw [taken]
  obtain ⟨guarded, outer, inner, tail, cut, lists⟩ := read_eq_ok_iff.mp taken
  refine read_eq_ok_iff.mpr
    ⟨?_, outer, inner, tail ++ after.toList, cut.surrounded begins none, lists⟩
  rw [String.toList_append, String.toList_append, List.append_assoc]
  exact hasGuard_prepend begins (hasGuard_append_of_parted parted guarded)

/-- Braces, a literal, a definition without a brace and one that begins within a line. -/
def foreword : String := "/* \x7b 0x99 \x7d */ #define LATE \x7b\n#define SIZE 0x10\n"

/-- A further definition, with more braces behind it. -/
def afterword : String := "\n  # define OTHER \x7b 0x2, \x7b 0x3 \x7d \x7d\n\x7d \x7b 0x4"

theorem read_surrounded_countedId :
    read (render "TA_UUID" countedId) = .ok ("TA_UUID", countedId) ∧
    BeginsLine true foreword.toList ∧ Defineless true foreword.toList ∧
    Parted (render "TA_UUID" countedId).toList afterword.toList ∧
    read (foreword ++ render "TA_UUID" countedId ++ afterword) =
      read (render "TA_UUID" countedId) := by
  have taken := @read_render "TA_UUID" (by decide) countedId
  have begins : BeginsLine true foreword.toList := by
    have last : foreword.toList.getLast? = some '\n' := by decide
    rw [BeginsLine, last]
  have none : Defineless true foreword.toList := findDefine_eq_none_iff.mp (by decide)
  have parted : Parted (render "TA_UUID" countedId).toList afterword.toList := .inr (.inr rfl)
  exact ⟨taken, begins, none, parted, @read_surrounded foreword (render "TA_UUID" countedId)
    afterword _ taken begins none parted⟩

end TrustedAppId.Header
