import TrustedAppId.Proofs.Artifact.BuildVar
/-! The grammar of a build variable: of the lines of the text one has any characters but white
space, and that line assigns the canonical spelling of an identifier to a name. -/
namespace TrustedAppId

namespace Identifier

/-- One of `[A-Za-z_]`. -/
def Letter (c : Char) : Prop := 'A' ≤ c ∧ c ≤ 'Z' ∨ 'a' ≤ c ∧ c ≤ 'z' ∨ c = '_'

def Digit (c : Char) : Prop := '0' ≤ c ∧ c ≤ '9'

/-- A letter or an underscore, and then any of these and of the digits. -/
def Spelt (name : List Char) : Prop :=
  ∃ first rest, name = first :: rest ∧ Letter first ∧ ∀ c ∈ rest, Letter c ∨ Digit c

theorem isLetter_iff {c : Char} : isLetter c = true ↔ Letter c := by
  simp only [isLetter, Letter, Bool.or_eq_true, Bool.and_eq_true, decide_eq_true_iff]
  rw [or_assoc, or_left_comm]

theorem isPart_iff {c : Char} : isPart c = true ↔ Letter c ∨ Digit c := by
  simp only [isPart, Decimal.isDigit, Digit, Bool.or_eq_true, Bool.and_eq_true, decide_eq_true_iff,
    isLetter_iff]

theorem isName_iff_spelt {name : List Char} : isName name = true ↔ Spelt name := by
  cases name with
  | nil =>
    constructor
    · exact nofun
    · rintro ⟨_, _, shape, -, -⟩
      contradiction
  | cons first rest =>
    rw [isName, Bool.and_eq_true, List.all_eq_true, isLetter_iff]
    constructor
    · rintro ⟨letter, parts⟩
      exact ⟨first, rest, rfl, letter, fun c mem => isPart_iff.mp (parts c mem)⟩
    · rintro ⟨_, _, shape, letter, parts⟩
      obtain ⟨rfl, rfl⟩ := List.cons.inj shape
      exact ⟨letter, fun c mem => isPart_iff.mpr (parts c mem)⟩

end Identifier

namespace BuildVar

/-- `line` is the one line of the text that has any characters but white space. -/
def SoleLine (text : String) (line : List Char) : Prop :=
  (text.toList.splitOn '\n').filter (fun line => !isBlankLine line) = [line]

def Blank (cs : List Char) : Prop := ∀ c ∈ cs, Text.isBlank c = true

/-- A name, an equals sign and the canonical spelling of an identifier, with any white space around
the three. -/
def Assigns (line : List Char) (name : String) (u : Uuid) : Prop :=
  ∃ before between between' after,
    line = (before ++ (name.toList ++ between)) ++ '=' :: (between' ++ (u.chars ++ after)) ∧
      Identifier.Spelt name.toList ∧ Blank before ∧ Blank between ∧ Blank between' ∧ Blank after

/-! Lines. -/

/-- Blank lines left out, the lines that are read are the lines between line feeds but for the
carriage return of a line end. -/
theorem splitOn_eq_pieces (cs : List Char) : ∃ last, (last = [] ∨ last = [[]]) ∧
    cs.splitOn '\n' = (Text.pieces cs).map Prod.fst ++ last := by
  induction cs with
  | nil => exact ⟨[[]], .inr rfl, rfl⟩
  | cons c cs ih =>
    obtain ⟨last, ends, split⟩ := ih
    rw [List.splitOn] at split ⊢
    rw [List.splitOnP_cons_eq_if_modifyHead, split, Text.pieces]
    by_cases newline : c = '\n'
    · refine ⟨last, ends, ?_⟩
      simp [newline]
    · rw [if_neg (by simpa using newline), if_neg newline]
      cases pieces : Text.pieces cs with
      | nil =>
        refine ⟨[], .inl rfl, ?_⟩
        rcases ends with rfl | rfl
        · simp [pieces] at split
        · rfl
      | cons piece more => exact ⟨last, ends, rfl⟩

theorem isBlankLine_closeLine (piece : List Char × Bool) :
    isBlankLine (Text.closeLine piece) = isBlankLine piece.1 := by
  obtain ⟨line, ended⟩ := piece
  by_cases last : line.getLast? = some '\r'
  · cases ended with
    | false => rfl
    | true =>
      obtain ⟨front, rfl⟩ := List.getLast?_eq_some_iff.mp last
      have blank : Text.isBlank '\r' = true := by decide
      simp [Text.closeLine, isBlankLine, blank]
  · rw [Text.closeLine_of_getLast last]

/-- The pieces of a text that are not blank. -/
def inked (text : List Char) : List (List Char × Bool) :=
  (Text.pieces text).filter fun piece => !isBlankLine piece.1

theorem filter_lines (text : List Char) :
    (Text.lines text).filter (fun line => !isBlankLine line) = (inked text).map Text.closeLine := by
  rw [Text.lines, List.filter_map, inked]
  congr 1
  apply List.filter_congr
  intro piece _
  rw [Function.comp_apply, isBlankLine_closeLine]

theorem filter_splitOn (text : List Char) :
    (text.splitOn '\n').filter (fun line => !isBlankLine line) = (inked text).map Prod.fst := by
  obtain ⟨last, ends, split⟩ := splitOn_eq_pieces text
  have none : last.filter (fun line => !isBlankLine line) = [] := by
    rcases ends with rfl | rfl
    · rfl
    · rfl
  rw [split, List.filter_append, none, List.append_nil, List.filter_map]
  rfl

/-- The sole line that is not blank is the one that is read, but for the carriage return of a line
end. -/
theorem soleLine_iff {text : String} {line : List Char} :
    SoleLine text line ↔ ∃ ended, inked text.toList = [(line, ended)] := by
  rw [SoleLine, filter_splitOn]
  constructor
  · intro sole
    obtain ⟨⟨line', ended⟩, single, rfl⟩ := List.map_eq_singleton_iff.mp sole
    exact ⟨ended, single⟩
  · rintro ⟨ended, single⟩
    rw [single]
    rfl

theorem SoleLine.unique {text : String} {line line' : List Char} (sole : SoleLine text line)
    (sole' : SoleLine text line') : line = line' :=
  List.singleton_inj.mp (sole.symm.trans sole')

theorem read_of_soleLine {text : String} {line : List Char} (sole : SoleLine text line) :
    ∃ ended, read text = readLine (Text.closeLine (line, ended)) := by
  obtain ⟨ended, single⟩ := soleLine_iff.mp sole
  refine ⟨ended, ?_⟩
  rw [read, readChars, filter_lines, single]
  rfl

theorem fault_of_not_soleLine {text : String} (none : ∀ line, ¬ SoleLine text line) :
    ∃ cause, read text = fault cause := by
  rw [read, readChars, filter_lines]
  cases pieces : inked text.toList with
  | nil => exact ⟨_, rfl⟩
  | cons piece more =>
    cases more with
    | nil => exact absurd (soleLine_iff.mpr ⟨piece.2, pieces⟩) (none piece.1)
    | cons => exact ⟨_, rfl⟩

/-! The line. -/

theorem isBlank_of_spelt {name : List Char} (spelt : Identifier.Spelt name) :
    ∀ c ∈ name, Text.isBlank c = false := fun _ mem =>
  Identifier.isBlank_of_isPart
    (Identifier.isPart_of_mem (Identifier.isName_iff_spelt.mpr spelt) mem)

theorem not_mem_left {before name between : List Char} (spelt : Identifier.Spelt name)
    (before_blank : Blank before) (between_blank : Blank between) :
    '=' ∉ before ++ (name ++ between) := by
  have none {gap : List Char} (blank : Blank gap) : '=' ∉ gap := fun mem =>
    absurd (blank _ mem) (by decide)
  rw [List.mem_append, List.mem_append, not_or, not_or]
  refine ⟨none before_blank, ?_, none between_blank⟩
  exact Identifier.not_mem_of_isName (Identifier.isName_iff_spelt.mpr spelt) (by decide)

section Line

variable {left right : List Char} (first : '=' ∉ left)

include first

theorem readLine_append : readLine (left ++ '=' :: right) =
    if Identifier.isName (Text.trim left) then
      match Uuid.read (Text.trim right) with
      | .error reason => fault (.notUuid (String.ofList (Text.trim right)) reason)
      | .ok u =>
        if u.chars = Text.trim right then .ok (String.ofList (Text.trim left), u)
        else fault (.notCanonical (String.ofList (Text.trim right)))
    else .error (.invalidName (String.ofList (Text.trim left))) := by
  have halves := Text.splitFirst_append first right
  unfold readLine
  split
  · next none =>
    rw [none] at halves
    contradiction
  · next before after found =>
    obtain ⟨rfl, rfl⟩ := Prod.mk.inj (Option.some.inj (found.symm.trans halves))
    rfl

/-- The carriage return of a line end is trimmed with the value. -/
theorem readLine_closeLine (ended : Bool) :
    readLine (Text.closeLine (left ++ '=' :: right, ended)) = readLine (left ++ '=' :: right) := by
  by_cases last : (left ++ '=' :: right).getLast? = some '\r'
  · cases ended with
    | false => rfl
    | true =>
      obtain ⟨front, shape⟩ := List.getLast?_eq_some_iff.mp last
      have closed : Text.closeLine (left ++ '=' :: right, true) = front := by
        simp [Text.closeLine, shape]
      rcases List.eq_nil_or_concat right with rfl | ⟨value, c, rfl⟩
      · exact absurd (List.append_inj_right' shape rfl) (by decide)
      · rw [List.concat_eq_append, ← List.cons_append, ← List.append_assoc] at shape
        obtain ⟨rfl, same⟩ := List.append_inj' shape rfl
        obtain rfl := List.singleton_inj.mp same
        rw [closed, readLine_append first, readLine_append first, List.concat_eq_append,
          Text.trim_concat (by decide)]
  · rw [Text.closeLine_of_getLast last]

theorem readLine_eq_ok_iff {name : String} {u : Uuid} :
    readLine (left ++ '=' :: right) = .ok (name, u) ↔
      Text.trim left = name.toList ∧ Identifier.Spelt name.toList ∧ Text.trim right = u.chars := by
  rw [readLine_append first, ← Identifier.isName_iff_spelt]
  constructor
  · intro read
    split at read
    · next valid =>
      split at read
      · simp only [fault, reduceCtorEq] at read
      next v spelt =>
      split at read
      · next canonical =>
        obtain ⟨rfl, rfl⟩ := Prod.mk.inj (Except.ok.inj read)
        rw [String.toList_ofList]
        exact ⟨rfl, valid, canonical.symm⟩
      · simp only [fault, reduceCtorEq] at read
    · simp only [reduceCtorEq] at read
  · rintro ⟨trimmed, valid, value⟩
    rw [trimmed, value, if_pos valid, Uuid.read_chars, String.ofList_toList]
    exact if_pos rfl

theorem readLine_eq_invalidName_iff {name : String} :
    readLine (left ++ '=' :: right) = .error (.invalidName name) ↔
      Text.trim left = name.toList ∧ ¬ Identifier.Spelt name.toList := by
  rw [readLine_append first, ← Identifier.isName_iff_spelt]
  constructor
  · intro read
    split at read
    · split at read
      · simp only [fault, Except.error.injEq, reduceCtorEq] at read
      split at read
      · simp only [reduceCtorEq] at read
      · simp only [fault, Except.error.injEq, reduceCtorEq] at read
    · next invalid =>
      obtain rfl := Error.invalidName.inj (Except.error.inj read)
      rw [String.toList_ofList]
      exact ⟨rfl, invalid⟩
  · rintro ⟨trimmed, invalid⟩
    rw [trimmed, if_neg invalid, String.ofList_toList]

theorem assigns_iff {name : String} {u : Uuid} : Assigns (left ++ '=' :: right) name u ↔
    Text.trim left = name.toList ∧ Identifier.Spelt name.toList ∧ Text.trim right = u.chars := by
  constructor
  · rintro ⟨before, between, between', after, shape, spelt, blanks⟩
    obtain ⟨before_blank, between_blank, between'_blank, after_blank⟩ := blanks
    have split := Text.splitFirst_append first right
    rw [shape, Text.splitFirst_append (not_mem_left spelt before_blank between_blank)] at split
    obtain ⟨rfl, rfl⟩ := Prod.mk.inj (Option.some.inj split)
    refine ⟨?_, spelt, ?_⟩
    · exact Text.trim_append before_blank (isBlank_of_spelt spelt) between_blank
    · exact Text.trim_append between'_blank (fun c => Uuid.isBlank_of_mem_chars) after_blank
  · rintro ⟨name', spelt, value⟩
    obtain ⟨before, between, left', before_blank, between_blank⟩ := Text.exists_trim_append left
    obtain ⟨between', after, right', between'_blank, after_blank⟩ := Text.exists_trim_append right
    rw [name'] at left'
    rw [value] at right'
    refine ⟨before, between, between', after, ?_, spelt, before_blank, between_blank,
      between'_blank, after_blank⟩
    rw [← left', ← right']

omit first

theorem exists_of_assigns {line : List Char} {name : String} {u : Uuid}
    (assigns : Assigns line name u) : ∃ left right, line = left ++ '=' :: right ∧ '=' ∉ left := by
  obtain ⟨before, between, _, _, rfl, spelt, before_blank, between_blank, -⟩ := assigns
  exact ⟨_, _, rfl, not_mem_left spelt before_blank between_blank⟩

end Line

theorem readLine_fault {line : List Char} (none : '=' ∉ line) :
    ∃ cause, readLine line = fault cause := by
  cases split : Text.splitFirst '=' line with
  | none =>
    refine ⟨.noAssignment (String.ofList line), ?_⟩
    rw [readLine, split]
  | some halves =>
    obtain ⟨left, right⟩ := halves
    obtain ⟨rfl, -⟩ := Text.splitFirst_eq_some split
    exact absurd (List.mem_append_right _ List.mem_cons_self) none

/-! The text. -/

theorem mem_of_mem_closeLine {c : Char} {line : List Char} {ended : Bool}
    (mem : c ∈ Text.closeLine (line, ended)) : c ∈ line := by
  cases ended with
  | false => exact mem
  | true =>
    rw [Text.closeLine] at mem
    split at mem
    · exact (List.dropLast_sublist line).subset mem
    · exact mem

/-- A sole line that assigns anything is the one that is read, and without one the text is at
fault. -/
theorem read_cases (text : String) :
    (∃ left right, '=' ∉ left ∧ SoleLine text (left ++ '=' :: right) ∧
      read text = readLine (left ++ '=' :: right)) ∨
    ((∀ line, SoleLine text line → '=' ∉ line) ∧ ∃ cause, read text = fault cause) := by
  by_cases sole : ∃ line, SoleLine text line
  · obtain ⟨line, sole⟩ := sole
    obtain ⟨ended, taken⟩ := read_of_soleLine sole
    by_cases mem : '=' ∈ line
    · obtain ⟨left, right, rfl, first⟩ := List.eq_append_cons_of_mem mem
      rw [readLine_closeLine first] at taken
      exact .inl ⟨left, right, first, sole, taken⟩
    · obtain ⟨cause, faulty⟩ := readLine_fault fun mem' => mem (mem_of_mem_closeLine mem')
      refine .inr ⟨?_, cause, taken.trans faulty⟩
      intro line' sole'
      rwa [← sole.unique sole']
  · have none := not_exists.mp sole
    exact .inr ⟨fun line sole' => absurd sole' (none line), fault_of_not_soleLine none⟩

theorem readLine_outcome (line : List Char) : (∃ name u, readLine line = .ok (name, u)) ∨
    (∃ name, readLine line = .error (.invalidName name)) ∨
    ∃ cause, readLine line = .error (.buildVar cause) := by
  unfold readLine
  split
  · exact .inr (.inr ⟨_, rfl⟩)
  · dsimp only
    split
    · split
      · exact .inr (.inr ⟨_, rfl⟩)
      · split
        · exact .inl ⟨_, _, rfl⟩
        · exact .inr (.inr ⟨_, rfl⟩)
    · exact .inr (.inl ⟨_, rfl⟩)

/-- A build variable is read if and only if its sole line assigns an identifier to a name. A sole
line with an equals sign behind anything else than a name is refused for that name, and every other
text is at fault. -/
theorem read_grammar (text : String) :
    (∀ name u, read text = .ok (name, u) ↔ ∃ line, SoleLine text line ∧ Assigns line name u) ∧
    (∀ name, read text = .error (.invalidName name) ↔
      ∃ left right, SoleLine text (left ++ '=' :: right) ∧ '=' ∉ left ∧
        Text.trim left = name.toList ∧ ¬ Identifier.Spelt name.toList) ∧
    ((∃ name u, read text = .ok (name, u)) ∨ (∃ name, read text = .error (.invalidName name)) ∨
      ∃ cause, read text = .error (.buildVar cause)) := by
  rcases read_cases text with ⟨left, right, first, sole, taken⟩ | ⟨none, cause, faulty⟩
  · rw [taken]
    refine ⟨fun name u => ?_, fun name => ?_, readLine_outcome _⟩
    · rw [readLine_eq_ok_iff first, ← assigns_iff first]
      constructor
      · intro assigns
        exact ⟨_, sole, assigns⟩
      · rintro ⟨line, sole', assigns⟩
        rwa [sole.unique sole']
    · rw [readLine_eq_invalidName_iff first]
      constructor
      · rintro ⟨trimmed, invalid⟩
        exact ⟨left, right, sole, first, trimmed, invalid⟩
      · rintro ⟨left', right', sole', first', trimmed, invalid⟩
        have split := Text.splitFirst_append first right
        rw [sole.unique sole', Text.splitFirst_append first'] at split
        obtain ⟨rfl, -⟩ := Prod.mk.inj (Option.some.inj split)
        exact ⟨trimmed, invalid⟩
  · rw [faulty]
    refine ⟨fun name u => ?_, fun name => ?_, .inr (.inr ⟨cause, rfl⟩)⟩
    · constructor
      · exact nofun
      · rintro ⟨line, sole, assigns⟩
        obtain ⟨left, right, rfl, -⟩ := exists_of_assigns assigns
        exact absurd (List.mem_append_right _ List.mem_cons_self) (none _ sole)
    · constructor
      · exact nofun
      · rintro ⟨left, right, sole, -⟩
        exact absurd (List.mem_append_right _ List.mem_cons_self) (none _ sole)

end BuildVar

end TrustedAppId
