import TrustedAppId.Proofs.Artifact.Rows
/-! Headers in any layout: whatever spaces stand in the line of the definition and whatever
separators within its braces, a header is read if and only if its rows fit an identifier. -/
namespace TrustedAppId.Header

def spaces : List Char := [' ', '\t']

theorem mem_spaces {c : Char} : c ∈ spaces ↔ isSpace c = true := by
  simp [isSpace, spaces]

/-- A guard line and a definition with two rows of literals, together with all that stands between
the parts. -/
structure Layout where
  guard : List Char
  indent : List Char
  afterHash : List Char
  afterDefine : List Char
  name : String
  afterName : List Char
  outer : Row
  inner : Row
  afterInner : List Char
  afterOuter : List Char
  guard_newline : '\n' ∉ guard
  guard_trim : Text.trim guard = "#pragma once".toList
  indent_spaces : ∀ c ∈ indent, c ∈ spaces
  afterHash_spaces : ∀ c ∈ afterHash, c ∈ spaces
  afterDefine_spaces : ∀ c ∈ afterDefine, c ∈ spaces
  afterDefine_some : afterDefine ≠ []
  valid : Identifier.isName name.toList = true
  afterName_spaces : ∀ c ∈ afterName, c ∈ spaces
  afterInner_separators : ∀ c ∈ afterInner, c ∈ separators
  afterOuter_separators : ∀ c ∈ afterOuter, c ∈ separators

namespace Layout

/-- What stands behind the brace of the definition. -/
def body (l : Layout) : List Char :=
  l.outer.text ++ '\x7b' :: (l.inner.text ++ '\x7d' :: (l.afterInner ++ '\x7d' :: l.afterOuter))

def definition (l : Layout) : List Char :=
  l.indent ++ '#' :: (l.afterHash ++ (defineWord ++ (l.afterDefine ++
    (l.name.toList ++ (l.afterName ++ '\x7b' :: l.body)))))

def text (l : Layout) : String := String.ofList (l.guard ++ '\n' :: l.definition)

theorem splitBody_body (l : Layout) : splitBody l.body = .ok (l.outer.text, l.inner.text) := by
  have opening := l.outer.not_mem_text (c := '\x7b') (by decide) (by decide) (by decide)
  have closing := l.inner.not_mem_text (c := '\x7d') (by decide) (by decide) (by decide)
  have last : '\x7d' ∈ l.afterInner ++ '\x7d' :: l.afterOuter :=
    List.mem_append_right _ List.mem_cons_self
  rw [splitBody, body, Text.splitFirst_append opening]
  dsimp only
  rw [Text.splitFirst_append closing]
  dsimp only
  rw [if_pos (List.contains_iff_mem.mpr last)]

theorem findDefine_text (l : Layout) :
    findDefine? true (l.guard ++ '\n' :: l.definition) = some (l.name.toList, l.body) := by
  have skipped {gap : List Char} (only : ∀ c ∈ gap, c ∈ spaces) (c : Char) (mem : c ∈ gap) :
      isSpace c = true := mem_spaces.mp (only c mem)
  rw [findDefine_append l.guard_newline (define_guard l.guard_trim _)]
  exact findDefine_of_define (define_spaced (skipped l.indent_spaces) (skipped l.afterHash_spaces)
    (skipped l.afterDefine_spaces) l.afterDefine_some l.valid (skipped l.afterName_spaces) l.body)

/-- What is read of a layout depends on its name and its rows only. -/
theorem read_text (l : Layout) : read l.text = (do
    let u ← readInitializer l.outer.text l.inner.text
    pure (l.name, u)) := by
  have guarded := hasGuard_append l.guard_newline l.guard_trim l.definition
  rw [read, text, String.toList_ofList, readChars, guarded, l.findDefine_text]
  simp only [l.valid, l.splitBody_body, String.ofList_toList]
  rfl

theorem read_text_eq_ok_iff (l : Layout) {found : String × Uuid} :
    read l.text = .ok found ↔ ∃ u, found = (l.name, u) ∧ Lists u l.outer.values l.inner.values := by
  rw [read_text, bind_eq_ok_iff]
  constructor
  · rintro ⟨u, initializer, last⟩
    exact ⟨u, (Except.ok.inj last).symm, readInitializer_rows.mp initializer⟩
  · rintro ⟨u, rfl, lists⟩
    exact ⟨u, readInitializer_rows.mpr lists, rfl⟩

/-- A layout is read if and only if its three outer and eight inner literals fit their fields. What
is read is then its name with the identifier of exactly these fields, and otherwise the header is
at fault. -/
theorem read_layout (l : Layout) :
    ((∃ found, read l.text = .ok found) ↔ Fits l.outer.values l.inner.values) ∧
    (Fits l.outer.values l.inner.values →
      ∃ u, read l.text = .ok (l.name, u) ∧ Lists u l.outer.values l.inner.values) ∧
    (¬ Fits l.outer.values l.inner.values →
      ∃ cause, read l.text = .error (.header cause)) := by
  have taken : (∃ found, read l.text = .ok found) ↔ Fits l.outer.values l.inner.values := by
    rw [fits_iff]
    constructor
    · rintro ⟨found, read⟩
      obtain ⟨u, -, lists⟩ := l.read_text_eq_ok_iff.mp read
      exact ⟨u, lists⟩
    · rintro ⟨u, lists⟩
      exact ⟨_, l.read_text_eq_ok_iff.mpr ⟨u, rfl, lists⟩⟩
  refine ⟨taken, ?_, ?_⟩
  · intro fits
    obtain ⟨u, lists⟩ := fits_iff.mp fits
    exact ⟨u, l.read_text_eq_ok_iff.mpr ⟨u, rfl, lists⟩, lists⟩
  · intro misfit
    have faulty : FaultOnly (read l.text) := by
      rw [read_text]
      exact (FaultOnly.readInitializer _ _).bind fun u => .ok _
    cases result : read l.text with
    | ok found => exact absurd (taken.mp ⟨found, result⟩) misfit
    | error e =>
      obtain ⟨cause, rfl⟩ := faulty e result
      exact ⟨cause, rfl⟩

/-- A layout by hand, with more leading zeros than a literal has digits, and any second literal. -/
def handWritten (mid : Literal) (formed : mid.WellFormed) : Layout where
  guard := "\t#pragma once \r".toList
  indent := [' ']
  afterHash := [' ', '\t']
  afterDefine := ['\t']
  name := "TA_UUID"
  afterName := []
  outer :=
    { before := ['\\', '\r', '\n']
      entries := [
        ⟨⟨'X', "0000000000000000008AAAf200".toList⟩, [','], by decide, by simp [separators]⟩,
        ⟨mid, ['\\', '\n', ','], formed, by simp [separators]⟩,
        ⟨⟨'x', "11E4".toList⟩, [], by decide, nofun⟩]
      before_separators := by simp [separators]
      apart := by simp }
  inner :=
    { before := []
      entries := List.replicate 7
          ⟨⟨'x', ['f', 'F']⟩, [',', ','], by decide, by simp [separators]⟩ ++
        [⟨⟨'X', ['0']⟩, [], by decide, nofun⟩]
      before_separators := nofun
      apart := by simp }
  afterInner := ['\n']
  afterOuter := []
  guard_newline := by decide
  guard_trim := by decide
  indent_spaces := by simp [spaces]
  afterHash_spaces := by simp [spaces]
  afterDefine_spaces := by simp [spaces]
  afterDefine_some := by decide
  valid := by decide
  afterName_spaces := nofun
  afterInner_separators := by simp [separators]
  afterOuter_separators := nofun

theorem read_layout_handWritten :
    (∃ u, read (handWritten ⟨'x', "ffff".toList⟩ (by decide)).text =
        .ok ("TA_UUID", u) ∧
      Lists u [0x8aaaf200, 0xffff, 0x11e4] [255, 255, 255, 255, 255, 255, 255, 0]) ∧
    ∃ cause, read (handWritten ⟨'x', "10000".toList⟩ (by decide)).text =
      .error (.header cause) := by
  constructor
  · have fits : Fits [0x8aaaf200, 0xffff, 0x11e4] [255, 255, 255, 255, 255, 255, 255, 0] :=
      ⟨⟨_, _, _, rfl, by decide, by decide, by decide⟩, rfl, by decide⟩
    exact (read_layout (handWritten ⟨'x', "ffff".toList⟩ (by decide))).2.1 fits
  · apply (read_layout (handWritten ⟨'x', "10000".toList⟩ (by decide))).2.2
    rintro ⟨⟨low, mid, high, same, -, bound, -⟩, -⟩
    have wide : 0x10000 = mid := (List.cons.inj (List.cons.inj same).2).1
    omega

end Layout

end TrustedAppId.Header
