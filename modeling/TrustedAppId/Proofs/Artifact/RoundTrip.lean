import TrustedAppId.Emission
import TrustedAppId.Proofs.Artifact.BuildVar
import TrustedAppId.Proofs.Artifact.Header
/-! Reading an artifact undoes writing it, exactly for the names that an emission accepts, and no
header is taken for a build variable. -/
namespace TrustedAppId

theorem Emission.checkName_eq_ok_iff {name : String} :
    checkName name = .ok () ↔ Identifier.isName name.toList = true := by
  unfold checkName
  by_cases valid : Identifier.isName name.toList = true
  · simp [valid]
  · simp [valid]

namespace Artifact

theorem read_render_iff_checkName (name : String) (u : Uuid) :
    (Header.read (Header.render name u) = .ok (name, u) ↔ Emission.checkName name = .ok ()) ∧
      (BuildVar.read (BuildVar.render name u) = .ok (name, u) ↔
        Emission.checkName name = .ok ()) := by
  rw [Emission.checkName_eq_ok_iff]
  constructor
  · constructor
    · exact Header.isName_of_read
    · intro valid
      exact Header.read_render valid u
  · constructor
    · exact BuildVar.isName_of_read
    · intro valid
      exact BuildVar.read_render valid u

/-- The guard and the definition of a header stand on two lines that are not blank. -/
theorem buildVar_read_header {name : String} (valid : Identifier.isName name.toList = true)
    (u : Uuid) : BuildVar.read (Header.render name u) = .error (.buildVar .severalLines) := by
  have newline : '\n' ∉ Header.defineText ++ name.toList ++ [' ', '\x7b', ' ', '\\'] := by
    have other : '\n' ∉ Header.defineText := by decide
    have := Identifier.not_mem_of_isName valid (c := '\n') (by decide)
    simp [this, other]
  have shape : Header.renderChars name.toList u = Header.guardText ++ '\n' :: ([] ++ '\n' ::
      (Header.defineText ++ name.toList ++ [' ', '\x7b', ' ', '\\'] ++ '\n' ::
        (Header.bodyText (.ofUuid u) Header.tailText).drop 3)) := by
    rw [Header.renderChars_eq]
    simp [Header.opened, Header.bodyText, Header.outerText]
  have define : BuildVar.isBlankLine (Text.closeLine
      (Header.defineText ++ name.toList ++ [' ', '\x7b', ' ', '\\'], true)) = false := by
    have last : (Header.defineText ++ name.toList ++ [' ', '\x7b', ' ', '\\']).getLast? ≠
        some '\r' := by
      rw [List.getLast?_append]
      exact ne_of_beq_false rfl
    rw [Text.closeLine_of_getLast last, BuildVar.isBlankLine, List.all_eq_false]
    have mark : '#' ∈ Header.defineText := by decide
    exact ⟨'#', by simp [mark], by decide⟩
  simp only [BuildVar.read, BuildVar.readChars, Header.render, String.toList_ofList, shape]
  rw [Text.lines_append (by decide), Text.lines_append (by decide), Text.lines_append newline,
    List.filter_cons_of_pos rfl, List.filter_cons_of_neg Bool.false_ne_true,
    List.filter_cons_of_pos (by rw [define, Bool.not_false])]
  rfl

/-- No text is the build variable of one identifier and the header of another one. -/
theorem render_ne {variableName macroName : String}
    (validVariable : Identifier.isName variableName.toList = true)
    (validMacro : Identifier.isName macroName.toList = true) (u v : Uuid) :
    BuildVar.render variableName u ≠ Header.render macroName v := by
  intro same
  have read := BuildVar.read_render validVariable u
  rw [same, buildVar_read_header validMacro] at read
  cases read

end Artifact

end TrustedAppId
