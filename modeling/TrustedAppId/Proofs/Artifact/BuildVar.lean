import TrustedAppId.Artifact.BuildVar
import TrustedAppId.Proofs.Text.Lines
import TrustedAppId.Proofs.Uuid.RoundTrip
/-! A rendered build variable reads back under a name that is one, and whatever is read has such a
name. -/
namespace TrustedAppId

theorem Uuid.isBlank_of_mem_chars {u : Uuid} {c : Char} (h : c ∈ u.chars) :
    Text.isBlank c = false := by
  rcases mem_chars h with rfl | h
  · decide
  · exact Hex.isBlank_of_isDigit h

namespace BuildVar

theorem render_eq (name : String) (u : Uuid) : render name u = name ++ "=" ++ u.text ++ "\n" := by
  rw [← String.toList_inj]
  simp [render, renderChars, Uuid.text]

theorem readLine_assignment {name : List Char} (valid : Identifier.isName name = true) (u : Uuid) :
    readLine (name ++ '=' :: u.chars) = .ok (String.ofList name, u) := by
  have split : Text.splitFirst '=' (name ++ '=' :: u.chars) = some (name, u.chars) :=
    Text.splitFirst_append (Identifier.not_mem_of_isName valid (by decide)) u.chars
  have left : Text.trim name = name := Text.trim_eq_self fun c hc =>
    Identifier.isBlank_of_isPart (Identifier.isPart_of_mem valid hc)
  have right : Text.trim u.chars = u.chars := Text.trim_eq_self fun c => Uuid.isBlank_of_mem_chars
  simp [readLine, split, left, right, valid, Uuid.read_chars]

theorem isName_of_readLine {line : List Char} {name : String} {u : Uuid}
    (h : readLine line = .ok (name, u)) : Identifier.isName name.toList = true := by
  simp only [readLine, fault] at h
  split at h
  · simp only [reduceCtorEq] at h
  split at h
  · rename_i valid
    split at h
    · simp only [reduceCtorEq] at h
    split at h <;> simp only [Except.ok.injEq, Prod.mk.injEq, reduceCtorEq] at h
    rw [← h.1, String.toList_ofList]
    exact valid
  · simp only [reduceCtorEq] at h

theorem isName_of_read {text name : String} {u : Uuid} (h : read text = .ok (name, u)) :
    Identifier.isName name.toList = true := by
  simp only [read, readChars, fault] at h
  split at h
  · simp only [reduceCtorEq] at h
  · exact isName_of_readLine h
  · simp only [reduceCtorEq] at h

theorem newline_not_mem_assignment {name : List Char} (valid : Identifier.isName name = true)
    (u : Uuid) : '\n' ∉ name ++ '=' :: u.chars := by
  simp only [List.mem_append, List.mem_cons, not_or]
  refine ⟨Identifier.not_mem_of_isName valid (by decide), by decide, ?_⟩
  intro h
  exact absurd (Uuid.isBlank_of_mem_chars h) (by decide)

/-- The single line of a rendered build variable. -/
theorem lines_renderChars {name : List Char} (valid : Identifier.isName name = true) (u : Uuid) :
    Text.lines (renderChars name u) = [name ++ '=' :: u.chars] := by
  have last : (name ++ '=' :: u.chars).getLast? ≠ some '\r' := by
    intro h
    have mem := List.mem_of_getLast? h
    simp only [List.mem_append, List.mem_cons] at mem
    rcases mem with mem | mem | mem
    · exact Identifier.not_mem_of_isName valid (by decide) mem
    · exact absurd mem (by decide)
    · exact absurd (Uuid.isBlank_of_mem_chars mem) (by decide)
  have shape : renderChars name u = (name ++ '=' :: u.chars) ++ '\n' :: [] := by
    simp [renderChars]
  rw [shape, Text.lines_append (newline_not_mem_assignment valid u), Text.closeLine_of_getLast last]
  rfl

theorem readChars_of_lines {name text : List Char} (valid : Identifier.isName name = true)
    {u : Uuid} (single : Text.lines text = [name ++ '=' :: u.chars]) :
    readChars text = .ok (String.ofList name, u) := by
  have full : isBlankLine (name ++ '=' :: u.chars) = false := by
    rw [isBlankLine, List.all_eq_false]
    exact ⟨'=', by simp, by decide⟩
  simp [readChars, single, full, readLine_assignment valid]

theorem read_render {name : String} (valid : Identifier.isName name.toList = true) (u : Uuid) :
    read (render name u) = .ok (name, u) := by
  rw [read, render, String.toList_ofList, readChars_of_lines valid (lines_renderChars valid u),
    String.ofList_toList]

end BuildVar

end TrustedAppId
