import Mathlib.Computability.RegularExpressions
import TrustedAppId.Proofs.Artifact.Block
import TrustedAppId.Proofs.Artifact.FreeLayout
import TrustedAppId.Proofs.Artifact.RoundTrip
/-! The pattern of a definition as regular expressions. The definition that is found is the leftmost
match at the front of a line, and the name that is captured always passes the check of names. So
nothing depends on this check: a header is read, or it is at fault itself. -/
namespace TrustedAppId

open RegularExpression

namespace Pattern

/-- Any of these characters. -/
def oneOf : List Char → RegularExpression Char
  | [] => 0
  | c :: cs => char c + oneOf cs

/-- These characters in their order. -/
def exactly : List Char → RegularExpression Char
  | [] => 1
  | c :: cs => char c * exactly cs

theorem mem_oneOf {cs word : List Char} : word ∈ (oneOf cs).matches' ↔ ∃ c ∈ cs, word = [c] := by
  induction cs with
  | nil =>
    constructor
    · intro mem
      exact absurd mem (Language.notMem_zero word)
    · rintro ⟨c, mem, -⟩
      exact absurd mem List.not_mem_nil
  | cons c cs ih =>
    rw [oneOf, matches'_add, Language.mem_add, ih, matches'_char, List.exists_mem_cons_iff]
    rfl

theorem mem_exactly {cs word : List Char} : word ∈ (exactly cs).matches' ↔ word = cs := by
  induction cs generalizing word with
  | nil => exact Language.mem_one word
  | cons c cs ih =>
    rw [exactly, matches'_mul, Language.mem_mul]
    constructor
    · rintro ⟨_, rfl, rest, mem, rfl⟩
      rw [ih.mp mem, List.singleton_append]
    · rintro rfl
      exact ⟨[c], rfl, cs, ih.mpr rfl, rfl⟩

theorem mem_star_oneOf {cs word : List Char} :
    word ∈ (oneOf cs).star.matches' ↔ ∀ c ∈ word, c ∈ cs := by
  rw [matches'_star, Language.mem_kstar]
  constructor
  · rintro ⟨words, rfl, each⟩ c mem
    obtain ⟨word, mem, here⟩ := List.mem_flatten.mp mem
    obtain ⟨d, mem, rfl⟩ := mem_oneOf.mp (each word mem)
    rwa [List.mem_singleton.mp here]
  · intro each
    have split : word = (word.map fun c => [c]).flatten := by
      rw [← List.flatMap_def, List.flatMap_singleton']
    refine ⟨word.map fun c => [c], split, ?_⟩
    intro single mem
    obtain ⟨c, here, rfl⟩ := List.mem_map.mp mem
    exact mem_oneOf.mpr ⟨c, each c here, rfl⟩

/-- One of some characters, and then any of others. -/
theorem mem_oneOf_mul_star {first others word : List Char} :
    word ∈ (oneOf first * (oneOf others).star).matches' ↔
      ∃ c rest, word = c :: rest ∧ c ∈ first ∧ ∀ d ∈ rest, d ∈ others := by
  simp only [matches'_mul, Language.mem_mul, mem_oneOf, mem_star_oneOf]
  constructor
  · rintro ⟨_, ⟨c, mem, rfl⟩, rest, each, rfl⟩
    exact ⟨c, rest, List.singleton_append, mem, each⟩
  · rintro ⟨c, rest, rfl, mem, each⟩
    exact ⟨[c], ⟨c, mem, rfl⟩, rest, each, List.singleton_append⟩

end Pattern

namespace Header

open Pattern

/-! The definition. -/

/-- What stands in front of a name, `[ \t]*#[ \t]*define[ \t]+`. -/
def openingPattern : RegularExpression Char :=
  (oneOf spaces).star * exactly ['#'] * (oneOf spaces).star * exactly defineWord *
    (oneOf spaces * (oneOf spaces).star)

def letters : List Char := "ABCDEFGHIJKLMNOPQRSTUVWXYZabcdefghijklmnopqrstuvwxyz_".toList

def lettersAndDigits : List Char := letters ++ "0123456789".toList

/-- `[A-Za-z_][A-Za-z0-9_]*` -/
def namePattern : RegularExpression Char := oneOf letters * (oneOf lettersAndDigits).star

/-- What stands behind a name, `[ \t]*{`. -/
def closingPattern : RegularExpression Char := (oneOf spaces).star * exactly ['\x7b']

/-- The text begins with a match that captures `name`, and `body` stands behind the match. -/
def Matches (name body text : List Char) : Prop :=
  ∃ opening ∈ openingPattern.matches', ∃ closing ∈ closingPattern.matches',
    name ∈ namePattern.matches' ∧ text = opening ++ (name ++ (closing ++ body))

/-- Somewhere in `text` a line begins with a match, and no line in front of it does. -/
def LeftmostMatch (text name body : List Char) : Prop :=
  ∃ front rest, text = front ++ rest ∧ BeginsLine true front ∧ Matches name body rest ∧
    ∀ front' rest', text = front' ++ rest' → front'.length < front.length →
      BeginsLine true front' → ∀ name' body', ¬ Matches name' body' rest'

theorem mem_star_spaces {gap : List Char} :
    gap ∈ (oneOf spaces).star.matches' ↔ ∀ c ∈ gap, isSpace c = true := by
  simp only [mem_star_oneOf, mem_spaces]

theorem mem_openingPattern {opening : List Char} : opening ∈ openingPattern.matches' ↔
    ∃ indent afterHash afterDefine,
      opening = indent ++ '#' :: (afterHash ++ (defineWord ++ afterDefine)) ∧
      (∀ c ∈ indent, isSpace c = true) ∧ (∀ c ∈ afterHash, isSpace c = true) ∧
      (∀ c ∈ afterDefine, isSpace c = true) ∧ afterDefine ≠ [] := by
  rw [openingPattern, matches'_mul, matches'_mul, matches'_mul, matches'_mul]
  simp only [Language.mem_mul, mem_star_spaces, mem_exactly, mem_oneOf_mul_star, mem_spaces]
  constructor
  · rintro ⟨_, ⟨_, ⟨_, ⟨indent, indent_spaces, _, rfl, rfl⟩, afterHash, afterHash_spaces, rfl⟩, _,
      rfl, rfl⟩, _, ⟨c, gap, rfl, space, spaces⟩, rfl⟩
    exact ⟨indent, afterHash, c :: gap, by simp, indent_spaces, afterHash_spaces,
      List.forall_mem_cons.mpr ⟨space, spaces⟩, List.cons_ne_nil c gap⟩
  · rintro ⟨indent, afterHash, afterDefine, rfl, indent_spaces, afterHash_spaces,
      afterDefine_spaces, apart⟩
    obtain ⟨c, gap, rfl⟩ := List.exists_cons_of_ne_nil apart
    obtain ⟨space, spaces⟩ := List.forall_mem_cons.mp afterDefine_spaces
    exact ⟨_, ⟨_, ⟨_, ⟨indent, indent_spaces, _, rfl, rfl⟩, afterHash, afterHash_spaces, rfl⟩, _,
      rfl, rfl⟩, _, ⟨c, gap, rfl, space, spaces⟩, by simp⟩

theorem mem_closingPattern {closing : List Char} : closing ∈ closingPattern.matches' ↔
    ∃ gap, closing = gap ++ ['\x7b'] ∧ ∀ c ∈ gap, isSpace c = true := by
  rw [closingPattern, matches'_mul]
  simp only [Language.mem_mul, mem_star_spaces, mem_exactly]
  constructor
  · rintro ⟨gap, spaces, _, rfl, rfl⟩
    exact ⟨gap, rfl, spaces⟩
  · rintro ⟨gap, rfl, spaces⟩
    exact ⟨gap, spaces, _, rfl, rfl⟩

theorem mem_letters {c : Char} : c ∈ letters ↔ Identifier.isLetter c = true := by
  refine Text.mem_iff_of_ascii (fun c letter => ?_) (by decide) (by decide)
  exact Identifier.ascii_of_isPart (by rw [Identifier.isPart, letter, Bool.true_or])

theorem mem_lettersAndDigits {c : Char} : c ∈ lettersAndDigits ↔ Identifier.isPart c = true :=
  Text.mem_iff_of_ascii (fun _ => Identifier.ascii_of_isPart) (by decide) (by decide)

/-- The pattern and the check of names are of one mind. -/
theorem mem_namePattern {name : List Char} :
    name ∈ namePattern.matches' ↔ Identifier.isName name = true := by
  rw [namePattern, mem_oneOf_mul_star]
  simp only [mem_letters, mem_lettersAndDigits]
  cases name with
  | nil =>
    constructor
    · rintro ⟨_, _, shape, -⟩
      cases shape
    · exact nofun
  | cons first rest =>
    rw [Identifier.isName, Bool.and_eq_true, List.all_eq_true]
    constructor
    · rintro ⟨_, _, shape, letter, parts⟩
      obtain ⟨rfl, rfl⟩ := List.cons.inj shape
      exact ⟨letter, parts⟩
    · rintro ⟨letter, parts⟩
      exact ⟨first, rest, rfl, letter, parts⟩

/-! The leftmost match. -/

theorem matches_iff_defines {name body text : List Char} :
    Matches name body text ↔ Defines name body text := by
  constructor
  · rintro ⟨opening, before, closing, behind, captured, rfl⟩
    obtain ⟨indent, afterHash, afterDefine, rfl, indent_spaces, afterHash_spaces,
      afterDefine_spaces, apart⟩ := mem_openingPattern.mp before
    obtain ⟨afterName, rfl, afterName_spaces⟩ := mem_closingPattern.mp behind
    have defines := @Defines.spaced name body _ _ _ _ indent_spaces afterHash_spaces
      afterDefine_spaces apart (mem_namePattern.mp captured) afterName_spaces
    simpa only [List.append_assoc, List.cons_append, List.nil_append] using defines
  · rintro ⟨indent_spaces, afterHash_spaces, afterDefine_spaces, apart, valid, afterName_spaces⟩
    refine ⟨_, mem_openingPattern.mpr ⟨_, _, _, rfl, indent_spaces, afterHash_spaces,
      afterDefine_spaces, apart⟩, _, mem_closingPattern.mpr ⟨_, rfl, afterName_spaces⟩,
      mem_namePattern.mpr valid, ?_⟩
    simp only [List.append_assoc, List.cons_append, List.nil_append]

theorem leftmostMatch_iff {text name body : List Char} :
    LeftmostMatch text name body ↔ FirstDefinition true text name body := by
  simp only [LeftmostMatch, FirstDefinition, matches_iff_defines]

/-! The check. -/

/-- Reads a header without checking the name of its definition. -/
def readUnchecked (text : List Char) : Except Error (String × Uuid) :=
  if hasGuard text then
    match findDefine? true text with
    | none => fault .noDefine
    | some (name, body) => do
      let (outer, inner) ← splitBody body
      let u ← readInitializer outer inner
      pure (String.ofList name, u)
  else fault .noGuard

theorem readChars_eq_readUnchecked (text : List Char) : readChars text = readUnchecked text := by
  rw [readChars, readUnchecked]
  cases guarded : hasGuard text with
  | false => rfl
  | true =>
    cases found : findDefine? true text with
    | none => rfl
    | some definition =>
      obtain ⟨name, body⟩ := definition
      have valid := (findDefine_eq_some_iff.mp found).isName
      simp only [valid]
      rfl

namespace FaultOnly

theorem splitBody (body : List Char) : FaultOnly (Header.splitBody body) := by
  unfold Header.splitBody
  split
  · exact fault _
  split
  · exact fault _
  split
  · exact ok _
  · exact fault _

/-- No end of the reader is refused for a name. -/
theorem readUnchecked (text : List Char) : FaultOnly (Header.readUnchecked text) := by
  unfold Header.readUnchecked
  split
  · split
    · exact fault _
    · refine (splitBody _).bind fun parts => ?_
      exact (readInitializer parts.1 parts.2).bind fun u => ok _
  · exact fault _

end FaultOnly

/-- Whatever the leftmost match captures passes the check of names, which could be left out: a
header is read under the name that is captured, or it is at fault itself. -/
theorem read_captured (text : String) :
    (∀ name body, LeftmostMatch text.toList name body →
      Emission.checkName (String.ofList name) = .ok ()) ∧
    read text = readUnchecked text.toList ∧
    ((∃ name u body, read text = .ok (name, u) ∧ LeftmostMatch text.toList name.toList body ∧
        Emission.checkName name = .ok ()) ∨
      ∃ cause, read text = .error (.header cause)) := by
  have same : read text = readUnchecked text.toList := readChars_eq_readUnchecked text.toList
  refine ⟨?_, same, ?_⟩
  · intro name body leftmost
    rw [Emission.checkName_eq_ok_iff, String.toList_ofList]
    exact (leftmostMatch_iff.mp leftmost).isName
  · cases result : read text with
    | ok found =>
      obtain ⟨name, u⟩ := found
      obtain ⟨-, outer, inner, tail, cut, -⟩ := read_eq_ok_iff.mp result
      exact .inl ⟨name, u, _, rfl, leftmostMatch_iff.mpr cut.first,
        Emission.checkName_eq_ok_iff.mpr cut.first.isName⟩
    | error e =>
      obtain ⟨cause, rfl⟩ := FaultOnly.readUnchecked text.toList e (same.symm.trans result)
      exact .inr ⟨cause, rfl⟩

/-- A definition within a line and one without a brace stand in front of the match. -/
def lateDefinition : String :=
  "/**/ #define A \x7b\n#define B\n \t#  define\t_9x \x7b \x7b 0x1"

theorem read_captured_lateDefinition :
    LeftmostMatch lateDefinition.toList ['_', '9', 'x'] " \x7b 0x1".toList ∧
    Emission.checkName (String.ofList ['_', '9', 'x']) = .ok () := by
  have leftmost : LeftmostMatch lateDefinition.toList ['_', '9', 'x'] " \x7b 0x1".toList :=
    leftmostMatch_iff.mpr (findDefine_eq_some_iff.mp (by decide))
  exact ⟨leftmost, (read_captured lateDefinition).1 _ _ leftmost⟩

end Header

end TrustedAppId
