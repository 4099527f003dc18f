import TrustedAppId.Proofs.Artifact.Header
/-! The definition that counts. `Defines` says how a definition may be written, and
`FirstDefinition` that it is the first one at the front of a line; the reader finds exactly this
one. -/
namespace TrustedAppId

theorem Identifier.of_take {cs name rest : List Char} (taken : take? cs = some (name, rest)) :
    cs = name ++ rest ∧ isName name = true := by
  cases cs with
  | nil => contradiction
  | cons first cs =>
    rw [take?] at taken
    split at taken
    · next letter =>
      obtain ⟨rfl, rfl⟩ := Prod.mk.inj (Option.some.inj taken)
      refine ⟨?_, ?_⟩
      · rw [List.cons_append, List.takeWhile_append_dropWhile]
      · rw [isName, letter, Bool.true_and]
        exact List.all_takeWhile
    · contradiction

namespace Header

theorem eq_append_of_dropWord {word cs rest : List Char} (dropped : dropWord? word cs = some rest) :
    cs = word ++ rest := by
  induction word generalizing cs with
  | nil => exact Option.some.inj dropped
  | cons w word ih =>
    cases cs with
    | nil => contradiction
    | cons c cs =>
      rw [dropWord?] at dropped
      split at dropped
      · next same => rw [same, ih dropped, List.cons_append]
      · contradiction

theorem exists_dropSpaces_append (cs : List Char) :
    ∃ gap, cs = gap ++ dropSpaces cs ∧ ∀ c ∈ gap, isSpace c = true :=
  ⟨cs.takeWhile isSpace, List.takeWhile_append_dropWhile.symm,
    List.all_eq_true.mp List.all_takeWhile⟩

theorem exists_dropGap_append {cs rest : List Char} (dropped : dropGap? cs = some rest) :
    ∃ gap, cs = gap ++ rest ∧ (∀ c ∈ gap, isSpace c = true) ∧ gap ≠ [] := by
  rw [dropGap?] at dropped
  split at dropped
  · next space =>
    obtain rfl := Option.some.inj dropped
    obtain ⟨gap, shape, spaces⟩ := exists_dropSpaces_append cs
    refine ⟨gap, shape, spaces, ?_⟩
    rintro rfl
    -- Without a gap the text would begin with a space that has been dropped.
    cases cs with
    | nil => exact absurd space Bool.false_ne_true
    | cons c cs =>
      rw [List.nil_append, dropSpaces, List.dropWhile_cons_of_pos (p := isSpace) space] at shape
      have shorter := (List.dropWhile_suffix (l := cs) isSpace).length_le
      rw [← shape, List.length_cons] at shorter
      omega
  · contradiction

/-- The text begins with a definition of `name`, and `body` stands behind its brace. Spaces may
stand around the parts of a definition, and some must stand in front of the name. -/
inductive Defines (name body : List Char) : List Char → Prop where
  | spaced {indent afterHash afterDefine afterName : List Char}
      (indent_spaces : ∀ c ∈ indent, isSpace c = true)
      (afterHash_spaces : ∀ c ∈ afterHash, isSpace c = true)
      (afterDefine_spaces : ∀ c ∈ afterDefine, isSpace c = true) (apart : afterDefine ≠ [])
      (valid : Identifier.isName name = true)
      (afterName_spaces : ∀ c ∈ afterName, isSpace c = true) :
      Defines name body (indent ++ '#' :: (afterHash ++ (defineWord ++ (afterDefine ++
        (name ++ (afterName ++ '\x7b' :: body))))))

theorem define_eq_some_iff {cs name body : List Char} :
    define? cs = some (name, body) ↔ Defines name body cs := by
  constructor
  · intro defined
    simp only [define?, Option.bind_eq_bind, Option.bind_eq_some_iff, Option.pure_def,
      Option.some.injEq, Prod.mk.injEq, Prod.exists] at defined
    obtain ⟨first, mark, second, word, third, gap, _, rest, name', _, brace, rfl, rfl⟩ := defined
    obtain ⟨indent, shape, indent_spaces⟩ := exists_dropSpaces_append cs
    obtain ⟨afterHash, shape₁, afterHash_spaces⟩ := exists_dropSpaces_append first
    obtain ⟨afterDefine, shape₂, afterDefine_spaces, apart⟩ := exists_dropGap_append gap
    obtain ⟨shape₃, valid⟩ := Identifier.of_take name'
    obtain ⟨afterName, shape₄, afterName_spaces⟩ := exists_dropSpaces_append rest
    rw [shape, eq_append_of_dropWord mark, shape₁, eq_append_of_dropWord word, shape₂, shape₃,
      shape₄, eq_append_of_dropWord brace]
    exact .spaced indent_spaces afterHash_spaces afterDefine_spaces apart valid afterName_spaces
  · rintro ⟨indent_spaces, afterHash_spaces, afterDefine_spaces, apart, valid, afterName_spaces⟩
    exact define_spaced indent_spaces afterHash_spaces afterDefine_spaces apart valid
      afterName_spaces body

theorem Defines.ne_nil {cs name body : List Char} (defines : Defines name body cs) : cs ≠ [] := by
  cases defines
  simp

/-- Behind `front` a line begins; `lineStart` says whether one begins in front of it. -/
def BeginsLine (lineStart : Bool) (front : List Char) : Prop :=
  match front.getLast? with
  | none => lineStart = true
  | some c => c = '\n'

theorem beginsLine_cons {lineStart : Bool} {c : Char} {front : List Char} :
    BeginsLine lineStart (c :: front) ↔ BeginsLine (c = '\n') front := by
  rw [BeginsLine, BeginsLine, List.getLast?_cons]
  cases front.getLast? with
  | none => exact decide_eq_true_iff.symm
  | some d => rfl

/-- Somewhere in `text` a line begins with a definition, and no line in front of it does. -/
def FirstDefinition (lineStart : Bool) (text name body : List Char) : Prop :=
  ∃ front rest, text = front ++ rest ∧ BeginsLine lineStart front ∧ Defines name body rest ∧
    ∀ front' rest', text = front' ++ rest' → front'.length < front.length →
      BeginsLine lineStart front' → ∀ name' body', ¬ Defines name' body' rest'

namespace FirstDefinition

variable {lineStart : Bool} {c : Char} {text name body : List Char}

theorem here (defines : Defines name body text) : FirstDefinition true text name body :=
  ⟨[], text, rfl, rfl, defines, fun _ _ _ shorter => absurd shorter (Nat.not_lt_zero _)⟩

/-- Where no definition begins, the first one is the first one of what follows. -/
theorem cons_iff (other : lineStart = true → ∀ name' body', ¬ Defines name' body' (c :: text)) :
    FirstDefinition lineStart (c :: text) name body ↔
      FirstDefinition (c = '\n') text name body := by
  constructor
  · rintro ⟨front, rest, shape, begins, defines, first⟩
    cases front with
    | nil =>
      obtain rfl : c :: text = rest := shape
      exact absurd defines (other begins _ _)
    | cons d front =>
      obtain ⟨rfl, rfl⟩ := List.cons.inj shape
      refine ⟨front, rest, rfl, beginsLine_cons.mp begins, defines, ?_⟩
      intro front' rest' shape' shorter begins'
      exact first (c :: front') rest' (congrArg (c :: ·) shape') (Nat.succ_lt_succ shorter)
        (beginsLine_cons.mpr begins')
  · rintro ⟨front, rest, rfl, begins, defines, first⟩
    refine ⟨c :: front, rest, rfl, beginsLine_cons.mpr begins, defines, ?_⟩
    intro front' rest' shape' shorter begins'
    cases front' with
    | nil =>
      obtain rfl : c :: (front ++ rest) = rest' := shape'
      exact other begins'
    | cons d front' =>
      obtain ⟨rfl, later⟩ := List.cons.inj shape'
      exact first front' rest' later (Nat.lt_of_succ_lt_succ shorter)
        (beginsLine_cons.mp begins')

end FirstDefinition

/-- The definition that is found is the first one at the front of a line. -/
theorem findDefine_eq_some_iff {lineStart : Bool} {text name body : List Char} :
    findDefine? lineStart text = some (name, body) ↔ FirstDefinition lineStart text name body := by
  induction text generalizing lineStart with
  | nil =>
    constructor
    · intro found
      contradiction
    · rintro ⟨front, rest, shape, -, defines, -⟩
      exact absurd (List.nil_eq_append_iff.mp shape).2 defines.ne_nil
  | cons c text ih =>
    rw [findDefine?]
    cases here : (if lineStart then define? (c :: text) else none) with
    | some found =>
      obtain ⟨name', body'⟩ := found
      obtain ⟨rfl, defined⟩ : lineStart = true ∧ define? (c :: text) = some (name', body') := by
        simpa using here
      have defines := define_eq_some_iff.mp defined
      constructor
      · rintro same
        obtain ⟨rfl, rfl⟩ := Prod.mk.inj (Option.some.inj same)
        exact .here defines
      · rintro ⟨front, rest, shape, -, defines', first⟩
        cases front with
        | nil =>
          obtain rfl : c :: text = rest := shape
          rw [← defined, define_eq_some_iff.mpr defines']
        | cons d front =>
          exact absurd defines (first [] _ rfl (Nat.succ_pos _) rfl _ _)
    | none =>
      refine ih.trans (FirstDefinition.cons_iff ?_).symm
      rintro rfl name' body' defines
      rw [if_pos rfl, define_eq_some_iff.mpr defines] at here
      contradiction

end Header

end TrustedAppId
