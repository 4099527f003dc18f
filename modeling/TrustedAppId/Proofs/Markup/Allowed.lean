import TrustedAppId.Proofs.Markup.ContentTokens
/-! Laid out content holds no character that the notation forbids. -/
namespace TrustedAppId.Markup

/-- A text that the notation allows. -/
def AllAllowed (cs : List Char) : Prop := ∀ c ∈ cs, isAllowed c = true

namespace AllAllowed

variable {c : Char} {cs ds : List Char}

theorem nil : AllAllowed [] := nofun

theorem cons (first : isAllowed c = true) (rest : AllAllowed cs) : AllAllowed (c :: cs) := by
  intro d mem
  rcases List.mem_cons.mp mem with rfl | mem
  · exact first
  · exact rest d mem

theorem append (first : AllAllowed cs) (second : AllAllowed ds) : AllAllowed (cs ++ ds) := by
  intro c mem
  rcases List.mem_append.mp mem with mem | mem
  · exact first c mem
  · exact second c mem

theorem of_printable (printable : ∀ c ∈ cs, isPrintable c = true) : AllAllowed cs := by
  intro c mem
  exact isAllowed_of_isPrintable (printable c mem)

theorem spaces (count : Nat) : AllAllowed (spaces count) := by
  intro c mem
  rw [List.eq_of_mem_replicate mem]
  decide

theorem singleBody (printable : ∀ c ∈ cs, isPrintable c = true) (indent : Nat) (broken : Bool) :
    AllAllowed (singleBody indent broken cs) := by
  induction cs generalizing broken with
  | nil =>
    cases broken
    · exact nil
    · exact spaces indent
  | cons c cs ih =>
    obtain ⟨here, printable'⟩ := List.forall_mem_cons.mp printable
    have first := isAllowed_of_isPrintable here
    have rest := ih printable'
    cases breaks : isBreak c with
    | true =>
      rw [singleBody_cons_of_isBreak breaks]
      exact cons first (rest true)
    | false =>
      have char : AllAllowed (singleChar c) := by
        unfold singleChar
        split
        · exact cons (by decide) (cons (by decide) nil)
        · exact cons first nil
      rw [singleBody_cons breaks]
      cases broken
      · exact char.append (rest false)
      · exact (spaces indent).append (char.append (rest false))

theorem doubleChar (c : Char) : AllAllowed (doubleChar c) := by
  rcases doubleChar_cases c with ⟨printable, -, -, -, same⟩ | ⟨letter, found, same⟩ |
    ⟨mark, width, code, same⟩
  · rw [same]
    exact cons (isAllowed_of_isPrintable printable) nil
  · rw [same]
    exact cons (by decide) (cons (isAllowed_of_isPrintable (escapeOf_of_lookup found).2.2.1) nil)
  · rw [same]
    refine cons (by decide) (cons (isAllowed_of_isPrintable code.printable) ?_)
    intro d mem
    have := Hex.toNat_of_isDigit (Hex.isDigit_of_mem_fixedUpper mem)
    apply isAllowed_of_isPrintable
    rw [isPrintable_iff]
    omega

theorem literalBody (printable : ∀ c ∈ cs, isPrintable c = true) (indent : Nat) (broken : Bool) :
    AllAllowed (literalBody indent broken cs) := by
  induction cs generalizing broken with
  | nil => exact nil
  | cons c cs ih =>
    obtain ⟨here, printable'⟩ := List.forall_mem_cons.mp printable
    have first := isAllowed_of_isPrintable here
    have rest := ih printable'
    cases breaks : isBreak c with
    | true =>
      rw [literalBody_cons_of_isBreak breaks]
      exact cons first (rest true)
    | false =>
      rw [literalBody_cons breaks]
      cases broken
      · exact cons first (rest false)
      · exact (spaces indent).append (cons first (rest false))

theorem spell (indent : Nat) (cs : List Char) : AllAllowed (spell indent cs) := by
  rcases styleOf_cases cs with ⟨style, -, fits⟩ | ⟨style, -, plain⟩ | ⟨style, -, fits⟩ | style
  · simp only [literalAllowed, Bool.and_eq_true, List.all_eq_true] at fits
    have hints : AllAllowed (literalHints cs) := by
      unfold literalHints
      refine append ?_ ?_
      · split
        · exact cons (by decide) nil
        · exact nil
      · split
        · exact cons (by decide) nil
        · split <;> exact cons (by decide) nil
        · split
          · exact cons (by decide) nil
          · split
            · exact cons (by decide) nil
            · exact nil
    simp only [Markup.spell, style]
    exact (cons (by decide) hints).append (cons (by decide) (literalBody fits.1.1 indent true))
  · simp only [Markup.spell, style]
    exact of_printable (PlainRest.of_plainAllowed plain).printable
  · simp only [singleAllowed, Bool.and_eq_true, List.all_eq_true] at fits
    simp only [Markup.spell, style]
    exact (cons (by decide) (singleBody fits.1.1 indent false)).append (cons (by decide) nil)
  · simp only [Markup.spell, style]
    have body : AllAllowed (cs.flatMap Markup.doubleChar) := by
      intro c mem
      obtain ⟨d, -, mem⟩ := List.mem_flatMap.mp mem
      exact doubleChar d c mem
    exact (cons (by decide) body).append (cons (by decide) nil)

theorem spellLine (indent : Nat) (cs : List Char) : AllAllowed (spellLine indent cs) := by
  refine (spell indent cs).append ?_
  unfold lineEnd
  split
  · exact nil
  · exact cons (by decide) nil

theorem entryLines {value : Content} (key : String) (k : Nat)
    (lines : AllAllowed (value.lines (k + 2))) (behindKey : AllAllowed (value.behindKey k)) :
    AllAllowed (Lexer.entryLines k key value) := by
  unfold Lexer.entryLines
  split
  · exact (spell 0 _).append (cons (by decide) behindKey)
  · exact ((cons (by decide) (cons (by decide) (spellLine _ _))).append (spaces k)).append
      (cons (by decide) (cons (by decide) lines))

theorem moreItems {items : List Content} (k : Nat)
    (lines : ∀ item ∈ items, AllAllowed (item.lines (k + 2))) : AllAllowed (moreItems k items) := by
  induction items with
  | nil => exact nil
  | cons item rest ih =>
    obtain ⟨first, others⟩ := List.forall_mem_cons.mp lines
    rw [Markup.moreItems]
    exact ((spaces k).append (cons (by decide) (cons (by decide) first))).append (ih others)

theorem moreEntries {entries : List (String × Content)} (k : Nat)
    (lines : ∀ entry ∈ entries, AllAllowed (entry.2.lines (k + 2)))
    (behindKey : ∀ entry ∈ entries, AllAllowed (entry.2.behindKey k)) :
    AllAllowed (moreEntries k entries) := by
  induction entries with
  | nil => exact nil
  | cons entry rest ih =>
    obtain ⟨key, value⟩ := entry
    obtain ⟨first, others⟩ := List.forall_mem_cons.mp lines
    obtain ⟨first', others'⟩ := List.forall_mem_cons.mp behindKey
    rw [Lexer.moreEntries_cons]
    exact ((spaces k).append (entryLines key k first first')).append (ih others others')

theorem content {content : Content} (sound : content.Sound) (k : Nat) :
    AllAllowed (content.lines k) ∧ AllAllowed (content.behindKey k) := by
  induction sound generalizing k with
  | word plain =>
    have printable := of_printable (PlainRest.of_plainAllowed plain).printable
    rw [Content.lines, Content.behindKey]
    exact ⟨printable.append (cons (by decide) nil),
      (cons (by decide) printable).append (cons (by decide) nil)⟩
  | text text =>
    rw [Content.lines, Content.behindKey]
    exact ⟨spellLine k _, cons (by decide) (spellLine _ _)⟩
  | @sequence items _ ih =>
    cases items with
    | nil =>
      rw [Content.lines, Content.behindKey]
      exact ⟨of_printable (List.all_eq_true.mp rfl), of_printable (List.all_eq_true.mp rfl)⟩
    | cons item rest =>
      obtain ⟨here, others⟩ := List.forall_mem_cons.mp ih
      have first := cons (by decide : isAllowed '-' = true)
        (cons (by decide : isAllowed ' ' = true) (here (k + 2)).1)
      have others := moreItems k fun other mem => (others other mem (k + 2)).1
      rw [Content.lines, Content.behindKey]
      exact ⟨first.append others, ((cons (by decide) (spaces k)).append first).append others⟩
  | @mapping entries _ ih =>
    cases entries with
    | nil =>
      rw [Content.lines, Content.behindKey]
      exact ⟨of_printable (List.all_eq_true.mp rfl), of_printable (List.all_eq_true.mp rfl)⟩
    | cons entry rest =>
      obtain ⟨key, value⟩ := entry
      obtain ⟨first, others⟩ := List.forall_mem_cons.mp ih
      have others (k : Nat) := moreEntries k (fun entry mem => (others entry mem (k + 2)).1)
        fun entry mem => (others entry mem k).2
      have entry (k : Nat) := entryLines key k (first (k + 2)).1 (first k).2
      rw [Lexer.lines_mapping, Content.behindKey, Lexer.moreEntries_cons]
      exact ⟨(entry k).append (others k), cons (by decide)
        (((spaces (k + 2)).append (entry (k + 2))).append (others (k + 2)))⟩

end AllAllowed

/-- The tokens of a laid out mapping. -/
theorem lex_mapping {key : String} {value : Content} {rest : List (String × Content)}
    (sound : (Content.mapping ((key, value) :: rest)).Sound) :
    lex ((Content.mapping ((key, value) :: rest)).lines 0) =
      ⟨(Content.mapping ((key, value) :: rest)).tokens false ++ [.streamEnd], true⟩ := by
  rw [lex, if_pos (List.all_eq_true.mpr (AllAllowed.content sound 0).1)]
  exact Lexer.run_mapping sound

end TrustedAppId.Markup
