import TrustedAppId.Markup.Layout
import TrustedAppId.Proofs.Markup.Scalars
/-! Keys. A key without a mark is spelt on one line and in few enough octets that it has not lapsed
when its colon is found. -/
namespace TrustedAppId.Markup

variable {c : Char} {cs ds : List Char}

@[simp] theorem octets_nil : octets [] = 0 := rfl

theorem octets_cons (c : Char) (cs : List Char) : octets (c :: cs) = c.utf8Size + octets cs :=
  rfl

theorem octets_append (cs ds : List Char) : octets (cs ++ ds) = octets cs + octets ds := by
  induction cs with
  | nil => rw [List.nil_append, octets_nil, Nat.zero_add]
  | cons c rest ih => rw [List.cons_append, octets_cons, octets_cons, ih, Nat.add_assoc]

theorem octets_toList (text : String) : octets text.toList = text.utf8ByteSize := by
  rw [← String.size_toByteArray, ← String.utf8Encode_toList]
  induction text.toList with
  | nil => rfl
  | cons c rest ih =>
    rw [List.utf8Encode_cons, ByteArray.size_append, octets_cons, ih, List.utf8Encode_singleton]
    simp

theorem octets_hex {ds : List Char} (digits : ∀ d ∈ ds, Hex.isDigit d = true) :
    octets ds = ds.length := by
  induction ds with
  | nil => rfl
  | cons d rest ih =>
    obtain ⟨first, others⟩ := List.forall_mem_cons.mp digits
    rw [octets_cons, Hex.utf8Size_of_isDigit first, ih others, List.length_cons, Nat.add_comm]

theorem octets_fixedUpper (width n : Nat) : octets (Hex.fixedUpper width n) = width := by
  rw [octets_hex, Hex.length_fixedUpper]
  intro d mem
  exact Hex.isDigit_of_mem_fixedUpper mem

theorem octets_escapeCode (c : Char) : octets (escapeCode c) + 1 ≤ 4 * c.utf8Size := by
  have positive := c.utf8Size_pos
  simp only [escapeCode]
  split
  · rw [octets_cons, octets_fixedUpper, show 'x'.utf8Size = 1 from rfl]
    omega
  · next wide =>
    have notOne : c.utf8Size ≠ 1 := by
      rw [ne_eq, Char.utf8Size_eq_one_iff, UInt32.le_iff_toNat_le]
      change ¬ c.toNat ≤ 127
      omega
    split
    · rw [octets_cons, octets_fixedUpper, show 'u'.utf8Size = 1 from rfl]
      omega
    · next wider =>
      have four : c.utf8Size = 4 := by
        rw [Char.utf8Size_eq_four_iff, UInt32.lt_iff_toNat_lt]
        change 65535 < c.toNat
        omega
      rw [octets_cons, octets_fixedUpper, show 'U'.utf8Size = 1 from rfl]
      omega

theorem octets_doubleChar (c : Char) : octets (doubleChar c) ≤ 4 * c.utf8Size := by
  have positive := c.utf8Size_pos
  unfold doubleChar
  split
  · rw [octets_cons, octets_nil]
    omega
  · rw [octets_cons, show '\\'.utf8Size = 1 from rfl]
    cases found : escapeLetters.lookup c with
    | some letter =>
      simp only [octets_cons, octets_nil, (escapeOf_of_lookup found).2.2.2]
      omega
    | none =>
      have := octets_escapeCode c
      simp only
      omega

theorem octets_flatMap_doubleChar (cs : List Char) :
    octets (cs.flatMap doubleChar) ≤ 4 * octets cs := by
  induction cs with
  | nil => exact Nat.le_refl _
  | cons c cs ih =>
    have := octets_doubleChar c
    rw [List.flatMap_cons, octets_append, octets_cons]
    omega

/-- Between single quotes and on one line only quotes change. -/
theorem singleBody_of_not_break (h : cs.any isBreak = false) (indent : Nat) :
    singleBody indent false cs = cs.flatMap singleChar := by
  induction cs with
  | nil => rfl
  | cons c cs ih =>
    rw [List.any_cons, Bool.or_eq_false_iff] at h
    rw [singleBody_cons h.1, ih h.2, List.flatMap_cons]
    rfl

theorem octets_flatMap_singleChar (cs : List Char) :
    octets (cs.flatMap singleChar) ≤ 4 * octets cs := by
  induction cs with
  | nil => exact Nat.le_refl _
  | cons c cs ih =>
    have : octets (singleChar c) ≤ 4 * c.utf8Size := by
      unfold singleChar
      split
      · next quote => subst quote; decide
      · rw [octets_cons, octets_nil]
        omega
    rw [List.flatMap_cons, octets_append, octets_cons]
    omega

theorem any_flatMap_isBreak {spellChar : Char → List Char}
    (h : ∀ c ∈ cs, (spellChar c).any isBreak = false) :
    (cs.flatMap spellChar).any isBreak = false := by
  rw [List.any_flatMap, List.any_eq_false]
  intro c mem
  rw [h c mem]
  exact Bool.false_ne_true

/-- A text without line breaks stays on its line, and takes little more room than before. -/
theorem spell_of_not_break (h : cs.any isBreak = false) (indent : Nat) :
    (spell indent cs).any isBreak = false ∧ octets (spell indent cs) ≤ 4 * octets cs + 2 ∧
      styleOf cs ≠ .literal := by
  have notLiteral : styleOf cs ≠ .literal := by
    intro style
    rcases styleOf_cases cs with ⟨-, feed, -⟩ | ⟨other, -⟩ | ⟨other, -⟩ | other
    · have := List.any_eq_false.mp h '\n' feed
      contradiction
    all_goals simp only [style, reduceCtorEq] at other
  refine ⟨?_, ?_, notLiteral⟩
  · rcases styleOf_cases cs with ⟨style, -⟩ | ⟨style, -⟩ | ⟨style, -⟩ | style
    · exact absurd style notLiteral
    · simpa only [spell, style] using h
    · have body : (cs.flatMap singleChar).any isBreak = false := by
        apply any_flatMap_isBreak
        intro c mem
        have noBreak := List.any_eq_false.mp h c mem
        unfold singleChar
        split
        · decide
        · simpa using noBreak
      simp [spell, style, singleBody_of_not_break h, body, isBreak]
    · have body : (cs.flatMap doubleChar).any isBreak = false := by
        apply any_flatMap_isBreak
        intro c _
        exact any_isBreak_doubleChar c
      simp [spell, style, body, isBreak]
  · rcases styleOf_cases cs with ⟨style, -⟩ | ⟨style, -⟩ | ⟨style, -⟩ | style
    · exact absurd style notLiteral
    · simp only [spell, style]
      omega
    · have := octets_flatMap_singleChar cs
      simp only [spell, style, singleBody_of_not_break h, octets_append, octets_cons, octets_nil,
        show '\x27'.utf8Size = 1 from rfl]
      omega
    · have := octets_flatMap_doubleChar cs
      simp only [spell, style, octets_append, octets_cons, octets_nil,
        show '\x22'.utf8Size = 1 from rfl]
      omega

namespace Lexer

variable {rest : List Char} {p : Position} {indents outer : List Nat} {tokens found : List Token}

theorem readsWord_key (noBreak : cs.any isBreak = false)
    (column : plainIndent indents ≤ p.column + 1) (ended : endsWord rest.head? = true) :
    ReadsWord (spell 0 cs ++ ':' :: rest) p indents true tokens
      ((idle (':' :: rest) (p.through (spell 0 cs)) indents false
        (.scalar (styleOf cs) cs :: tokens)).withKey (keyHere p indents true tokens.length)) := by
  have margin : cs.any isBreak = true → 0 < 0 := by
    rw [noBreak]
    exact nofun
  rcases styleOf_cases cs with ⟨style, -⟩ | ⟨style, means, plain⟩ | ⟨style, -⟩ | style
  · exact absurd style (spell_of_not_break noBreak 0).2.2
  · have text := text_of_meansText means
    have spelt : spell 0 cs = cs := by simp only [spell, style]
    have read : plainText false (plainIndent indents) (':' :: rest) (p.through cs) .none cs.reverse =
        some ⟨cs.reverse.reverse, ⟨':' :: rest, p.through cs⟩, false⟩ := plainText_colon ended
    have word : ReadsWord (cs ++ ':' :: rest) p indents true tokens _ :=
      readsWord_plain plain text rfl (by decide) (by decide) column read
    rw [List.reverse_reverse] at word
    rw [spelt, style]
    exact word
  · exact readsWord_quoted (.inl style) margin (by simp)
  · exact readsWord_quoted (.inr style) margin (by simp)

/-- A key and its colon. -/
theorem leadsTo_key {key : String} (simple : isSimpleKey key = true)
    (ended : endsWord rest.head? = true)
    (h : Opens p.column .blockMappingStart outer tokens indents found) :
    (idle (spell 0 key.toList ++ ':' :: rest) p indents true tokens).LeadsTo
      (idle rest (p.through (spell 0 key.toList ++ [':'])) (p.column :: outer) false
        (.value :: .scalar (styleOf key.toList) key.toList :: .key :: found)) := by
  rw [isSimpleKey, Bool.and_eq_true, Bool.not_eq_true'] at simple
  obtain ⟨noBreak, short⟩ := simple
  have short : key.utf8ByteSize ≤ 128 := of_decide_eq_true short
  obtain ⟨oneLine, size, -⟩ := spell_of_not_break noBreak 0
  rw [octets_toList] at size
  have column : plainIndent indents ≤ p.column + 1 := by
    unfold plainIndent
    cases head : indents.head? with
    | none => exact Nat.zero_le _
    | some indent => exact Nat.succ_le_succ (h.head_le indent head)
  have line := Position.line_through oneLine p
  have near : (p.through (spell 0 key.toList)).index ≤ p.index + 1024 := by
    rw [Position.index_through]
    omega
  have behind : p.column ≤ (p.through (spell 0 key.toList)).column := by
    rw [Position.column_through oneLine]
    exact Nat.le_add_right _ _
  have kept : lapse (p.through (spell 0 key.toList)) (keyHere p indents true tokens.length) =
      some (keyHere p indents true tokens.length) := by
    simp only [keyHere, lapse, line, Nat.lt_irrefl, false_or, Nat.not_lt.mpr near, reduceIte]
  have word := @readsWord_key _ rest p indents tokens noBreak column ended
  rw [Position.through_append]
  refine (word.leadsTo h.head_le (lapseKeys_idle kept) ?_).trans
    (leadsTo_simpleKey line near behind ended h)
  have := List.length_pos_iff.mpr (spell_ne_nil 0 key.toList)
  simp only [List.length_append, List.length_cons, idle, withKey]
  omega

end Lexer

end TrustedAppId.Markup
