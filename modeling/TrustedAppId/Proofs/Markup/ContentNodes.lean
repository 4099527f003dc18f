import TrustedAppId.Markup.Document
import TrustedAppId.Proofs.Markup.Allowed
/-! The nodes of laid out content. Reading the tokens of content gives its node and stops behind them;
four calls for each token are fuel enough. -/
namespace TrustedAppId.Markup

/-- A scalar without anchor and tag. -/
def textNode (style : Style) (text : List Char) : Node := .scalar none ⟨none, style, text⟩

mutual

def Content.node : Content → Node
  | .word text => textNode .plain text.toList
  | .text text => textNode (styleOf text.toList) text.toList
  | .sequence items => .sequence none none (itemNodes items)
  | .mapping entries => .mapping none none (entryNodes entries)

def itemNodes : List Content → List Node
  | [] => []
  | item :: rest => item.node :: itemNodes rest

def entryNodes : List (String × Content) → List (Node × Node)
  | [] => []
  | (key, value) :: rest =>
    (textNode (styleOf key.toList) key.toList, value.node) :: entryNodes rest

end

/-- A token that opens a node without anchor and tag. -/
def opensNode : Token → Bool
  | .scalar _ _ | .flowSequenceStart | .flowMappingStart | .blockSequenceStart
  | .blockMappingStart => true
  | _ => false

theorem tokens_sequence (item : Content) (rest : List Content) :
    (Content.sequence (item :: rest)).tokens false =
      .blockSequenceStart :: (itemTokens (item :: rest) ++ [.blockEnd]) := by
  rw [Content.tokens, if_neg Bool.false_ne_true, List.cons_append]

theorem tokens_bareSequence (item : Content) (rest : List Content) :
    (Content.sequence (item :: rest)).tokens true = itemTokens (item :: rest) := by
  rw [Content.tokens, if_pos rfl]

theorem tokens_mapping (bare : Bool) (entry : String × Content) (rest : List (String × Content)) :
    (Content.mapping (entry :: rest)).tokens bare =
      .blockMappingStart :: (entryTokens (entry :: rest) ++ [.blockEnd]) := by
  rw [Content.tokens, List.cons_append]

theorem head_tokens (content : Content) : ∃ token rest, content.tokens false = token :: rest ∧
    opensNode token = true := by
  cases content with
  | word | text => exact ⟨_, _, by rw [Content.tokens], rfl⟩
  | sequence items =>
    cases items with
    | nil => exact ⟨_, _, by rw [Content.tokens], rfl⟩
    | cons item rest => exact ⟨_, _, tokens_sequence item rest, rfl⟩
  | mapping entries =>
    cases entries with
    | nil => exact ⟨_, _, by rw [Content.tokens], rfl⟩
    | cons entry rest => exact ⟨_, _, tokens_mapping false entry rest, rfl⟩

/-- The bare tokens may also begin with the first entry of a sequence. -/
theorem head_bareTokens (content : Content) : ∃ token rest, content.tokens true = token :: rest ∧
    endsBlockPart token = false := by
  cases content with
  | word | text => exact ⟨_, _, by rw [Content.tokens], rfl⟩
  | sequence items =>
    cases items with
    | nil => exact ⟨_, _, by rw [Content.tokens], rfl⟩
    | cons item rest =>
      exact ⟨.blockEntry, item.tokens false ++ itemTokens rest,
        by rw [tokens_bareSequence, itemTokens, List.cons_append], rfl⟩
  | mapping entries =>
    cases entries with
    | nil => exact ⟨_, _, by rw [Content.tokens], rfl⟩
    | cons entry rest => exact ⟨_, _, tokens_mapping true entry rest, rfl⟩

variable {handles : Handles} {fuel : Nat} {rest : List Token}

theorem readNode_scalar (block indentless : Bool) (style : Style) (text : List Char) :
    readNode (fuel + 1) block indentless ⟨.scalar style text :: rest, [], handles⟩ =
      (textNode style text, some ⟨rest, [], handles⟩) := by
  simp [readNode, Reader.peek, Reader.properties, Reader.addAnchor, Reader.skip, textNode]

theorem readNode_blockSequence (indentless : Bool) {items : List Node} {after : Option Reader}
    (read : readBlockItems fuel ⟨rest, [], handles⟩ = (items, after)) :
    readNode (fuel + 1) true indentless ⟨.blockSequenceStart :: rest, [], handles⟩ =
      (.sequence none none items, after) := by
  simp [readNode, Reader.peek, Reader.properties, Reader.addAnchor, Reader.skip, read]

theorem readNode_blockMapping (indentless : Bool) {entries : List (Node × Node)}
    {after : Option Reader}
    (read : readBlockEntries fuel ⟨rest, [], handles⟩ = (entries, after)) :
    readNode (fuel + 1) true indentless ⟨.blockMappingStart :: rest, [], handles⟩ =
      (.mapping none none entries, after) := by
  simp [readNode, Reader.peek, Reader.properties, Reader.addAnchor, Reader.skip, read]

theorem readNode_plainItems {items : List Node} {after : Option Reader}
    (read : readPlainItems fuel ⟨.blockEntry :: rest, [], handles⟩ = (items, after)) :
    readNode (fuel + 1) true true ⟨.blockEntry :: rest, [], handles⟩ =
      (.sequence none none items, after) := by
  simp [readNode, Reader.peek, Reader.properties, Reader.addAnchor, read]

theorem readNode_emptySequence (block indentless : Bool) :
    readNode (fuel + 2) block indentless
        ⟨.flowSequenceStart :: .flowSequenceEnd :: rest, [], handles⟩ =
      (.sequence none none [], some ⟨rest, [], handles⟩) := by
  simp [readNode, readFlowItems, Reader.peek, Reader.properties, Reader.addAnchor, Reader.skip]

theorem readNode_emptyMapping (block indentless : Bool) :
    readNode (fuel + 2) block indentless
        ⟨.flowMappingStart :: .flowMappingEnd :: rest, [], handles⟩ =
      (.mapping none none [], some ⟨rest, [], handles⟩) := by
  simp [readNode, readFlowEntries, Reader.peek, Reader.properties, Reader.addAnchor, Reader.skip]

theorem readPart_of_head {absent : Token → Bool} {block indentless : Bool} {token : Token}
    (there : absent token = false) :
    readPart (fuel + 1) absent block indentless ⟨token :: rest, [], handles⟩ =
      readNode fuel block indentless ⟨token :: rest, [], handles⟩ := by
  simp [readPart, Reader.peek, there]

/-- A token that begins a node stands for no absent one. -/
theorem not_absent_of_opensNode {token : Token} (opens : opensNode token = true) :
    endsBlockItem token = false ∧ endsPlainItem token = false ∧ endsBlockPart token = false := by
  cases token <;> first | contradiction | exact ⟨rfl, rfl, rfl⟩

/-- Content is read from its tokens, from the bare ones if no further entry of a sequence follows. -/
structure ParsesContent (handles : Handles) (content : Content) : Prop where
  tokens : ∀ (fuel : Nat) (indentless : Bool) (rest : List Token),
    4 * (content.tokens false).length ≤ fuel →
      readNode fuel true indentless ⟨content.tokens false ++ rest, [], handles⟩ =
        (content.node, some ⟨rest, [], handles⟩)
  bare : ∀ (fuel : Nat) (token : Token) (rest : List Token), token ≠ .blockEntry →
    4 * (content.tokens true).length + 2 ≤ fuel →
      readNode fuel true true ⟨content.tokens true ++ token :: rest, [], handles⟩ =
        (content.node, some ⟨token :: rest, [], handles⟩)

theorem ParsesContent.part {content : Content} (h : ParsesContent handles content)
    {absent : Token → Bool} (there : ∀ token, opensNode token = true → absent token = false) (indentless : Bool)
    (large : 4 * (content.tokens false).length ≤ fuel) (rest : List Token) :
    readPart (fuel + 1) absent true indentless ⟨content.tokens false ++ rest, [], handles⟩ =
      (content.node, some ⟨rest, [], handles⟩) := by
  obtain ⟨token, more, same, opens⟩ := head_tokens content
  have read := h.tokens fuel indentless rest large
  rw [same] at read ⊢
  exact (readPart_of_head (there token opens)).trans read

theorem readBlockItems_eq {items : List Content}
    (parses : ∀ item ∈ items, ParsesContent handles item) (large : 4 * (itemTokens items).length < fuel) :
    readBlockItems fuel ⟨itemTokens items ++ .blockEnd :: rest, [], handles⟩ =
      (itemNodes items, some ⟨rest, [], handles⟩) := by
  induction items generalizing fuel with
  | nil =>
    obtain ⟨fuel, rfl⟩ := Nat.exists_eq_succ_of_ne_zero (Nat.ne_of_gt (Nat.zero_lt_of_lt large))
    rfl
  | cons item items ih =>
    simp only [itemTokens, List.length_append, List.length_cons] at large
    obtain ⟨fuel, rfl⟩ : ∃ more, fuel = more + 2 := ⟨fuel - 2, by omega⟩
    obtain ⟨parsesFirst, parsesOthers⟩ := List.forall_mem_cons.mp parses
    have there (token : Token) (opens : opensNode token = true) : endsBlockItem token = false :=
      (not_absent_of_opensNode opens).1
    have first : readPart (fuel + 1) endsBlockItem true false
        ⟨item.tokens false ++ (itemTokens items ++ .blockEnd :: rest), [], handles⟩ = _ :=
      parsesFirst.part there false (by omega) _
    have others : readBlockItems (fuel + 1)
        ⟨itemTokens items ++ .blockEnd :: rest, [], handles⟩ = _ :=
      ih parsesOthers (by omega)
    rw [itemTokens, itemNodes]
    simp only [List.cons_append, List.append_assoc]
    rw [readBlockItems]
    simp only [Reader.peek, List.head?_cons, Reader.skip, List.drop_succ_cons, List.drop_zero]
    rw [first]
    simp only [others]

theorem readPlainItems_eq {items : List Content} {token : Token}
    (parses : ∀ item ∈ items, ParsesContent handles item) (notEntry : token ≠ .blockEntry)
    (large : 4 * (itemTokens items).length < fuel) :
    readPlainItems fuel ⟨itemTokens items ++ token :: rest, [], handles⟩ =
      (itemNodes items, some ⟨token :: rest, [], handles⟩) := by
  induction items generalizing fuel with
  | nil =>
    obtain ⟨fuel, rfl⟩ := Nat.exists_eq_succ_of_ne_zero (Nat.ne_of_gt (Nat.zero_lt_of_lt large))
    rw [itemTokens, itemNodes, List.nil_append, readPlainItems]
    cases token with
    | blockEntry => contradiction
    | _ => rfl
  | cons item items ih =>
    simp only [itemTokens, List.length_append, List.length_cons] at large
    obtain ⟨fuel, rfl⟩ : ∃ more, fuel = more + 2 := ⟨fuel - 2, by omega⟩
    obtain ⟨parsesFirst, parsesOthers⟩ := List.forall_mem_cons.mp parses
    have there (token : Token) (opens : opensNode token = true) : endsPlainItem token = false :=
      (not_absent_of_opensNode opens).2.1
    have first : readPart (fuel + 1) endsPlainItem true false
        ⟨item.tokens false ++ (itemTokens items ++ token :: rest), [], handles⟩ = _ :=
      parsesFirst.part there false (by omega) _
    have others : readPlainItems (fuel + 1) ⟨itemTokens items ++ token :: rest, [], handles⟩ = _ :=
      ih parsesOthers (by omega)
    rw [itemTokens, itemNodes]
    simp only [List.cons_append, List.append_assoc]
    rw [readPlainItems]
    simp only [Reader.peek, List.head?_cons, Reader.skip, List.drop_succ_cons, List.drop_zero]
    rw [first]
    simp only [others]

theorem readBlockValue_eq {content : Content} {token : Token}
    (parses : ParsesContent handles content) (bare : Bool) (notEntry : token ≠ .blockEntry)
    (large : 4 * (content.tokens bare).length + 4 ≤ fuel) :
    readBlockValue fuel ⟨.value :: (content.tokens bare ++ token :: rest), [], handles⟩ =
      (content.node, some ⟨token :: rest, [], handles⟩) := by
  obtain ⟨fuel, rfl⟩ : ∃ more, fuel = more + 2 := ⟨fuel - 2, by omega⟩
  rw [readBlockValue]
  simp only [Reader.peek, List.head?_cons, Reader.skip, List.drop_succ_cons, List.drop_zero]
  cases bare with
  | false =>
    have there (token : Token) (opens : opensNode token = true) : endsBlockPart token = false :=
      (not_absent_of_opensNode opens).2.2
    exact parses.part there true (by omega) _
  | true =>
    obtain ⟨first, more, same, there⟩ := head_bareTokens content
    have read := parses.bare fuel token rest notEntry (by omega)
    rw [same] at read ⊢
    exact (readPart_of_head there).trans read

theorem readBlockEntries_eq {entries : List (String × Content)}
    (parses : ∀ entry ∈ entries, ParsesContent handles entry.2)
    (large : 4 * (entryTokens entries).length < fuel) :
    readBlockEntries fuel ⟨entryTokens entries ++ .blockEnd :: rest, [], handles⟩ =
      (entryNodes entries, some ⟨rest, [], handles⟩) := by
  induction entries generalizing fuel with
  | nil =>
    obtain ⟨fuel, rfl⟩ := Nat.exists_eq_succ_of_ne_zero (Nat.ne_of_gt (Nat.zero_lt_of_lt large))
    rfl
  | cons entry entries ih =>
    obtain ⟨key, value⟩ := entry
    simp only [entryTokens, List.length_append, List.length_cons] at large
    obtain ⟨fuel, rfl⟩ : ∃ more, fuel = more + 3 := ⟨fuel - 3, by omega⟩
    obtain ⟨parsesFirst, parsesOthers⟩ := List.forall_mem_cons.mp parses
    have others : readBlockEntries (fuel + 2)
        ⟨entryTokens entries ++ .blockEnd :: rest, [], handles⟩ = _ :=
      ih parsesOthers (by omega)
    -- A further key or the end of the mapping follows the value.
    obtain ⟨token, more, behind, notEntry⟩ : ∃ token more,
        entryTokens entries ++ .blockEnd :: rest = token :: more ∧ token ≠ .blockEntry := by
      cases entries with
      | nil => exact ⟨_, _, rfl, by decide⟩
      | cons entry entries => exact ⟨.key, _, by rw [entryTokens]; rfl, by decide⟩
    have first : ParsesContent handles value := parsesFirst
    have read : readBlockValue (fuel + 2)
        ⟨.value :: (value.tokens (isSimpleKey key) ++ token :: more), [], handles⟩ = _ :=
      readBlockValue_eq first (isSimpleKey key) notEntry (by omega)
    rw [← behind] at read
    rw [entryTokens, entryNodes]
    simp only [List.cons_append, List.append_assoc]
    rw [readBlockEntries]
    simp only [Reader.peek, List.head?_cons, Reader.skip, List.drop_succ_cons, List.drop_zero]
    rw [readPart_of_head rfl, readNode_scalar]
    simp only [read, others]

theorem parsesContent (handles : Handles) {content : Content} (sound : content.Sound) :
    ParsesContent handles content := by
  have scalar (style : Style) (text : List Char) (fuel : Nat) (large : 4 * 1 ≤ fuel)
      (indentless : Bool) (rest : List Token) :
      readNode fuel true indentless ⟨.scalar style text :: rest, [], handles⟩ =
        (textNode style text, some ⟨rest, [], handles⟩) := by
    obtain ⟨fuel, rfl⟩ : ∃ more, fuel = more + 1 := ⟨fuel - 1, by omega⟩
    exact readNode_scalar true indentless style text
  induction sound with
  | word | text =>
    constructor
    · intro fuel indentless rest large
      rw [Content.tokens] at large ⊢
      rw [Content.node]
      exact scalar _ _ fuel large indentless rest
    · intro fuel token rest notEntry large
      rw [Content.tokens] at large ⊢
      rw [Content.node]
      exact scalar _ _ fuel (Nat.le_of_add_right_le large) true _
  | @sequence items _ ih =>
    cases items with
    | nil =>
      constructor
      · intro fuel indentless rest large
        rw [Content.tokens] at large ⊢
        simp only [List.length_cons, List.length_nil] at large
        obtain ⟨fuel, rfl⟩ : ∃ more, fuel = more + 2 := ⟨fuel - 2, by omega⟩
        exact readNode_emptySequence true indentless
      · intro fuel token rest notEntry large
        rw [Content.tokens] at large ⊢
        obtain ⟨fuel, rfl⟩ : ∃ more, fuel = more + 2 := ⟨fuel - 2, by omega⟩
        exact readNode_emptySequence true true
    | cons item items =>
      constructor
      · intro fuel indentless rest large
        simp only [tokens_sequence, List.length_cons, List.length_append, List.length_nil] at large
        obtain ⟨fuel, rfl⟩ : ∃ more, fuel = more + 1 := ⟨fuel - 1, by omega⟩
        have read : readBlockItems fuel
            ⟨itemTokens (item :: items) ++ .blockEnd :: rest, [], handles⟩ = _ :=
          readBlockItems_eq ih (by omega)
        rw [tokens_sequence, Content.node]
        simpa using readNode_blockSequence indentless read
      · intro fuel token rest notEntry large
        obtain ⟨fuel, rfl⟩ : ∃ more, fuel = more + 1 := ⟨fuel - 1, by omega⟩
        rw [tokens_bareSequence] at large ⊢
        have read : readPlainItems fuel
            ⟨itemTokens (item :: items) ++ token :: rest, [], handles⟩ = _ :=
          readPlainItems_eq ih notEntry (by omega)
        rw [itemTokens] at read ⊢
        rw [Content.node]
        exact readNode_plainItems read
  | @mapping entries _ ih =>
    cases entries with
    | nil =>
      constructor
      · intro fuel indentless rest large
        rw [Content.tokens] at large ⊢
        simp only [List.length_cons, List.length_nil] at large
        obtain ⟨fuel, rfl⟩ : ∃ more, fuel = more + 2 := ⟨fuel - 2, by omega⟩
        exact readNode_emptyMapping true indentless
      · intro fuel token rest notEntry large
        rw [Content.tokens] at large ⊢
        obtain ⟨fuel, rfl⟩ : ∃ more, fuel = more + 2 := ⟨fuel - 2, by omega⟩
        exact readNode_emptyMapping true true
    | cons entry entries =>
      have read (fuel : Nat) (bare indentless : Bool) (rest : List Token)
          (large : 4 * ((Content.mapping (entry :: entries)).tokens bare).length ≤ fuel) :
          readNode fuel true indentless
              ⟨(Content.mapping (entry :: entries)).tokens bare ++ rest, [], handles⟩ =
            ((Content.mapping (entry :: entries)).node, some ⟨rest, [], handles⟩) := by
        simp only [tokens_mapping, List.length_cons, List.length_append, List.length_nil] at large
        obtain ⟨fuel, rfl⟩ : ∃ more, fuel = more + 1 := ⟨fuel - 1, by omega⟩
        have read : readBlockEntries fuel
            ⟨entryTokens (entry :: entries) ++ .blockEnd :: rest, [], handles⟩ = _ :=
          readBlockEntries_eq ih (by omega)
        rw [tokens_mapping, Content.node]
        simpa using readNode_blockMapping indentless read
      constructor
      · intro fuel indentless rest large
        exact read fuel false indentless rest large
      · intro fuel token rest notEntry large
        exact read fuel true true (token :: rest) (Nat.le_of_add_right_le large)

/-- The document that a laid out mapping is. -/
theorem ofText_mapping {key : String} {value : Content} {rest : List (String × Content)}
    (sound : (Content.mapping ((key, value) :: rest)).Sound) :
    Document.ofText ((Content.mapping ((key, value) :: rest)).lines 0) =
      ⟨(Content.mapping ((key, value) :: rest)).node, .endOfText⟩ := by
  let tokens := (Content.mapping ((key, value) :: rest)).tokens false ++ [Token.streamEnd]
  have read : readNode (4 * tokens.length + 4) true false ⟨tokens, [], coreHandles⟩ =
      ((Content.mapping ((key, value) :: rest)).node, some ⟨[.streamEnd], [], coreHandles⟩) := by
    refine (parsesContent coreHandles sound).tokens _ false [.streamEnd] ?_
    simp only [tokens, List.length_append]
    omega
  have head : tokens = .blockMappingStart :: (entryTokens ((key, value) :: rest) ++
      [.blockEnd] ++ [.streamEnd]) := by
    simp only [tokens, tokens_mapping, List.cons_append]
  rw [Document.ofText, lex_mapping sound]
  change Document.ofTokens tokens = _
  rw [head] at read ⊢
  simp only [Document.ofTokens, isDirective, Bool.false_eq_true, reduceCtorEq, or_self, reduceIte,
    readRoot, read]
  rfl

end TrustedAppId.Markup
