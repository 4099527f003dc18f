import TrustedAppId.Proofs.Markup.Keys
/-! The tokens of laid out content. The lexer is taken from the beginning of a node to the line behind
it. The nodes of one block begin in its column, and the line behind it to the left of that. -/
namespace TrustedAppId.Markup

mutual

/-- The tokens of content. A `bare` sequence stands in the column of its key and opens no block. -/
def Content.tokens (bare : Bool) : Content → List Token
  | .word text => [.scalar .plain text.toList]
  | .text text => [.scalar (styleOf text.toList) text.toList]
  | .sequence [] => [.flowSequenceStart, .flowSequenceEnd]
  | .sequence (item :: rest) =>
    if bare then itemTokens (item :: rest)
    else .blockSequenceStart :: itemTokens (item :: rest) ++ [.blockEnd]
  | .mapping [] => [.flowMappingStart, .flowMappingEnd]
  | .mapping (entry :: rest) => .blockMappingStart :: entryTokens (entry :: rest) ++ [.blockEnd]

def itemTokens : List Content → List Token
  | [] => []
  | item :: rest => .blockEntry :: item.tokens false ++ itemTokens rest

def entryTokens : List (String × Content) → List Token
  | [] => []
  | (key, value) :: rest =>
    .key :: .scalar (styleOf key.toList) key.toList :: .value :: value.tokens (isSimpleKey key) ++
      entryTokens rest

end

/-- Every word reads as a scalar without quotes. -/
inductive Content.Sound : Content → Prop
  | word {text : String} : plainAllowed text.toList = true → text.toList ≠ [] → Sound (.word text)
  | text (text : String) : Sound (.text text)
  | sequence {items : List Content} : (∀ item ∈ items, Sound item) → Sound (.sequence items)
  | mapping {entries : List (String × Content)} : (∀ entry ∈ entries, Sound entry.2) →
      Sound (.mapping entries)

/-! Lines end where they should. -/

variable {cs next : List Char} {p : Position} {d i : Nat}

theorem column_through_concat {c : Char} (breaks : isBreak c = true) (p : Position) (cs : List Char) :
    (p.through (cs ++ [c])).column = 0 := by
  rw [Position.through_append, Position.through_cons_of_isBreak breaks]
  rfl

theorem column_through_literalBody (breaks : cs.getLast?.any isBreak = true) (indent : Nat)
    (broken : Bool) (p : Position) : (p.through (literalBody indent broken cs)).column = 0 := by
  induction cs generalizing broken p with
  | nil => contradiction
  | cons c rest ih =>
    cases rest with
    | nil =>
      have breaks : isBreak c = true := breaks
      rw [literalBody_cons_of_isBreak breaks]
      exact column_through_concat breaks p []
    | cons d rest =>
      have breaks' : ((d :: rest).getLast?).any isBreak = true := breaks
      cases here : isBreak c with
      | true =>
        rw [literalBody_cons_of_isBreak here]
        exact ih breaks' true (p.through [c])
      | false =>
        rw [literalBody_cons here, Position.through_append, Position.through_cons here]
        exact ih breaks' false _

theorem column_through_spellLine (indent : Nat) (cs : List Char) (p : Position) :
    (p.through (spellLine indent cs)).column = 0 := by
  unfold spellLine lineEnd
  split
  · next ends =>
    obtain ⟨style, breaks⟩ := ends
    rw [List.append_nil]
    simp only [spell, style]
    rw [show '|' :: literalHints cs ++ '\n' :: literalBody indent true cs =
      ('|' :: literalHints cs ++ ['\n']) ++ literalBody indent true cs by simp,
      Position.through_append]
    exact column_through_literalBody breaks indent true _
  · exact column_through_concat (by decide) p _

namespace Lexer

variable {indents outer : List Nat} {tokens found : List Token}

/-- Leads to the next line, at whatever place of the text that begins. -/
def LeadsToLine (lx : Lexer) (d : Nat) (next : List Char) (indents : List Nat)
    (tokens : List Token) : Prop :=
  ∃ p : Position, p.column = d ∧ lx.LeadsTo (idle next p indents true tokens)

theorem LeadsTo.toLine {lx lx' : Lexer} (first : lx.LeadsTo lx')
    (second : lx'.LeadsToLine d next indents tokens) : lx.LeadsToLine d next indents tokens := by
  obtain ⟨p, column, led⟩ := second
  exact ⟨p, column, first.trans led⟩

theorem LeadsToLine.trans {lx : Lexer} {d' : Nat} {next' : List Char} {indents' : List Nat}
    {tokens' : List Token} (first : lx.LeadsToLine d next indents tokens)
    (second : ∀ p : Position, p.column = d →
      (idle next p indents true tokens).LeadsToLine d' next' indents' tokens') :
    lx.LeadsToLine d' next' indents' tokens' := by
  obtain ⟨p, column, led⟩ := first
  exact led.toLine (second p column)

/-- Closes the block that has ended. -/
theorem LeadsToLine.close {lx : Lexer} (h : lx.LeadsToLine d next (i :: indents) tokens)
    (ahead : LineAhead d next) (less : d < i) :
    lx.LeadsToLine d next indents (.blockEnd :: tokens) := by
  obtain ⟨p, column, led⟩ := h
  exact ⟨p, column, led.trans (leadsTo_close ahead (column ▸ less))⟩

theorem scalar_toLine (right : i < p.column) (ahead : LineAhead d next) (less : d ≤ i)
    (allowed : Bool) :
    (idle (spellLine (i + 2) cs ++ (spaces d ++ next)) p (i :: indents) allowed tokens).LeadsToLine
      d next (i :: indents) (.scalar (styleOf cs) cs :: tokens) := by
  refine ⟨_, ?_, leadsTo_scalar right ahead less⟩
  rw [Position.through_append, column_through_spaces, column_through_spellLine, Nat.zero_add]

theorem word_toLine (plain : plainAllowed cs = true) (text : cs ≠ []) (right : i < p.column)
    (ahead : LineAhead d next) (less : d ≤ i) (allowed : Bool) :
    (idle (cs ++ '\n' :: (spaces d ++ next)) p (i :: indents) allowed tokens).LeadsToLine
      d next (i :: indents) (.scalar .plain cs :: tokens) := by
  refine ⟨_, ?_, leadsTo_plain plain text right ahead less⟩
  rw [Position.through_append, Position.through_cons_of_isBreak (by decide), column_through_spaces]
  exact Nat.zero_add d

theorem emptyFlow_toLine {first last : Char} {start stop : Token} (starts : StartsWord first)
    (starts' : StartsWord last) (opens : ∀ lx rest, readWord lx first rest = lx.openFlow start)
    (closes : ∀ lx rest, readWord lx last rest = lx.closeFlow stop) (right : i < p.column)
    (ahead : LineAhead d next) (allowed : Bool) :
    (idle (first :: last :: '\n' :: (spaces d ++ next)) p (i :: indents) allowed
      tokens).LeadsToLine d next (i :: indents) (stop :: start :: tokens) := by
  refine ⟨_, ?_, leadsTo_emptyFlow starts starts' opens closes right ahead allowed⟩
  rw [Position.through_cons starts.not_break, Position.through_cons starts'.not_break,
    Position.through_cons_of_isBreak (by decide), column_through_spaces]
  exact Nat.zero_add d

theorem emptySequence_toLine (right : i < p.column) (ahead : LineAhead d next) (allowed : Bool) :
    (idle ('[' :: ']' :: '\n' :: (spaces d ++ next)) p (i :: indents) allowed tokens).LeadsToLine
      d next (i :: indents) (.flowSequenceEnd :: .flowSequenceStart :: tokens) := by
  have opens (lx : Lexer) (rest : List Char) :
      lx.readWord '[' rest = lx.openFlow .flowSequenceStart := by
    simp [readWord, isDocumentMark]
  have closes (lx : Lexer) (rest : List Char) :
      lx.readWord ']' rest = lx.closeFlow .flowSequenceEnd := by
    simp [readWord, isDocumentMark]
  exact emptyFlow_toLine (startsWord_mark (by simp)) (startsWord_mark (by simp)) opens closes right
    ahead allowed

theorem emptyMapping_toLine (right : i < p.column) (ahead : LineAhead d next) (allowed : Bool) :
    (idle ('\x7b' :: '\x7d' :: '\n' :: (spaces d ++ next)) p (i :: indents) allowed
      tokens).LeadsToLine d next (i :: indents) (.flowMappingEnd :: .flowMappingStart :: tokens) := by
  have opens (lx : Lexer) (rest : List Char) :
      lx.readWord '\x7b' rest = lx.openFlow .flowMappingStart := by
    simp [readWord, isDocumentMark]
  have closes (lx : Lexer) (rest : List Char) :
      lx.readWord '\x7d' rest = lx.closeFlow .flowMappingEnd := by
    simp [readWord, isDocumentMark]
  exact emptyFlow_toLine (startsWord_mark (by simp)) (startsWord_mark (by simp)) opens closes right
    ahead allowed

/-- The place behind a mark and the space that follows it. -/
theorem column_behindMark (p : Position) (mark : Char) :
    ((p.next mark).next ' ').column = p.column + 2 := rfl

/-- The lexer reads content to the line behind it, from the content's own column as well as from
behind the colon of a key in column `i`. -/
structure ReadsContent (content : Content) : Prop where
  lines : ∀ {p : Position} {i d : Nat} {next : List Char} (indents : List Nat) (tokens : List Token),
    p.column = i + 2 → LineAhead d next → d ≤ i →
      (idle (content.lines (i + 2) ++ (spaces d ++ next)) p (i :: indents) true tokens).LeadsToLine
        d next (i :: indents) ((content.tokens false).reverse ++ tokens)
  behindKey : ∀ {p : Position} {i d : Nat} {next : List Char} (indents : List Nat)
    (tokens : List Token), i < p.column → LineAhead d next → d ≤ i →
      (idle (content.behindKey i ++ (spaces d ++ next)) p (i :: indents) false tokens).LeadsToLine
        d next (i :: indents) ((content.tokens true).reverse ++ tokens)

variable {k : Nat}

theorem items_toLine {item : Content} {rest : List Content} (first : ReadsContent item)
    (others : ∀ other ∈ rest, ReadsContent other) (column : p.column = k)
    (opens : Opens k .blockSequenceStart outer tokens indents found)
    (ahead : LineAhead d next) (less : d ≤ k) :
    (idle ('-' :: ' ' :: (item.lines (k + 2) ++ (moreItems k rest ++ (spaces d ++ next)))) p indents
      true tokens).LeadsToLine
      d next (k :: outer) ((itemTokens (item :: rest)).reverse ++ found) := by
  induction rest generalizing item p indents tokens found with
  | nil =>
    subst column
    refine (leadsTo_blockEntry opens).toLine ?_
    rw [moreItems, List.nil_append]
    simpa [itemTokens] using
      first.lines outer (.blockEntry :: found) (column_behindMark p '-') ahead less
  | cons other rest ih =>
    have more : moreItems k (other :: rest) ++ (spaces d ++ next) = spaces k ++
        ('-' :: ' ' :: (other.lines (k + 2) ++ (moreItems k rest ++ (spaces d ++ next)))) := by
      simp [moreItems]
    have tokensMore : (itemTokens (item :: other :: rest)).reverse ++ found =
        (itemTokens (other :: rest)).reverse ++
          ((item.tokens false).reverse ++ .blockEntry :: found) := by
      simp [itemTokens]
    have start : StartsWord '-' := startsWord_mark (by simp)
    have column' : ((p.next '-').next ' ').column = k + 2 := column ▸ column_behindMark p '-'
    rw [more, tokensMore]
    subst column
    apply (leadsTo_blockEntry opens).toLine
    refine (first.lines outer (.blockEntry :: found) column' (.word start) (Nat.le_refl _)).trans ?_
    intro q behind
    obtain ⟨second, others⟩ := List.forall_mem_cons.mp others
    exact ih second others behind .old

/-- The text of an entry from its key on. -/
def entryLines (k : Nat) (key : String) (value : Content) : List Char :=
  if isSimpleKey key then spell 0 key.toList ++ ':' :: value.behindKey k
  else '?' :: ' ' :: spellLine (k + 2) key.toList ++ spaces k ++ ':' :: ' ' :: value.lines (k + 2)

theorem lines_mapping (k : Nat) (key : String) (value : Content) (rest : List (String × Content)) :
    (Content.mapping ((key, value) :: rest)).lines k =
      entryLines k key value ++ moreEntries k rest := by
  rw [Content.lines]
  rfl

theorem moreEntries_cons (k : Nat) (key : String) (value : Content)
    (rest : List (String × Content)) :
    moreEntries k ((key, value) :: rest) =
      spaces k ++ entryLines k key value ++ moreEntries k rest := by
  rw [moreEntries]
  rfl

theorem endsWord_behindKey (k : Nat) (value : Content) (tail : List Char) :
    endsWord (value.behindKey k ++ tail).head? = true := by
  cases value with
  | word | text => rw [Content.behindKey]; rfl
  | sequence items => cases items <;> rw [Content.behindKey] <;> rfl
  | mapping entries => cases entries <;> rw [Content.behindKey] <;> rfl

theorem not_break_of_isSimpleKey {key : String} (simple : isSimpleKey key = true) :
    key.toList.any isBreak = false := by
  rw [isSimpleKey, Bool.and_eq_true, Bool.not_eq_true'] at simple
  exact simple.1

theorem lineAhead_entry (d k : Nat) (key : String) (value : Content) (tail : List Char) :
    LineAhead d (entryLines k key value ++ tail) := by
  unfold entryLines
  split
  · next simple =>
    obtain ⟨c, rest, same, starts, -⟩ := @readsWord_key _ _ .start [] []
      (not_break_of_isSimpleKey simple) (Nat.zero_le _) (endsWord_behindKey k value tail)
    rw [List.append_assoc, List.cons_append, same]
    exact .word starts
  · exact .word (startsWord_mark (by simp))

theorem entry_toLine {key : String} {value : Content} (reads : ReadsContent value)
    (column : p.column = k) (opens : Opens k .blockMappingStart outer tokens indents found)
    (ahead : LineAhead d next) (less : d ≤ k) :
    (idle (entryLines k key value ++ (spaces d ++ next)) p indents true tokens).LeadsToLine
      d next (k :: outer) ((entryTokens [(key, value)]).reverse ++ found) := by
  have entry : (entryTokens [(key, value)]).reverse ++ found =
      (value.tokens (isSimpleKey key)).reverse ++
        (.value :: .scalar (styleOf key.toList) key.toList :: .key :: found) := by
    simp [entryTokens]
  rw [entry]
  subst column
  unfold entryLines
  split
  · next simple =>
    have right : p.column < (p.through (spell 0 key.toList ++ [':'])).column := by
      rw [Position.through_append, Position.through_cons (by decide)]
      have := Position.column_through (spell_of_not_break (not_break_of_isSimpleKey simple) 0).1 p
      simp only [Position.through_nil, Position.next]
      omega
    have led := leadsTo_key simple (endsWord_behindKey p.column value (spaces d ++ next)) opens
    rw [List.append_assoc, List.cons_append, simple]
    exact led.toLine (reads.behindKey outer _ right ahead less)
  · next long =>
    have start : StartsWord ':' := startsWord_mark (by simp)
    have right : p.column < ((p.next '?').next ' ').column := by
      rw [column_behindMark]
      omega
    rw [Bool.not_eq_true] at long
    rw [long]
    simp only [List.append_assoc, List.cons_append]
    apply (leadsTo_explicitKey opens).toLine
    apply (scalar_toLine right (.word start) (Nat.le_refl _) true).trans
    intro q column
    rw [← column] at less ⊢
    exact leadsTo_explicitValue.toLine (reads.lines outer _ (column_behindMark q ':') ahead less)

theorem entries_toLine {key : String} {value : Content} {rest : List (String × Content)}
    (first : ReadsContent value) (others : ∀ entry ∈ rest, ReadsContent entry.2)
    (column : p.column = k) (opens : Opens k .blockMappingStart outer tokens indents found)
    (ahead : LineAhead d next) (less : d ≤ k) :
    (idle (entryLines k key value ++ (moreEntries k rest ++ (spaces d ++ next))) p indents true
      tokens).LeadsToLine
      d next (k :: outer) ((entryTokens ((key, value) :: rest)).reverse ++ found) := by
  induction rest generalizing key value p indents tokens found with
  | nil =>
    rw [moreEntries, List.nil_append]
    exact entry_toLine first column opens ahead less
  | cons entry rest ih =>
    obtain ⟨key', value'⟩ := entry
    have tokensMore : (entryTokens ((key, value) :: (key', value') :: rest)).reverse ++ found =
        (entryTokens ((key', value') :: rest)).reverse ++
          ((entryTokens [(key, value)]).reverse ++ found) := by
      simp [entryTokens]
    rw [moreEntries_cons, tokensMore]
    simp only [List.append_assoc]
    refine (entry_toLine first column opens (lineAhead_entry k k key' value' _)
      (Nat.le_refl k)).trans ?_
    intro q behind
    obtain ⟨second, others⟩ := List.forall_mem_cons.mp others
    exact ih second others behind .old

/-- The end of a line behind a colon. -/
theorem nextLine_toLine (ahead : LineAhead d next) (allowed : Bool) :
    (idle ('\n' :: (spaces d ++ next)) p indents allowed tokens).LeadsToLine d next indents
      tokens := by
  refine ⟨_, ?_, (leadsTo_nextLine ahead (mayLapse_none p) :
    ((idle _ p indents allowed tokens).withKey none).LeadsTo _)⟩
  rw [Position.through_cons_of_isBreak (by decide), column_through_spaces]
  exact Nat.zero_add d

theorem readsContent {content : Content} (sound : content.Sound) : ReadsContent content := by
  induction sound with
  | @word text plain notEmpty =>
    constructor
    · intro p i d next indents tokens column ahead less
      rw [Content.lines, List.append_assoc]
      exact word_toLine plain notEmpty (by omega) ahead less true
    · intro p i d next indents tokens right ahead less
      rw [Content.behindKey]
      simp only [List.cons_append, List.append_assoc]
      exact (leadsTo_blank false).toLine
        (word_toLine plain notEmpty (Nat.lt_succ_of_lt right) ahead less false)
  | text text =>
    constructor
    · intro p i d next indents tokens column ahead less
      rw [Content.lines]
      exact scalar_toLine (by omega) ahead less true
    · intro p i d next indents tokens right ahead less
      rw [Content.behindKey]
      exact (leadsTo_blank false).toLine
        (scalar_toLine (Nat.lt_succ_of_lt right) ahead less false)
  | @sequence items _ ih =>
    cases items with
    | nil =>
      constructor
      · intro p i d next indents tokens column ahead less
        rw [Content.lines]
        exact emptySequence_toLine (by omega) ahead true
      · intro p i d next indents tokens right ahead less
        rw [Content.behindKey]
        exact (leadsTo_blank false).toLine
          (emptySequence_toLine (Nat.lt_succ_of_lt right) ahead false)
    | cons item rest =>
      obtain ⟨first, others⟩ := List.forall_mem_cons.mp ih
      constructor
      · intro p i d next indents tokens column ahead less
        have led := items_toLine first others column
          (.new (decide_eq_true (by omega : i < i + 2)) : Opens _ _ (i :: indents) tokens _ _) ahead
          (by omega)
        rw [Content.lines]
        simpa [Content.tokens] using led.close ahead (by omega)
      · intro p i d next indents tokens right ahead less
        have start : StartsWord '-' := startsWord_mark (by simp)
        rw [Content.behindKey, Content.tokens, if_pos rfl]
        simp only [List.append_assoc, List.cons_append]
        apply (nextLine_toLine (.word start) false).trans
        intro q column
        exact items_toLine first others column .old ahead less
  | @mapping entries _ ih =>
    cases entries with
    | nil =>
      constructor
      · intro p i d next indents tokens column ahead less
        rw [Content.lines]
        exact emptyMapping_toLine (by omega) ahead true
      · intro p i d next indents tokens right ahead less
        rw [Content.behindKey]
        exact (leadsTo_blank false).toLine
          (emptyMapping_toLine (Nat.lt_succ_of_lt right) ahead false)
    | cons entry rest =>
      obtain ⟨key, value⟩ := entry
      obtain ⟨first, others⟩ := List.forall_mem_cons.mp ih
      have block {p : Position} {i d : Nat} {next : List Char} (indents : List Nat)
          (tokens : List Token) (column : p.column = i + 2) (ahead : LineAhead d next) (less : d ≤ i) :
          (idle (entryLines (i + 2) key value ++ (moreEntries (i + 2) rest ++ (spaces d ++ next))) p
            (i :: indents) true tokens).LeadsToLine d next (i :: indents)
              (.blockEnd :: ((entryTokens ((key, value) :: rest)).reverse ++
                .blockMappingStart :: tokens)) :=
        (entries_toLine first others column
          (.new (decide_eq_true (by omega : i < i + 2)) : Opens _ _ (i :: indents) _ _ _) ahead
          (by omega)).close ahead (by omega)
      constructor
      · intro p i d next indents tokens column ahead less
        have led := block indents tokens column ahead less
        rw [lines_mapping, List.append_assoc]
        simpa [Content.tokens] using led
      · intro p i d next indents tokens right ahead less
        rw [Content.behindKey, moreEntries_cons]
        simp only [List.append_assoc, List.cons_append]
        apply (nextLine_toLine (lineAhead_entry (i + 2) (i + 2) key value _) false).trans
        intro q column
        simpa [Content.tokens] using block indents tokens column ahead less

theorem run_ended (column : p.column = 0) : (idle [] p [0] true tokens).run =
    ⟨(.streamEnd :: .blockEnd :: tokens).reverse, true⟩ := by
  have step : (idle [] p [0] true tokens).step = some
      ((idle [] (p.nextLine 0) [] false (.streamEnd :: .blockEnd :: tokens)), true) := by
    have skipped : skipBlanks false true false [] p = (⟨[], p⟩, true) := rfl
    have prepared := @prepare_idle [] p [0] true tokens none none _ _ skipped rfl
    rw [step_eq]
    erw [prepared]
    simp [column, closeBlocks, withKey, idle, inFlow, readAhead, endStream, dropKey, lapseKeys,
      withCursor, lapse, withKeyAllowed, push]
  rw [Lexer.run, step]
  rfl

theorem run_mapping {key : String} {value : Content} {rest : List (String × Content)}
    (sound : (Content.mapping ((key, value) :: rest)).Sound) :
    (start ((Content.mapping ((key, value) :: rest)).lines 0)).run =
      ⟨(Content.mapping ((key, value) :: rest)).tokens false ++ [.streamEnd], true⟩ := by
  cases sound with
  | mapping sounds =>
    have reads : ∀ entry ∈ (key, value) :: rest, ReadsContent entry.2 := by
      intro entry mem
      exact readsContent (sounds entry mem)
    obtain ⟨first, others⟩ := List.forall_mem_cons.mp reads
    obtain ⟨q, column, led⟩ := entries_toLine (k := 0) (p := .start) first others rfl
      (.new rfl : Opens 0 .blockMappingStart [] [] [] _) .ended (Nat.le_refl 0)
    have run := led _ (run_ended column)
    rw [start_eq_idle, lines_mapping]
    simpa [Content.tokens] using run

end Lexer

end TrustedAppId.Markup
