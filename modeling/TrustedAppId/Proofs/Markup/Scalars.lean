import TrustedAppId.Proofs.Markup.DoubleQuotes
import TrustedAppId.Proofs.Markup.LiteralLines
import TrustedAppId.Proofs.Markup.Words
/-! Scalars as words, in every style. A scalar on a line of its own leads to the next line; behind a
key stands a colon. -/
namespace TrustedAppId.Markup

/-- The marks that no scalar without quotes begins with, whatever follows them. -/
def firstMarks : List Char :=
  [',', '[', ']', '\x7b', '\x7d', '#', '&', '*', '!', '|', '>', '\x27', '\x22', '%', '@', '\x60']

/-- A word that begins with `c` is a scalar without quotes. -/
structure PlainStart (c : Char) (rest : List Char) : Prop where
  starts : StartsWord c
  not_mark : c ∉ firstMarks
  not_ended : c ∈ ['?', ':', '-'] → endsWord rest.head? = false
  not_documentMark : isDocumentMark (c :: rest) = false

theorem isDocumentMark_append {cs tail : List Char} {mark : Char} (line : beginsWithLine cs = false)
    (behind : tail.head? = some mark) (notDash : mark ≠ '-') (notDot : mark ≠ '.') :
    isDocumentMark (cs ++ tail) = false := by
  obtain ⟨tail, rfl⟩ : ∃ rest, tail = mark :: rest := by
    cases tail with
    | nil => contradiction
    | cons c rest => exact ⟨rest, by rw [Option.some.inj behind]⟩
  rw [← Bool.not_eq_true]
  intro found
  rcases cs with _ | ⟨a, _ | ⟨b, _ | ⟨c, rest⟩⟩⟩ <;>
    simp only [isDocumentMark, List.cons_append, List.nil_append, beginsWithLine] at found line <;>
    split at found <;> simp_all

theorem PlainStart.of_plainAllowed {c mark : Char} {rest tail : List Char}
    (h : plainAllowed (c :: rest) = true) (behind : tail.head? = some mark)
    (notDash : mark ≠ '-') (notDot : mark ≠ '.') : PlainStart c (rest ++ tail) := by
  have printable := (PlainRest.of_plainAllowed h).printable c List.mem_cons_self
  have noBreak := (PlainRest.of_plainAllowed h).not_break c List.mem_cons_self
  simp only [plainAllowed, hasOuterBlank, beginsWithMark, Bool.and_eq_true, Bool.not_eq_true',
    Bool.or_eq_false_iff] at h
  obtain ⟨⟨⟨⟨-, blank, -⟩, ⟨flow, mark'⟩, last⟩, line⟩, -⟩ := h
  have notMark : c ∉ firstMarks := by
    simp only [isFlowMark, Bool.or_eq_false_iff, decide_eq_false_iff_not, List.contains_eq_mem,
      List.mem_cons, not_or] at flow mark'
    simp only [firstMarks, List.mem_cons, not_or]
    simp [flow, mark']
  refine ⟨⟨?_, noBreak, ?_, ?_⟩, notMark, ?_, isDocumentMark_append line behind notDash notDot⟩
  · rw [← Bool.not_eq_true]
    intro spacing
    obtain rfl := eq_space_of_isSpacing printable spacing
    contradiction
  · rintro rfl
    exact notMark (by decide)
  · rintro rfl
    contradiction
  · intro mem
    rw [List.contains_eq_mem, decide_eq_true mem, Bool.true_and] at last
    cases rest with
    | nil => contradiction
    | cons d rest => exact last

theorem styleOf_cases (cs : List Char) :
    (styleOf cs = .literal ∧ '\n' ∈ cs ∧ literalAllowed cs = true) ∨
    (styleOf cs = .plain ∧ meansText cs = true ∧ plainAllowed cs = true) ∨
    (styleOf cs = .singleQuoted ∧ '\n' ∉ cs ∧ singleAllowed cs = true) ∨
    styleOf cs = .doubleQuoted := by
  unfold styleOf
  split
  · next feed =>
    split
    · next allowed => exact .inl ⟨rfl, by simpa using feed, allowed⟩
    · exact .inr (.inr (.inr rfl))
  · next feed =>
    split
    · next allowed => exact .inr (.inl ⟨rfl, Bool.and_eq_true_iff.mp allowed⟩)
    · split
      · next allowed => exact .inr (.inr (.inl ⟨rfl, by simpa using feed, allowed⟩))
      · exact .inr (.inr (.inr rfl))

theorem text_of_meansText {cs : List Char} (means : meansText cs = true) : cs ≠ [] := by
  rintro rfl
  contradiction

theorem spell_ne_nil (indent : Nat) (cs : List Char) : spell indent cs ≠ [] := by
  rcases styleOf_cases cs with ⟨style, -⟩ | ⟨style, means, -⟩ | ⟨style, -⟩ | style
  · simp [spell, style]
  · simpa only [spell, style] using text_of_meansText means
  · simp [spell, style]
  · simp [spell, style]

namespace Lexer

theorem readWord_plain {lx : Lexer} {c : Char} {rest : List Char} (flow : lx.inFlow = false)
    (start : PlainStart c rest) : lx.readWord c rest = lx.readPlain := by
  obtain ⟨⟨notSpacing, noBreak, -, -⟩, notMark, notEnded, notDocument⟩ := start
  have ends (mark : Char) (mem : mark ∈ ['?', ':', '-']) :
      ¬ (c = mark ∧ endsWord rest.head? = true) := by
    rintro ⟨rfl, ended⟩
    exact Bool.false_ne_true ((notEnded mem).symm.trans ended)
  have begins : beginsPlain false c rest.head? = true := by
    by_cases mem : c ∈ ['?', ':', '-']
    · have ended := notEnded mem
      have second : rest.head?.any isSpacing = false := by
        cases head : rest.head? with
        | none => rfl
        | some d =>
          rw [head, endsWord, Bool.or_eq_false_iff] at ended
          exact ended.1
      simp only [List.mem_cons, List.not_mem_nil, or_false] at mem
      rcases mem with rfl | rfl | rfl <;> simp [beginsPlain, ended, second]
    · simp only [firstMarks, List.mem_cons, List.not_mem_nil, or_false, not_or] at notMark mem
      simp [beginsPlain, isIndicator, isFlowMark, endsWord, notMark, mem, notSpacing, noBreak]
  simp only [firstMarks, List.mem_cons, not_or] at notMark
  simp [readWord, flow, notMark, notDocument, begins, ends]

variable {cs next tail : List Char} {p : Position} {indents : List Nat} {allowed : Bool}
  {tokens : List Token} {d i : Nat}

/-- The least indentation of the lines of a scalar without quotes. -/
def plainIndent (indents : List Nat) : Nat :=
  match indents.head? with
  | some column => column + 1
  | none => 0

theorem readPlain_idle {text : List Char} {found : PlainText}
    (read : plainText false (plainIndent indents) text p .none [] = some found) :
    (idle text p indents allowed tokens).readPlain =
      some ((idle found.after.rest found.after.position indents found.brokeLine
        (.scalar .plain found.text :: tokens)).withKey
          (keyHere p indents allowed tokens.length)) := by
  unfold readPlain
  rw [saveKey_idle]
  cases indents <;>
    simp only [plainIndent, List.head?_nil, List.head?_cons] at read <;>
    simp only [Option.bind_eq_bind, Option.bind_some, withKey, idle, inFlow, List.isEmpty_nil,
      Bool.not_true, List.head?_nil, List.head?_cons, read] <;>
    rfl

theorem readQuoted_idle {quote : Char} {inner text : List Char} {after : Cursor} (single : Bool)
    (read : (if single then singleQuoted inner (p.next quote) .none []
      else doubleQuoted none inner (p.next quote) .none []) = some (text, after)) :
    (idle (quote :: inner) p indents allowed tokens).readQuoted single =
      some ((idle after.rest after.position indents false
        (.scalar (if single then .singleQuoted else .doubleQuoted) text :: tokens)).withKey
          (keyHere p indents allowed tokens.length)) := by
  unfold readQuoted
  rw [saveKey_idle]
  cases single <;>
    simp only [Bool.false_eq_true, reduceIte] at read <;>
    simp only [Option.bind_eq_bind, Option.bind_some, withKey, idle, Cursor.next,
      Bool.false_eq_true, reduceIte, read] <;>
    rfl

/-- The word ahead is a scalar, and `after` is the lexer behind it. -/
def ReadsWord (text : List Char) (p : Position) (indents : List Nat) (allowed : Bool)
    (tokens : List Token) (after : Lexer) : Prop :=
  ∃ c rest, text = c :: rest ∧ StartsWord c ∧
    (idle text p indents allowed tokens).readWord c rest = some after

theorem ReadsWord.leadsTo {text : List Char} {after lx : Lexer}
    (h : ReadsWord text p indents allowed tokens after)
    (column : ∀ indent, indents.head? = some indent → indent ≤ p.column)
    (lapsed : after.lapseKeys = some lx) (shorter : lx.cursor.rest.length < text.length) :
    (idle text p indents allowed tokens).LeadsTo lx := by
  obtain ⟨c, rest, rfl, starts, read⟩ := h
  exact leadsTo_word starts column read lapsed (Nat.le_of_lt_succ shorter)

theorem readsWord_plain (plain : plainAllowed cs = true) (text : cs ≠ [])
    {mark : Char} (behind : tail.head? = some mark) (notDash : mark ≠ '-') (notDot : mark ≠ '.')
    (column : plainIndent indents ≤ p.column + 1) {found : PlainText}
    (read : plainText false (plainIndent indents) tail (p.through cs) .none cs.reverse =
      some found) :
    ReadsWord (cs ++ tail) p indents allowed tokens
      ((idle found.after.rest found.after.position indents found.brokeLine
        (.scalar .plain found.text :: tokens)).withKey
          (keyHere p indents allowed tokens.length)) := by
  cases cs with
  | nil => contradiction
  | cons c rest =>
    have start := PlainStart.of_plainAllowed plain behind notDash notDot
    refine ⟨c, rest ++ tail, rfl, start.starts, ?_⟩
    rw [readWord_plain rfl start]
    apply readPlain_idle
    rw [plainText_append (PlainRest.of_plainAllowed plain)
      (rfl : Gap.none.isBreaks = false) column nofun]
    simpa [Gap.fill] using read

theorem plainIndent_cons (i : Nat) (indents : List Nat) : plainIndent (i :: indents) = i + 1 := rfl

/-- A scalar without quotes that ends its line. -/
theorem leadsTo_plain (plain : plainAllowed cs = true) (text : cs ≠ []) (right : i < p.column)
    (ahead : LineAhead d next) (less : d ≤ i) :
    (idle (cs ++ '\n' :: (spaces d ++ next)) p (i :: indents) allowed tokens).LeadsTo
      (idle next (p.through (cs ++ '\n' :: spaces d)) (i :: indents) true
        (.scalar .plain cs :: tokens)) := by
  have read : plainText false (i + 1) ('\n' :: spaces d ++ next) (p.through cs) .none cs.reverse =
      some ⟨cs.reverse.reverse, ⟨next, (p.through cs).through ('\n' :: spaces d)⟩, true⟩ :=
    plainText_nextLine ahead (Nat.lt_succ_of_le less)
  rw [← Position.through_append, List.reverse_reverse, List.cons_append] at read
  have word : ReadsWord (cs ++ '\n' :: (spaces d ++ next)) p (i :: indents) allowed tokens _ :=
    readsWord_plain plain text rfl (by decide) (by decide)
      (by rw [plainIndent_cons]; omega) read
  refine word.leadsTo (head_le (Nat.le_of_lt right) _) (lapseKeys_idle (lapse_none
    (mayLapse_keyHere right _ _ _ (Nat.le_refl _)) ?_)) ?_
  · rw [Position.through_append]
    exact Nat.lt_of_le_of_lt (Position.line_le_through p cs) (Position.line_lt_through rfl _)
  · simp only [List.length_append, List.length_cons, idle]
    omega

theorem singleAllowed_of_style (style : styleOf cs = .singleQuoted) :
    '\n' ∉ cs ∧ singleAllowed cs = true := by
  rcases styleOf_cases cs with ⟨other, -⟩ | ⟨other, -⟩ | ⟨-, found⟩ | other
  · simp only [style, reduceCtorEq] at other
  · simp only [style, reduceCtorEq] at other
  · exact found
  · simp only [style, reduceCtorEq] at other

/-- A quoted scalar; the quote behind it is not doubled. -/
theorem readsWord_quoted (quoted : styleOf cs = .singleQuoted ∨ styleOf cs = .doubleQuoted)
    (margin : cs.any isBreak = true → 0 < i) (next : tail.head? ≠ some '\x27') :
    ReadsWord (spell i cs ++ tail) p indents allowed tokens
      ((idle tail (p.through (spell i cs)) indents false
        (.scalar (styleOf cs) cs :: tokens)).withKey
          (keyHere p indents allowed tokens.length)) := by
  have column (quote : Char) : 0 < (p.next quote).column := Nat.succ_pos _
  rcases quoted with style | style
  · obtain ⟨oneLine, fits⟩ := singleAllowed_of_style style
    have spelt : spell i cs ++ tail = '\x27' :: (singleBody i false cs ++ '\x27' :: tail) := by
      simp [spell, style]
    have behind : (p.next '\x27').through (singleBody i false cs ++ ['\x27']) =
        p.through (spell i cs) := by
      simp only [spell, style, List.cons_append, Position.through_cons (rfl : isBreak '\x27' = false)]
    have read := singleQuoted_of_singleAllowed fits oneLine margin (column '\x27') next
    have word (lx : Lexer) (rest : List Char) : lx.readWord '\x27' rest = lx.readQuoted true := by
      simp [readWord, isDocumentMark]
    refine ⟨'\x27', _, spelt, ⟨by decide, by decide, by decide, by decide⟩, ?_⟩
    rw [behind] at read
    rw [spelt, word, readQuoted_idle true read, style]
    rfl
  · have spelt : spell i cs ++ tail = '\x22' :: (cs.flatMap doubleChar ++ '\x22' :: tail) := by
      simp [spell, style]
    have behind : (p.next '\x22').through (cs.flatMap doubleChar ++ ['\x22']) =
        p.through (spell i cs) := by
      simp only [spell, style, List.cons_append, Position.through_cons (rfl : isBreak '\x22' = false)]
    have read : doubleQuoted none (cs.flatMap doubleChar ++ '\x22' :: tail) (p.next '\x22') .none [] =
        some (readSoFar .none [] ++ cs,
          ⟨tail, (p.next '\x22').through (cs.flatMap doubleChar ++ ['\x22'])⟩) :=
      doubleQuoted_body rfl (column '\x22')
    have word (lx : Lexer) (rest : List Char) : lx.readWord '\x22' rest = lx.readQuoted false := by
      simp [readWord, isDocumentMark]
    refine ⟨'\x22', _, spelt, ⟨by decide, by decide, by decide, by decide⟩, ?_⟩
    rw [behind, readSoFar_none, List.reverse_nil, List.nil_append] at read
    rw [spelt, word, readQuoted_idle false read, style]
    rfl

/-- A quoted scalar that ends its line. -/
theorem leadsTo_quoted (quoted : styleOf cs = .singleQuoted ∨ styleOf cs = .doubleQuoted)
    (right : i < p.column) (ahead : LineAhead d next) :
    (idle (spell (i + 2) cs ++ '\n' :: (spaces d ++ next)) p (i :: indents) allowed tokens).LeadsTo
      (idle next (p.through (spell (i + 2) cs ++ '\n' :: spaces d)) (i :: indents) true
        (.scalar (styleOf cs) cs :: tokens)) := by
  obtain ⟨key, lapsed, may⟩ := lapse_mayLapse (mayLapse_keyHere right indents allowed tokens.length
    (Position.line_le_through p (spell (i + 2) cs)))
  have word : ReadsWord (spell (i + 2) cs ++ '\n' :: (spaces d ++ next)) p (i :: indents) allowed
    tokens _ := readsWord_quoted quoted (fun _ => Nat.succ_pos _) (by simp)
  rw [Position.through_append]
  refine (word.leadsTo (head_le (Nat.le_of_lt right) _) (lapseKeys_idle lapsed) ?_).trans
    (leadsTo_nextLine ahead may)
  have := List.length_pos_iff.mpr (spell_ne_nil (i + 2) cs)
  simp only [List.length_append, List.length_cons, idle, withKey]
  omega

/-- A scalar in a literal block, which ends its line itself. -/
theorem leadsTo_literal (feed : '\n' ∈ cs) (fits : literalAllowed cs = true) (right : i < p.column)
    (ahead : LineAhead d next) (less : d ≤ i) (style : styleOf cs = .literal) :
    (idle (spellLine (i + 2) cs ++ (spaces d ++ next)) p (i :: indents) allowed tokens).LeadsTo
      (idle next (p.through (spellLine (i + 2) cs ++ spaces d)) (i :: indents) true
        (.scalar (styleOf cs) cs :: tokens)) := by
  have spelt : spellLine (i + 2) cs = '|' :: (literalHints cs ++ '\n' ::
      (literalBody (i + 2) true cs ++ literalEnd cs)) := by
    simp [spellLine, spell, lineEnd, style, literalEnd]
  have read := blockText_literal fits (List.ne_nil_of_mem feed) ahead less (p.next '|')
  have behind : (p.next '|').through (literalHints cs ++ '\n' ::
      (literalBody (i + 2) true cs ++ literalEnd cs ++ spaces d)) =
        p.through (spellLine (i + 2) cs ++ spaces d) := by
    rw [spelt, List.cons_append, Position.through_cons (by decide)]
    simp
  rw [behind] at read
  have word : ReadsWord (spellLine (i + 2) cs ++ (spaces d ++ next)) p (i :: indents) allowed tokens
      (idle next (p.through (spellLine (i + 2) cs ++ spaces d)) (i :: indents) true
        (.scalar (styleOf cs) cs :: tokens)) := by
    have begins : spellLine (i + 2) cs ++ (spaces d ++ next) = '|' :: (literalHints cs ++ '\n' ::
        (literalBody (i + 2) true cs ++ (literalEnd cs ++ (spaces d ++ next)))) := by
      simp [spelt]
    refine ⟨'|', _, begins, ⟨by decide, by decide, by decide, by decide⟩, ?_⟩
    have block (lx : Lexer) (rest : List Char) (flow : lx.inFlow = false) :
        lx.readWord '|' rest = lx.readBlockText true := by
      simp [readWord, isDocumentMark, flow]
    rw [begins, block _ _ rfl, readBlockText, style]
    simp only [dropKey, idle, List.head?_cons, Option.bind_eq_bind, Option.bind_some, Cursor.next,
      read]
    rfl
  refine word.leadsTo (head_le (Nat.le_of_lt right) _) rfl ?_
  have : 0 < (spellLine (i + 2) cs).length := by rw [spelt]; exact Nat.succ_pos _
  simp only [List.length_append, idle]
  omega

/-- A scalar of any style, to the right of the block that it belongs to. -/
theorem leadsTo_scalar (right : i < p.column) (ahead : LineAhead d next) (less : d ≤ i) :
    (idle (spellLine (i + 2) cs ++ (spaces d ++ next)) p (i :: indents) allowed tokens).LeadsTo
      (idle next (p.through (spellLine (i + 2) cs ++ spaces d)) (i :: indents) true
        (.scalar (styleOf cs) cs :: tokens)) := by
  rcases styleOf_cases cs with ⟨style, feed, fits⟩ | ⟨style, means, plain⟩ | ⟨style, -⟩ | style
  · exact leadsTo_literal feed fits right ahead less style
  · have text := text_of_meansText means
    have spelt : spellLine (i + 2) cs = cs ++ ['\n'] := by simp [spellLine, spell, lineEnd, style]
    rw [spelt, style, List.append_assoc, List.append_assoc]
    exact leadsTo_plain plain text right ahead less
  · have spelt : spellLine (i + 2) cs = spell (i + 2) cs ++ ['\n'] := by
      simp [spellLine, lineEnd, style]
    rw [spelt, List.append_assoc, List.append_assoc]
    exact leadsTo_quoted (.inl style) right ahead
  · have spelt : spellLine (i + 2) cs = spell (i + 2) cs ++ ['\n'] := by
      simp [spellLine, lineEnd, style]
    rw [spelt, List.append_assoc, List.append_assoc]
    exact leadsTo_quoted (.inr style) right ahead

end Lexer

end TrustedAppId.Markup
