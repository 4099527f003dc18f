import TrustedAppId.Markup.Lexer
import TrustedAppId.Proofs.Markup.Positions
/-! Steps of the lexer. One lexer leads to another if it finds the tokens of the whole text whenever
the other one does. Between two words outside of flow notation a lexer is idle: no key is pending,
blanks may still have to be skipped and blocks to be closed. -/
namespace TrustedAppId.Markup.Lexer

def LeadsTo (lx lx' : Lexer) : Prop :=
  ∀ tokens, lx'.run = ⟨tokens, true⟩ → lx.run = ⟨tokens, true⟩

theorem LeadsTo.refl (lx : Lexer) : lx.LeadsTo lx := by
  intro tokens run
  exact run

theorem LeadsTo.trans {a b c : Lexer} (first : a.LeadsTo b) (second : b.LeadsTo c) :
    a.LeadsTo c := by
  intro tokens run
  exact first tokens (second tokens run)

theorem LeadsTo.of_step {lx next : Lexer} (step : lx.step = some (next, false))
    (shorter : next.cursor.rest.length < lx.cursor.rest.length) : lx.LeadsTo next := by
  intro tokens run
  rw [Lexer.run, step]
  simp only [shorter, reduceIte, run]

/-- Lexers that take the same step lead to the one with less in front of it. -/
theorem LeadsTo.of_step_eq {lx lx' : Lexer} (same : lx.step = lx'.step)
    (shorter : lx'.cursor.rest.length ≤ lx.cursor.rest.length) : lx.LeadsTo lx' := by
  intro tokens run
  rw [Lexer.run] at run ⊢
  rw [same]
  split at run
  · exact absurd (congrArg Lexed.whole run) Bool.false_ne_true
  · exact run
  · next next _ =>
    split at run
    · next less =>
      rw [if_pos (Nat.lt_of_lt_of_le less shorter)]
      exact run
    · exact absurd (congrArg Lexed.whole run) Bool.false_ne_true

/-- The part of a step in front of the word. -/
def prepare (lx : Lexer) : Option Lexer := do
  let (cursor, keyAllowed) :=
    skipBlanks lx.inFlow lx.keyAllowed false lx.cursor.rest lx.cursor.position
  let lx ← { lx with cursor, keyAllowed }.lapseKeys
  pure (lx.closeBlocks (some lx.column))

def readAhead (lx : Lexer) : Option (Lexer × Bool) :=
  match lx.cursor.rest with
  | [] => do pure (← lx.endStream, true)
  | c :: rest => do
    let lx ← lx.readWord c rest
    pure (← lx.lapseKeys, false)

theorem step_eq (lx : Lexer) : lx.step = lx.prepare >>= readAhead := by
  simp only [step, prepare, bind_assoc, pure_bind]
  rfl

theorem LeadsTo.of_prepare_eq {lx lx' : Lexer} (same : lx.prepare = lx'.prepare)
    (shorter : lx'.cursor.rest.length ≤ lx.cursor.rest.length) : lx.LeadsTo lx' :=
  .of_step_eq (by rw [step_eq, step_eq, same]) shorter

/-- Between two words. -/
def idle (text : List Char) (p : Position) (indents : List Nat) (keyAllowed : Bool)
    (tokens : List Token) : Lexer where
  cursor := ⟨text, p⟩
  indents := indents
  innermost := none
  outer := []
  keyAllowed := keyAllowed
  tokens := tokens
  count := tokens.length

theorem start_eq_idle (text : List Char) : start text = idle text .start [] true [] := rfl

/-- Behind a word that may turn out to be a key. -/
def withKey (lx : Lexer) (key : Option PendingKey) : Lexer := { lx with innermost := key }

variable {text rest next : List Char} {p : Position} {indents : List Nat} {allowed : Bool}
  {tokens : List Token} {d : Nat} {c : Char}

/-! Blanks. -/

theorem skipBlanks_spaces (n : Nat) :
    skipBlanks false allowed false (spaces n ++ text) p =
      skipBlanks false allowed false text (p.through (spaces n)) := by
  induction n generalizing p with
  | zero => rfl
  | succ n ih =>
    rw [spaces_succ, List.cons_append, skipBlanks, Position.through_cons (by decide)]
    · simpa [isBreak] using ih
    · simp

theorem skipBlanks_ahead {flow : Bool} (ahead : LineAhead d next) :
    skipBlanks flow allowed false next p = (⟨next, p⟩, allowed) := by
  cases ahead with
  | ended => rfl
  | word starts =>
    obtain ⟨notSpacing, noBreak, notComment, notMark⟩ := starts
    simp only [isSpacing, Bool.or_eq_false_iff, decide_eq_false_iff_not] at notSpacing
    rw [skipBlanks]
    · simp [noBreak, notSpacing, notComment, notMark]
    · rintro _ rfl
      exact absurd noBreak (by decide)

theorem skipBlanks_nextLine (ahead : LineAhead d next) :
    skipBlanks false allowed false ('\n' :: (spaces d ++ next)) p =
      (⟨next, p.through ('\n' :: spaces d)⟩, true) := by
  rw [skipBlanks, if_pos (by decide), Position.through_cons_of_isBreak (by decide), Bool.not_false,
    Bool.or_true, skipBlanks_spaces, skipBlanks_ahead ahead]
  simp

/-! Keys that need not be any. -/

/-- Lapses on the next line without a fault. -/
def MayLapse (key : Option PendingKey) (p : Position) : Prop :=
  ∀ pending, key = some pending → pending.required = false ∧ pending.place.line ≤ p.line

theorem mayLapse_none (p : Position) : MayLapse none p := nofun

theorem lapse_none {key : Option PendingKey} (may : MayLapse key p) {q : Position}
    (below : p.line < q.line) : lapse q key = some none := by
  cases key with
  | none => rfl
  | some pending =>
    obtain ⟨required, line⟩ := may pending rfl
    rw [lapse, if_pos (.inl (Nat.lt_of_le_of_lt line below)), required, if_neg Bool.false_ne_true]

theorem lapse_mayLapse {key : Option PendingKey} (may : MayLapse key p) :
    ∃ key', lapse p key = some key' ∧ MayLapse key' p := by
  cases key with
  | none => exact ⟨none, rfl, may⟩
  | some pending =>
    simp only [lapse, (may pending rfl).1, Bool.false_eq_true, reduceIte]
    split
    · exact ⟨none, rfl, nofun⟩
    · exact ⟨_, rfl, may⟩

theorem lapseKeys_idle {key key' : Option PendingKey} (lapsed : lapse p key = some key') :
    ((idle text p indents allowed tokens).withKey key).lapseKeys =
      some ((idle text p indents allowed tokens).withKey key') := by
  simp only [lapseKeys, withKey, idle, lapsed]
  rfl

theorem prepare_idle {key key' : Option PendingKey} {cursor : Cursor} {allowed' : Bool}
    (skipped : skipBlanks false allowed false text p = (cursor, allowed'))
    (lapsed : lapse cursor.position key = some key') :
    ((idle text p indents allowed tokens).withKey key).prepare =
      some (((idle cursor.rest cursor.position indents allowed' tokens).withKey key').closeBlocks
        (some cursor.position.column)) := by
  simp only [prepare, idle, withKey, inFlow, List.isEmpty_nil, Bool.not_true, skipped, lapseKeys,
    lapsed]
  rfl

/-- Blanks in front of a word do not count. -/
theorem leadsTo_blank (allowed : Bool) :
    (idle (' ' :: text) p indents allowed tokens).LeadsTo
      (idle text (p.next ' ') indents allowed tokens) := by
  refine .of_prepare_eq ?_ (Nat.le_succ _)
  have skipped : skipBlanks false allowed false (' ' :: text) p =
      skipBlanks false allowed false text (p.next ' ') := skipBlanks_spaces 1
  exact (@prepare_idle _ _ _ _ _ none _ _ _ skipped rfl).trans
    (@prepare_idle _ _ _ _ _ none _ _ _ rfl rfl).symm

/-- A line ends, and any pending key with it. -/
theorem leadsTo_nextLine (ahead : LineAhead d next) {key : Option PendingKey}
    (may : MayLapse key p) :
    ((idle ('\n' :: (spaces d ++ next)) p indents allowed tokens).withKey key).LeadsTo
      (idle next (p.through ('\n' :: spaces d)) indents true tokens) := by
  refine .of_prepare_eq ?_ ?_
  · have below : p.line < (p.through ('\n' :: spaces d)).line := Position.line_lt_through rfl p
    exact (prepare_idle (skipBlanks_nextLine ahead) (lapse_none may below)).trans
      (@prepare_idle _ _ _ _ _ none _ _ _ (skipBlanks_ahead ahead) rfl).symm
  · simp only [withKey, idle, List.length_cons, List.length_append]
    omega

/-- A block is closed by a word to the left of it. -/
theorem leadsTo_close (ahead : LineAhead d next) {indent : Nat} (less : p.column < indent) :
    (idle next p (indent :: indents) true tokens).LeadsTo
      (idle next p indents true (.blockEnd :: tokens)) := by
  refine .of_prepare_eq ?_ (Nat.le_refl _)
  have skipped : skipBlanks false true false next p = (⟨next, p⟩, true) := skipBlanks_ahead ahead
  refine (@prepare_idle _ _ _ _ _ none _ _ _ skipped rfl).trans
    (.trans ?_ (@prepare_idle _ _ _ _ _ none _ _ _ skipped rfl).symm)
  simp [closeBlocks, idle, withKey, inFlow, less, List.replicate_succ', Nat.add_assoc, Nat.add_comm 1]

/-! Words. -/

/-- A word to the right of the innermost block, or at its start, closes none. -/
theorem step_idle {key : Option PendingKey} (starts : StartsWord c)
    (column : ∀ indent, indents.head? = some indent → indent ≤ p.column)
    (kept : lapse p key = some key) :
    ((idle (c :: rest) p indents allowed tokens).withKey key).step =
      (((idle (c :: rest) p indents allowed tokens).withKey key).readWord c rest).bind
        fun lx => lx.lapseKeys.map fun lx => (lx, false) := by
  have skipped : skipBlanks false allowed false (c :: rest) p = (⟨c :: rest, p⟩, allowed) :=
    skipBlanks_ahead (d := 0) (.word starts)
  have closed : ((idle (c :: rest) p indents allowed tokens).withKey key).closeBlocks
      (some p.column) = (idle (c :: rest) p indents allowed tokens).withKey key := by
    cases indents with
    | nil => rfl
    | cons indent indents =>
      have := column indent rfl
      simp [closeBlocks, withKey, idle, inFlow, Nat.not_lt.mpr this]
  rw [step_eq, prepare_idle skipped kept, closed]
  simp only [readAhead, withKey, idle, Option.bind_eq_bind, Option.bind_some]
  congr 1
  funext lx
  cases lx.lapseKeys <;> rfl

theorem leadsTo_wordBehindKey {key : Option PendingKey} {lx lx' : Lexer} (starts : StartsWord c)
    (column : ∀ indent, indents.head? = some indent → indent ≤ p.column)
    (kept : lapse p key = some key)
    (read : ((idle (c :: rest) p indents allowed tokens).withKey key).readWord c rest = some lx)
    (lapsed : lx.lapseKeys = some lx') (shorter : lx'.cursor.rest.length ≤ rest.length) :
    ((idle (c :: rest) p indents allowed tokens).withKey key).LeadsTo lx' := by
  refine .of_step ?_ (Nat.lt_succ_of_le shorter)
  rw [step_idle starts column kept, read, Option.bind_some, lapsed, Option.map_some]

theorem leadsTo_word {lx lx' : Lexer} (starts : StartsWord c)
    (column : ∀ indent, indents.head? = some indent → indent ≤ p.column)
    (read : (idle (c :: rest) p indents allowed tokens).readWord c rest = some lx)
    (lapsed : lx.lapseKeys = some lx') (shorter : lx'.cursor.rest.length ≤ rest.length) :
    (idle (c :: rest) p indents allowed tokens).LeadsTo lx' :=
  @leadsTo_wordBehindKey _ _ _ _ _ _ none _ _ starts column rfl read lapsed shorter

end TrustedAppId.Markup.Lexer
