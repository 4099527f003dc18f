import TrustedAppId.Proofs.Markup.Lexing
/-! Marks and the blocks that they open. The first mark of a block opens it; all further ones find it
open. -/
namespace TrustedAppId.Markup.Lexer

variable {rest next : List Char} {p : Position} {indents outer : List Nat}
  {tokens found : List Token} {c : Char} {d : Nat}

theorem startsWord_mark (h : c ∈ ['-', '?', ':', '[', ']', '\x7b', '\x7d']) :
    StartsWord c := by
  simp only [List.mem_cons, List.not_mem_nil, or_false] at h
  rcases h with rfl | rfl | rfl | rfl | rfl | rfl | rfl <;>
    exact ⟨by decide, by decide, by decide, by decide⟩

/-- A word in `column` belongs to a block there, inside of the blocks `outer`. The token of a new
block comes in front of it. -/
inductive Opens (column : Nat) (token : Token) (outer : List Nat) (tokens : List Token) :
    List Nat → List Token → Prop
  | new : indentedLess outer column = true → Opens column token outer tokens outer (token :: tokens)
  | old : Opens column token outer tokens (column :: outer) tokens

theorem Opens.openBlock {token : Token} (h : Opens p.column token outer tokens indents found)
    (text : List Char) (allowed : Bool) :
    (idle text p indents allowed tokens).openBlock p.column token none =
      idle text p (p.column :: outer) allowed found := by
  cases h with
  | new less => simp [Lexer.openBlock, idle, inFlow, less, push]
  | old => simp [Lexer.openBlock, idle, inFlow, indentedLess]

theorem Opens.head_le {column : Nat} {token : Token}
    (h : Opens column token outer tokens indents found) :
    ∀ indent, indents.head? = some indent → indent ≤ column := by
  intro indent head
  cases h with
  | new less =>
    cases indents with
    | nil => contradiction
    | cons first indents =>
      obtain rfl := Option.some.inj head
      exact Nat.le_of_lt (of_decide_eq_true less)
  | old => exact Nat.le_of_eq (Option.some.inj head).symm

theorem leadsTo_blockEntry (h : Opens p.column .blockSequenceStart outer tokens indents found) :
    (idle ('-' :: ' ' :: rest) p indents true tokens).LeadsTo
      (idle rest ((p.next '-').next ' ') (p.column :: outer) true (.blockEntry :: found)) := by
  have notMark : isDocumentMark ('-' :: ' ' :: rest) = false := rfl
  have entry : (idle ('-' :: ' ' :: rest) p indents true tokens).blockEntry =
      some (idle (' ' :: rest) (p.next '-') (p.column :: outer) true (.blockEntry :: found)) := by
    have opened := h.openBlock ('-' :: ' ' :: rest) true
    simp only [blockEntry, column, inFlow, idle] at *
    rw [opened]
    rfl
  have read : (idle ('-' :: ' ' :: rest) p indents true tokens).readWord '-' (' ' :: rest) =
      some (idle (' ' :: rest) (p.next '-') (p.column :: outer) true (.blockEntry :: found)) := by
    simp [readWord, notMark, entry, endsWord, isSpacing]
  have word := leadsTo_word (startsWord_mark (by simp)) h.head_le read rfl (Nat.le_refl _)
  exact word.trans (leadsTo_blank true)

theorem leadsTo_explicitKey (h : Opens p.column .blockMappingStart outer tokens indents found) :
    (idle ('?' :: ' ' :: rest) p indents true tokens).LeadsTo
      (idle rest ((p.next '?').next ' ') (p.column :: outer) true (.key :: found)) := by
  have mark : (idle ('?' :: ' ' :: rest) p indents true tokens).explicitKey =
      some (idle (' ' :: rest) (p.next '?') (p.column :: outer) true (.key :: found)) := by
    have opened := h.openBlock ('?' :: ' ' :: rest) true
    simp only [explicitKey, column, inFlow, idle] at *
    rw [opened]
    rfl
  have read : (idle ('?' :: ' ' :: rest) p indents true tokens).readWord '?' (' ' :: rest) =
      some (idle (' ' :: rest) (p.next '?') (p.column :: outer) true (.key :: found)) := by
    simp [readWord, isDocumentMark, mark, endsWord, isSpacing]
  have word := leadsTo_word (startsWord_mark (by simp)) h.head_le read rfl (Nat.le_refl _)
  exact word.trans (leadsTo_blank true)

/-- The value of a key that is marked as such. -/
theorem leadsTo_explicitValue :
    (idle (':' :: ' ' :: rest) p (p.column :: outer) true tokens).LeadsTo
      (idle rest ((p.next ':').next ' ') (p.column :: outer) true (.value :: tokens)) := by
  have mark : (idle (':' :: ' ' :: rest) p (p.column :: outer) true tokens).readValue =
      some (idle (' ' :: rest) (p.next ':') (p.column :: outer) true (.value :: tokens)) := by
    have opened := (Opens.old : Opens p.column .blockMappingStart outer tokens _ _).openBlock
      (':' :: ' ' :: rest) true
    simp only [readValue, column, inFlow, idle] at *
    rw [opened]
    rfl
  have read : (idle (':' :: ' ' :: rest) p (p.column :: outer) true tokens).readWord ':' (' ' :: rest) =
      some (idle (' ' :: rest) (p.next ':') (p.column :: outer) true (.value :: tokens)) := by
    simp [readWord, isDocumentMark, mark, endsWord, isSpacing]
  have word := leadsTo_word (startsWord_mark (by simp)) (by simp) read rfl (Nat.le_refl _)
  exact word.trans (leadsTo_blank true)

/-- A possible key turns out to be one. Its mark, and that of the block if it is the first word there,
come in front of it. -/
theorem leadsTo_simpleKey {place : Position} {token : Token} {required : Bool} (same : p.line = place.line)
    (near : p.index ≤ place.index + 1024) (behind : place.column ≤ p.column)
    (ended : endsWord rest.head? = true)
    (h : Opens place.column .blockMappingStart outer tokens indents found) :
    ((idle (':' :: rest) p indents false (token :: tokens)).withKey
        (some ⟨tokens.length, place, required⟩)).LeadsTo
      (idle rest (p.next ':') (place.column :: outer) false
        (.value :: token :: .key :: found)) := by
  have kept : lapse p (some ⟨tokens.length, place, required⟩) =
      some (some ⟨tokens.length, place, required⟩) := by
    simp only [lapse, same, Nat.lt_irrefl, false_or, Nat.not_lt.mpr near, reduceIte]
  have mark : ((idle (':' :: rest) p indents false (token :: tokens)).withKey
      (some ⟨tokens.length, place, required⟩)).readValue =
      some (idle rest (p.next ':') (place.column :: outer) false
        (.value :: token :: .key :: found)) := by
    have one : tokens.length + 1 - tokens.length = 1 := by omega
    have two : tokens.length + 1 + 1 - tokens.length = 2 := by omega
    cases h with
    | new less =>
      simp only [readValue, withKey, idle, insert, List.length_cons, one, two, insertBehind,
        Lexer.openBlock, inFlow, less, List.isEmpty_nil, Bool.not_true, Bool.or_false,
        Bool.false_eq_true, reduceIte]
      rfl
    | old =>
      simp only [readValue, withKey, idle, insert, List.length_cons, one, insertBehind,
        Lexer.openBlock, inFlow, indentedLess, Nat.lt_irrefl, decide_false, Bool.not_false,
        Bool.or_true, reduceIte]
      rfl
  have read : ((idle (':' :: rest) p indents false (token :: tokens)).withKey
      (some ⟨tokens.length, place, required⟩)).readWord ':' rest =
      some (idle rest (p.next ':') (place.column :: outer) false
        (.value :: token :: .key :: found)) := by
    have notMark : isDocumentMark (':' :: rest) = false := rfl
    simp [readWord, notMark, mark, ended]
  exact leadsTo_wordBehindKey (startsWord_mark (by simp)) (fun indent head =>
    Nat.le_trans (h.head_le indent head) behind) kept read rfl (Nat.le_refl _)

/-! Empty collections. -/

/-- The possible key that a word begins, if there may be one. -/
def keyHere (p : Position) (indents : List Nat) (allowed : Bool) (number : Nat) : Option PendingKey :=
  if allowed then some ⟨number, p, indents.head? == some p.column⟩ else none

theorem saveKey_idle (text : List Char) (p : Position) (indents : List Nat) (allowed : Bool)
    (tokens : List Token) : (idle text p indents allowed tokens).saveKey =
      some ((idle text p indents allowed tokens).withKey
        (keyHere p indents allowed tokens.length)) := by
  cases allowed <;> rfl

/-- To the right of the innermost block no key is required. -/
theorem mayLapse_keyHere {indent : Nat} (right : indent < p.column) (indents : List Nat)
    (allowed : Bool) (number : Nat) {q : Position} (below : p.line ≤ q.line) :
    MayLapse (keyHere p (indent :: indents) allowed number) q := by
  intro pending same
  cases allowed with
  | false => contradiction
  | true =>
    obtain rfl := Option.some.inj same
    exact ⟨by simp [Nat.ne_of_lt right], below⟩

/-- Within a flow collection, with the key that is possible outside of it. -/
def withOuter (lx : Lexer) (key : Option PendingKey) : Lexer := { lx with outer := [key] }

theorem lapseKeys_withOuter {key key' : Option PendingKey} (lapsed : lapse p key = some key')
    (rest : List Char) (indents : List Nat) (allowed : Bool) (tokens : List Token) :
    ((idle rest p indents allowed tokens).withOuter key).lapseKeys =
      some ((idle rest p indents allowed tokens).withOuter key') := by
  simp only [lapseKeys, withOuter, idle, List.mapM_cons, List.mapM_nil, lapsed]
  rfl

theorem head_le {indent column : Nat} (le : indent ≤ column) (indents : List Nat) :
    ∀ first, (indent :: indents).head? = some first → first ≤ column := by
  intro first head
  obtain rfl := Option.some.inj head
  exact le

theorem leadsTo_emptyFlow {first last : Char} {start stop : Token} {indent : Nat}
    (starts : StartsWord first) (starts' : StartsWord last)
    (opens : ∀ lx rest, readWord lx first rest = lx.openFlow start)
    (closes : ∀ lx rest, readWord lx last rest = lx.closeFlow stop) (right : indent < p.column)
    (ahead : LineAhead d next) (allowed : Bool) :
    (idle (first :: last :: '\n' :: (spaces d ++ next)) p (indent :: indents) allowed tokens).LeadsTo
      (idle next (p.through (first :: last :: '\n' :: spaces d)) (indent :: indents) true
        (stop :: start :: tokens)) := by
  have line : p.line ≤ (p.next first).line := Nat.le_refl _
  obtain ⟨key, lapsed, may⟩ :=
    lapse_mayLapse (mayLapse_keyHere right indents allowed tokens.length line)
  obtain ⟨key', lapsed', may'⟩ := lapse_mayLapse may
  have may'' : MayLapse key' ((p.next first).next last) := may'
  obtain ⟨key'', lapsed'', may''⟩ := lapse_mayLapse may''
  have word : (idle (first :: last :: '\n' :: (spaces d ++ next)) p (indent :: indents) allowed
      tokens).LeadsTo ((idle (last :: '\n' :: (spaces d ++ next)) (p.next first)
        (indent :: indents) true (start :: tokens)).withOuter key) := by
    refine leadsTo_word starts (head_le (Nat.le_of_lt right) _) ?_
      (lapseKeys_withOuter lapsed _ _ _ _) (Nat.le_refl _)
    rw [opens, openFlow, saveKey_idle]
    rfl
  have word' : ((idle (last :: '\n' :: (spaces d ++ next)) (p.next first)
      (indent :: indents) true (start :: tokens)).withOuter key).LeadsTo
        ((idle ('\n' :: (spaces d ++ next)) ((p.next first).next last) (indent :: indents) false
          (stop :: start :: tokens)).withKey key'') := by
    have skipped : skipBlanks true true false (last :: '\n' :: (spaces d ++ next)) (p.next first) =
        (⟨last :: '\n' :: (spaces d ++ next), p.next first⟩, true) :=
      skipBlanks_ahead (d := 0) (.word starts')
    have prepared : ((idle (last :: '\n' :: (spaces d ++ next)) (p.next first)
        (indent :: indents) true (start :: tokens)).withOuter key).prepare = some
          ((idle (last :: '\n' :: (spaces d ++ next)) (p.next first)
            (indent :: indents) true (start :: tokens)).withOuter key') := by
      have outer := lapseKeys_withOuter lapsed' (last :: '\n' :: (spaces d ++ next))
        (indent :: indents) true (start :: tokens)
      simp only [prepare, withOuter, idle, inFlow, List.isEmpty_cons, Bool.not_false, skipped] at *
      rw [outer]
      rfl
    refine .of_step ?_ (Nat.lt_succ_self _)
    rw [step_eq, prepared]
    simp only [readAhead, withOuter, idle, Option.bind_eq_bind, Option.bind_some, closes]
    change Option.bind (lapseKeys (withKey (idle ('\n' :: (spaces d ++ next))
      ((p.next first).next last) (indent :: indents) false (stop :: start :: tokens)) key')) _ = _
    rw [lapseKeys_idle lapsed'']
    rfl
  rw [Position.through_cons starts.not_break, Position.through_cons starts'.not_break]
  exact (word.trans word').trans (leadsTo_nextLine ahead may'')

end TrustedAppId.Markup.Lexer
