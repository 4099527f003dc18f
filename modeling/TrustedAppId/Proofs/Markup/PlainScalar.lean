import TrustedAppId.Markup.PlainText
import TrustedAppId.Proofs.Markup.Positions
/-! Scalars without quotes read back. Reading goes through the whole text, since nothing in it ends
a scalar, and stops at the colon behind a key or at the next line that is indented less. -/
namespace TrustedAppId.Markup

theorem anyNeighbours_cons (related : Char → Char → Bool) (c : Char) (rest : List Char) :
    anyNeighbours related (c :: rest) =
      (rest.head?.any (related c) || anyNeighbours related rest) := by
  cases rest <;> rfl

theorem anyNeighbours_of_cons {related : Char → Char → Bool} {c : Char} {rest : List Char}
    (h : anyNeighbours related (c :: rest) = false) : anyNeighbours related rest = false := by
  rw [anyNeighbours_cons, Bool.or_eq_false_iff] at h
  exact h.2

/-- What may stand in a scalar without quotes from some place on. -/
structure PlainRest (cs : List Char) : Prop where
  printable : ∀ c ∈ cs, isPrintable c = true
  not_break : ∀ c ∈ cs, isBreak c = false
  colons : anyNeighbours (fun c d => c = ':' && endsWord (some d)) cs = false
  comments : anyNeighbours (fun c d => endsWord (some c) && d = '#') cs = false
  last : ∀ c, cs.getLast? = some c → c ≠ ':' ∧ c ≠ ' '

theorem PlainRest.of_plainAllowed {cs : List Char} (h : plainAllowed cs = true) : PlainRest cs := by
  simp only [plainAllowed, hasOuterBlank, holdsMark, Bool.and_eq_true, Bool.not_eq_true',
    Bool.or_eq_false_iff, decide_eq_false_iff_not, List.all_eq_true, List.any_eq_false,
    Bool.not_eq_true] at h
  obtain ⟨⟨⟨⟨⟨printable, noBreak⟩, -, blank⟩, -⟩, -⟩, ⟨colon, colons⟩, comments⟩ := h
  refine ⟨printable, noBreak, colons, comments, ?_⟩
  intro c last
  constructor
  · rintro rfl
    exact colon last
  · rintro rfl
    rw [last] at blank
    contradiction

theorem PlainRest.of_cons {c : Char} {cs : List Char} (h : PlainRest (c :: cs)) : PlainRest cs where
  printable d mem := h.printable d (List.mem_cons_of_mem c mem)
  not_break d mem := h.not_break d (List.mem_cons_of_mem c mem)
  colons := anyNeighbours_of_cons h.colons
  comments := anyNeighbours_of_cons h.comments
  last d last := by
    apply h.last d
    cases cs with
    | nil => contradiction
    | cons => exact last

theorem PlainRest.not_comment {cs : List Char} (h : PlainRest (' ' :: cs)) :
    cs.head? ≠ some '#' := by
  intro head
  have := h.comments
  rw [anyNeighbours_cons, head] at this
  contradiction

theorem PlainRest.not_colon {c : Char} {cs : List Char} (h : PlainRest (c :: cs))
    (tail : List Char) : ¬ (c = ':' ∧ endsWord (cs ++ tail).head? = true) := by
  rintro ⟨rfl, ended⟩
  cases cs with
  | nil => exact (h.last ':' rfl).1 rfl
  | cons d cs =>
    have := h.colons
    rw [anyNeighbours_cons, Bool.or_eq_false_iff] at this
    simp only [List.cons_append, List.head?_cons] at ended
    simp [ended] at this

theorem if_or {α : Type} {p q : Prop} [Decidable p] [Decidable q] (a b : α) :
    (if p ∨ q then a else b) = if p then a else if q then a else b := by
  by_cases p <;> simp [*]

theorem Gap.fill_addSpacing {gap : Gap} (inside : gap.isBreaks = false) (c : Char) :
    (gap.addSpacing c).fill = gap.fill ++ [c] := by
  cases gap with
  | none | spacing => rfl
  | breaks => contradiction

theorem Gap.isBreaks_addSpacing (gap : Gap) (c : Char) :
    (gap.addSpacing c).isBreaks = gap.isBreaks := by
  cases gap <;> rfl

variable {indent d : Nat} {p : Position} {gap : Gap} {c : Char} {cs next tail done : List Char}

/-- One step outside of flow notation. -/
theorem plainText_cons (notReturn : c ≠ '\r') : plainText false indent (c :: tail) p gap done =
    if isSpacing c then
      if gap.isBreaks ∧ c = '\t' ∧ p.column < indent then none
      else plainText false indent tail (p.next c) (gap.addSpacing c) done
    else if isBreak c then
      plainText false indent tail (p.nextLine c.utf8Size) (gap.addBreak c) done
    else if gap.isNone = false ∧
        (p.column < indent ∨ p.column = 0 ∧ isDocumentMark (c :: tail) ∨ c = '#') ∨
        c = ':' ∧ endsWord tail.head? then
      some ⟨done.reverse, ⟨c :: tail, p⟩, gap.isBreaks⟩
    else plainText false indent tail (p.next c) .none (c :: gap.fill.reverse ++ done) := by
  rw [plainText]
  · cases none : gap.isNone with
    | true => simp
    | false =>
      simp only [Bool.false_eq_true, not_false_eq_true, true_and, false_and, or_false, if_or,
        reduceIte]
  · intro _ same
    exact absurd same notReturn

theorem plainText_append (text : PlainRest cs) (inside : gap.isBreaks = false)
    (first : indent ≤ p.column + 1)
    (later : gap.isNone = false →
      indent ≤ p.column ∧ 0 < p.column ∧ cs ≠ [] ∧ cs.head? ≠ some '#') :
    plainText false indent (cs ++ tail) p gap done =
      plainText false indent tail (p.through cs) .none (cs.reverse ++ gap.fill.reverse ++ done) := by
  induction cs generalizing p gap done with
  | nil =>
    cases gap with
    | none => rfl
    | spacing => exact absurd rfl (later rfl).2.2.1
    | breaks => contradiction
  | cons c rest ih =>
    have printable := text.printable c List.mem_cons_self
    have noBreak := text.not_break c List.mem_cons_self
    rw [List.cons_append, plainText_cons (not_carriageReturn printable),
      Position.through_cons noBreak]
    cases spacing : isSpacing c with
    | true =>
      obtain rfl := eq_space_of_isSpacing printable spacing
      have notLast : rest ≠ [] := by
        rintro rfl
        exact (text.last ' ' rfl).2 rfl
      simp only [inside, reduceIte, Bool.false_eq_true, false_and]
      have inside' : (gap.addSpacing ' ').isBreaks = false := by
        rw [Gap.isBreaks_addSpacing, inside]
      rw [ih text.of_cons inside' (Nat.le_succ_of_le first) fun _ =>
        ⟨first, Nat.succ_pos _, notLast, text.not_comment⟩]
      simp [Gap.fill_addSpacing inside]
    | false =>
      have goesOn : ¬ (gap.isNone = false ∧ (p.column < indent ∨
          p.column = 0 ∧ isDocumentMark (c :: (rest ++ tail)) = true ∨ c = '#') ∨
          c = ':' ∧ endsWord (rest ++ tail).head? = true) := by
        rintro (⟨gapped, less | ⟨margin, -⟩ | rfl⟩ | colon)
        · exact Nat.not_lt.mpr (later gapped).1 less
        · exact Nat.ne_of_gt (later gapped).2.1 margin
        · exact (later gapped).2.2.2 rfl
        · exact text.not_colon tail colon
      simp only [noBreak, Bool.false_eq_true, reduceIte, if_neg goesOn]
      rw [ih text.of_cons (rfl : Gap.none.isBreaks = false) (Nat.le_succ_of_le first) nofun]
      simp [Gap.fill]

theorem plainText_spaces (inside : gap.isBreaks = true) :
    plainText false indent (spaces d ++ tail) p gap done =
      plainText false indent tail (p.through (spaces d)) gap done := by
  induction d generalizing p with
  | zero => rfl
  | succ d ih =>
    have kept : gap.addSpacing ' ' = gap := by
      cases gap with
      | none | spacing => contradiction
      | breaks => rfl
    rw [spaces_succ, List.cons_append, plainText_cons (by decide), Position.through_cons rfl,
      if_pos (by decide : isSpacing ' ' = true), if_neg (by simp), kept]
    exact ih

/-- The scalar ends with its line. -/
theorem plainText_nextLine (ahead : LineAhead d next) (less : d < indent) :
    plainText false indent ('\n' :: spaces d ++ next) p .none done =
      some ⟨done.reverse, ⟨next, p.through ('\n' :: spaces d)⟩, true⟩ := by
  have column : ((p.nextLine '\n'.utf8Size).through (spaces d)).column = d := by
    rw [column_through_spaces]
    exact Nat.zero_add d
  rw [List.cons_append, plainText_cons (by decide), Position.through_cons_of_isBreak rfl]
  change plainText false indent (spaces d ++ next) _ (.breaks ['\n'] []) done = _
  rw [plainText_spaces rfl]
  cases ahead with
  | ended => rfl
  | word starts =>
    have notReturn : ∀ c, isBreak c = false → c ≠ '\r' := by
      rintro _ noBreak rfl
      contradiction
    rw [plainText_cons (notReturn _ starts.not_break)]
    simp [starts.not_spacing, starts.not_break, Gap.isNone, Gap.isBreaks, column, less]

/-- The scalar is a key. -/
theorem plainText_colon (ended : endsWord tail.head? = true) :
    plainText false indent (':' :: tail) p .none done =
      some ⟨done.reverse, ⟨':' :: tail, p⟩, false⟩ := by
  rw [plainText_cons (by decide)]
  simp [isSpacing, isBreak, Gap.isBreaks, ended]

end TrustedAppId.Markup
