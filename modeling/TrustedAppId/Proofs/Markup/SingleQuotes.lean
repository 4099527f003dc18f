import TrustedAppId.Markup.QuotedText
import TrustedAppId.Proofs.Markup.PlainScalar
/-! Scalars between single quotes read back. At each place the text read so far is that in `done`
and the blanks in the gap; every step of the body adds the next character to one of the two. -/
namespace TrustedAppId.Markup

/-- The text that has been read when `gap` follows `done`. -/
def readSoFar (gap : Gap) (done : List Char) : List Char := done.reverse ++ gap.fill

variable {c : Char} {p : Position} {gap : Gap} {cs tail done : List Char} {indent : Nat}

theorem readSoFar_none (done : List Char) : readSoFar .none done = done.reverse := by
  simp [readSoFar, Gap.fill]

theorem readSoFar_cons (gap : Gap) (done : List Char) (c : Char) :
    readSoFar .none (c :: gap.fill.reverse ++ done) = readSoFar gap done ++ [c] := by
  simp [readSoFar, Gap.fill]

theorem singleQuoted_cons (notReturn : c ≠ '\r') (single : c = '\x27' → tail.head? ≠ some '\x27') :
    singleQuoted (c :: tail) p gap done =
      if isSpacing c then singleQuoted tail (p.next c) (gap.addSpacing c) done
      else if isBreak c then singleQuoted tail (p.nextLine c.utf8Size) (gap.addBreak c) done
      else if p.column = 0 ∧ isDocumentMark (c :: tail) then none
      else if c = '\x27' then some ((gap.fill.reverse ++ done).reverse, ⟨tail, p.next c⟩)
      else singleQuoted tail (p.next c) .none (c :: gap.fill.reverse ++ done) := by
  rw [singleQuoted]
  · intro _ same
    exact absurd same notReturn
  · rintro rest same rfl
    exact single same rfl

theorem singleQuoted_close (next : tail.head? ≠ some '\x27') :
    singleQuoted ('\x27' :: tail) p gap done =
      some (readSoFar gap done, ⟨tail, p.next '\x27'⟩) := by
  rw [singleQuoted_cons (by decide) fun _ => next]
  simp [isSpacing, isBreak, isDocumentMark, readSoFar]

theorem singleQuoted_spaces (inside : gap.isBreaks = true) (n : Nat) :
    singleQuoted (spaces n ++ tail) p gap done =
      singleQuoted tail (p.through (spaces n)) gap done := by
  have kept : gap.addSpacing ' ' = gap := by
    cases gap with
    | none | spacing => contradiction
    | breaks => rfl
  induction n generalizing p with
  | zero => rfl
  | succ n ih =>
    rw [spaces_succ, List.cons_append, singleQuoted_cons (by decide) (by simp), if_pos (by decide),
      kept, ih, Position.through_cons (by decide)]

/-- The blanks that a body may be read on from: no line break that folds, no space next to a break,
and some indentation behind a break. -/
structure GapFits (indent : Nat) (p : Position) (gap : Gap) (cs : List Char) : Prop where
  folds : ∀ first more, gap = .breaks first more → first ≠ ['\n']
  not_space : gap.isBreaks = true → cs.head? ≠ some ' '
  not_break : ∀ blanks, gap = .spacing blanks → ∀ c, cs.head? = some c → isBreak c = false
  margin : gap.isBreaks = true → 0 < indent
  column : gap.isBreaks = false → 0 < p.column

theorem GapFits.none (column : 0 < p.column) : GapFits indent p .none cs :=
  ⟨nofun, nofun, nofun, nofun, fun _ => column⟩

/-- What a body between single quotes may hold from some place on. -/
structure SingleRest (indent : Nat) (cs : List Char) : Prop where
  printable : ∀ c ∈ cs, isPrintable c = true
  not_feed : ∀ c ∈ cs, c ≠ '\n'
  before : spaceBeforeBreak cs = false
  after : spaceAfterBreak cs = false
  margin : cs.any isBreak = true → 0 < indent

theorem SingleRest.of_cons (h : SingleRest indent (c :: cs)) : SingleRest indent cs where
  printable d mem := h.printable d (List.mem_cons_of_mem c mem)
  not_feed d mem := h.not_feed d (List.mem_cons_of_mem c mem)
  before := anyNeighbours_of_cons h.before
  after := anyNeighbours_of_cons h.after
  margin breaks := h.margin (by rw [List.any_cons, breaks, Bool.or_true])

theorem SingleRest.not_space (h : SingleRest indent (c :: cs)) (breaks : isBreak c = true) :
    cs.head? ≠ some ' ' := by
  intro head
  have := h.after
  rw [spaceAfterBreak, anyNeighbours_cons, head] at this
  simp [breaks] at this

theorem SingleRest.not_break (h : SingleRest indent (' ' :: cs)) :
    ∀ c, cs.head? = some c → isBreak c = false := by
  intro c head
  have := h.before
  rw [spaceBeforeBreak, anyNeighbours_cons, head] at this
  simpa using (Bool.or_eq_false_iff.mp this).1

/-- A character other than a line break, behind its indentation. -/
def singleChar (c : Char) : List Char := if c = '\x27' then ['\x27', '\x27'] else [c]

theorem singleBody_cons_of_isBreak (breaks : isBreak c = true) (broken : Bool) :
    singleBody indent broken (c :: cs) = c :: singleBody indent true cs := by
  rw [singleBody, if_pos breaks]

theorem singleBody_cons (noBreak : isBreak c = false) (broken : Bool) :
    singleBody indent broken (c :: cs) =
      (if broken then spaces indent else []) ++ (singleChar c ++ singleBody indent false cs) := by
  rw [singleBody]
  simp only [noBreak, Bool.false_eq_true, reduceIte, singleChar, List.append_assoc]

theorem GapFits.addBreak (fits : GapFits indent p gap (c :: cs))
    (text : SingleRest indent (c :: cs)) (breaks : isBreak c = true) (q : Position)
    (done : List Char) : GapFits indent q (gap.addBreak c) cs ∧
      readSoFar (gap.addBreak c) done = readSoFar gap done ++ [c] := by
  have same := breakText_of_isPrintable (text.printable c List.mem_cons_self) breaks
  have notFeed := text.not_feed c List.mem_cons_self
  have indented := text.margin (by rw [List.any_cons, breaks, Bool.true_or])
  have notSpace := text.not_space breaks
  cases gap with
  | none =>
    refine ⟨⟨?_, fun _ => notSpace, ?_, fun _ => indented, ?_⟩, ?_⟩
    · rintro _ _ ⟨⟩
      simpa [same] using notFeed
    · rintro _ ⟨⟩
    · rintro ⟨⟩
    · simp [readSoFar, Gap.addBreak, Gap.fill, same, notFeed]
  | spacing blanks =>
    have := fits.not_break blanks rfl c rfl
    rw [breaks] at this
    contradiction
  | breaks first more =>
    have folds := fits.folds first more rfl
    refine ⟨⟨?_, fun _ => notSpace, ?_, fun _ => indented, ?_⟩, ?_⟩
    · rintro _ _ ⟨⟩
      exact folds
    · rintro _ ⟨⟩
    · rintro ⟨⟩
    · simp [readSoFar, Gap.addBreak, Gap.fill, same, if_neg folds]

/-- One character within a line. -/
theorem singleQuoted_char (text : SingleRest indent (c :: cs)) (noBreak : isBreak c = false)
    (column : 0 < p.column) (notSpace : gap.isBreaks = true → c ≠ ' ') (done tail : List Char) :
    ∃ gap' done', gap'.isBreaks = false ∧ GapFits indent (p.through (singleChar c)) gap' cs ∧
      readSoFar gap' done' = readSoFar gap done ++ [c] ∧
      singleQuoted (singleChar c ++ tail) p gap done =
        singleQuoted tail (p.through (singleChar c)) gap' done' := by
  have printable := text.printable c List.mem_cons_self
  by_cases quote : c = '\x27'
  · subst quote
    refine ⟨.none, '\x27' :: gap.fill.reverse ++ done, rfl, .none (Nat.succ_pos _),
      readSoFar_cons gap done _, ?_⟩
    rw [singleChar, if_pos rfl, List.cons_append, List.cons_append, List.nil_append, singleQuoted]
    rfl
  have single : singleChar c = [c] := by rw [singleChar, if_neg quote]
  have column' : 0 < (p.through (singleChar c)).column := by
    rw [single, Position.through_cons noBreak]
    exact Nat.succ_pos _
  rw [single] at column' ⊢
  rw [List.singleton_append, singleQuoted_cons (not_carriageReturn printable) fun same =>
    absurd same quote, Position.through_cons noBreak, Position.through_nil]
  cases spacing : isSpacing c with
  | true =>
    obtain rfl := eq_space_of_isSpacing printable spacing
    have inside : gap.isBreaks = false := by
      rw [← Bool.not_eq_true]
      intro inside
      exact notSpace inside rfl
    have inside' : (gap.addSpacing ' ').isBreaks = false := by rw [Gap.isBreaks_addSpacing, inside]
    refine ⟨gap.addSpacing ' ', done, inside', ⟨?_, ?_, fun _ _ => text.not_break, ?_,
      fun _ => Nat.succ_pos _⟩, ?_, rfl⟩
    · intro first more same
      rw [same] at inside'
      contradiction
    · intro breaks
      rw [inside'] at breaks
      contradiction
    · intro breaks
      rw [inside'] at breaks
      contradiction
    · simp [readSoFar, Gap.fill_addSpacing inside]
  | false =>
    refine ⟨.none, c :: gap.fill.reverse ++ done, rfl, .none (Nat.succ_pos _),
      readSoFar_cons gap done c, ?_⟩
    have notMargin : ¬ (p.column = 0 ∧ isDocumentMark (c :: tail) = true) := by
      rintro ⟨margin, -⟩
      exact Nat.ne_of_gt column margin
    simp only [noBreak, Bool.false_eq_true, reduceIte, if_neg notMargin, if_neg quote]

/-- The indentation behind a line break does not count. -/
theorem singleQuoted_indentation {broken : Bool} (fits : GapFits indent p gap cs)
    (state : gap.isBreaks = broken) (done tail : List Char) :
    0 < (p.through (if broken then spaces indent else [])).column ∧
      singleQuoted ((if broken then spaces indent else []) ++ tail) p gap done =
        singleQuoted tail (p.through (if broken then spaces indent else [])) gap done := by
  cases broken with
  | false => exact ⟨fits.column state, rfl⟩
  | true =>
    refine ⟨?_, singleQuoted_spaces state indent⟩
    rw [if_pos rfl, column_through_spaces]
    exact Nat.lt_of_lt_of_le (fits.margin state) (Nat.le_add_left _ _)

theorem singleQuoted_body {broken : Bool} (text : SingleRest indent cs)
    (fits : GapFits indent p gap cs) (state : gap.isBreaks = broken)
    (next : tail.head? ≠ some '\x27') :
    singleQuoted (singleBody indent broken cs ++ '\x27' :: tail) p gap done =
      some (readSoFar gap done ++ cs,
        ⟨tail, p.through (singleBody indent broken cs ++ ['\x27'])⟩) := by
  induction cs generalizing p gap done broken with
  | nil =>
    have body : singleBody indent broken [] = if broken then spaces indent else [] := by
      cases broken <;> rfl
    rw [body, (singleQuoted_indentation fits state _ _).2, singleQuoted_close next,
      Position.through_append, List.append_nil]
    rfl
  | cons c rest ih =>
    cases breaks : isBreak c with
    | true =>
      obtain ⟨fits', soFar⟩ := fits.addBreak text breaks (p.nextLine c.utf8Size) done
      rw [singleBody_cons_of_isBreak breaks, List.cons_append, List.cons_append,
        singleQuoted_cons (not_carriageReturn (text.printable c List.mem_cons_self))
          (by rintro rfl; exact absurd breaks (by decide)),
        Position.through_cons_of_isBreak breaks, isSpacing_of_isBreak breaks, if_neg (by simp),
        if_pos breaks, ih text.of_cons fits' (by cases gap <;> rfl), soFar, List.append_assoc]
      rfl
    | false =>
      obtain ⟨column, indented⟩ := singleQuoted_indentation fits state done
        (singleChar c ++ (singleBody indent false rest ++ '\x27' :: tail))
      obtain ⟨gap', done', inside, fits', soFar, read⟩ := singleQuoted_char text breaks column
        (fun inside same => fits.not_space inside (same ▸ rfl)) done
        (singleBody indent false rest ++ '\x27' :: tail)
      rw [singleBody_cons breaks, List.append_assoc, List.append_assoc, indented, read,
        ih text.of_cons fits' inside, soFar]
      simp only [Position.through_append, List.append_assoc, List.singleton_append]

/-- What stands behind the opening quote. -/
theorem singleQuoted_of_singleAllowed (allowed : singleAllowed cs = true) (oneLine : '\n' ∉ cs)
    (margin : cs.any isBreak = true → 0 < indent) (column : 0 < p.column)
    (next : tail.head? ≠ some '\x27') :
    singleQuoted (singleBody indent false cs ++ '\x27' :: tail) p .none [] =
      some (cs, ⟨tail, p.through (singleBody indent false cs ++ ['\x27'])⟩) := by
  simp only [singleAllowed, Bool.and_eq_true, Bool.not_eq_true', List.all_eq_true] at allowed
  obtain ⟨⟨printable, before⟩, after⟩ := allowed
  have notFeed : ∀ c ∈ cs, c ≠ '\n' := by
    rintro c mem rfl
    exact oneLine mem
  exact singleQuoted_body ⟨printable, notFeed, before, after, margin⟩ (.none column) rfl next

end TrustedAppId.Markup
