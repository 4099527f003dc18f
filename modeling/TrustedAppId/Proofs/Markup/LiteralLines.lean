import TrustedAppId.Markup.BlockText
import TrustedAppId.Proofs.Markup.Positions
/-! Scalars in literal blocks read back. At each place the text read so far is that in `done` and
the two stretches of line breaks behind it, and the header tells which of these belong to it. -/
namespace TrustedAppId.Markup

variable {c : Char} {p : Position} {t : BlockText} {inLine : Bool} {indent d : Nat}
  {cs done rest after next : List Char}

/-- The text `done` has been read, and its last line is under way if `inLine` says so. -/
structure BlockText.Holds (t : BlockText) (inLine : Bool) (done : List Char) : Prop where
  text : t.done.reverse ++ t.first ++ t.more = done
  breaks : ∀ c ∈ t.first ++ t.more, isBreak c = true
  within : inLine = true → t.first = [] ∧ t.more = [] ∧ ∃ c rest, t.done = c :: rest ∧ isBreak c = false
  margin : inLine = false → t.first = [] → t.done = []

def BlockText.start : BlockText := ⟨[], [], [], false⟩

theorem BlockText.holds_start : start.Holds false [] := ⟨rfl, nofun, nofun, fun _ _ => rfl⟩

/-- Takes the next character of the text. -/
def BlockText.add (t : BlockText) (inLine : Bool) (c : Char) : BlockText :=
  if isBreak c then
    if inLine then { t with first := [c] } else { t with more := t.more ++ [c] }
  else if inLine then { t with done := c :: t.done } else t.beginLine true c

theorem BlockText.Holds.add (h : t.Holds inLine done) (c : Char) :
    (t.add inLine c).Holds (!isBreak c) (done ++ [c]) := by
  obtain ⟨text, breaks, within, margin⟩ := h
  cases new : isBreak c with
  | true =>
    cases inLine with
    | true =>
      obtain ⟨first, more, -⟩ := within rfl
      rw [first, more, List.append_nil, List.append_nil] at text
      rw [BlockText.add, if_pos new, if_pos rfl]
      refine ⟨?_, ?_, nofun, nofun⟩
      · simp [more, text]
      · simp [more, new]
    | false =>
      rw [BlockText.add, if_pos new, if_neg Bool.false_ne_true]
      refine ⟨?_, ?_, nofun, fun _ => margin rfl⟩
      · simp only [← text, List.append_assoc]
      · intro e mem
        rw [← List.append_assoc, List.mem_append, List.mem_singleton] at mem
        rcases mem with mem | rfl
        · exact breaks e mem
        · exact new
  | false =>
    cases inLine with
    | true =>
      obtain ⟨first, more, -⟩ := within rfl
      rw [first, more, List.append_nil, List.append_nil] at text
      rw [BlockText.add, new, if_neg Bool.false_ne_true, if_pos rfl]
      refine ⟨?_, ?_, fun _ => ⟨first, more, c, t.done, rfl, new⟩, nofun⟩
      · simp [first, more, text]
      · simp [first, more]
    | false =>
      rw [BlockText.add, new, if_neg Bool.false_ne_true, if_neg Bool.false_ne_true]
      refine ⟨?_, nofun, fun _ => ⟨rfl, rfl, c, _, rfl, new⟩, nofun⟩
      simp [BlockText.beginLine, ← text]

/-! Reading lines. -/

theorem blockLines_break (printable : isPrintable c = true) (breaks : isBreak c = true)
    (indent : Nat) (inLine : Bool) (rest : List Char) (p : Position) (t : BlockText) :
    blockLines true indent inLine (c :: rest) p t =
      blockLines true indent false rest (p.nextLine c.utf8Size) (t.add inLine c) := by
  have notReturn := not_carriageReturn printable
  have same := breakText_of_isPrintable printable breaks
  have notSpacing := isSpacing_of_isBreak breaks
  simp only [isSpacing, Bool.or_eq_false_iff, decide_eq_false_iff_not] at notSpacing
  cases inLine with
  | true =>
    rw [blockLines]
    · simp only [breaks, reduceIte, same, BlockText.add]
    · intro _ same
      exact absurd same notReturn
  | false =>
    rw [blockLines]
    · simp only [breaks, reduceIte, same, BlockText.add, notSpacing, and_false,
        Bool.false_eq_true]
    · intro _ same
      exact absurd same notReturn

theorem blockLines_char (printable : isPrintable c = true) (noBreak : isBreak c = false)
    (column : inLine = false → p.column = indent) (rest : List Char) (t : BlockText) :
    blockLines true indent inLine (c :: rest) p t =
      blockLines true indent true rest (p.next c) (t.add inLine c) := by
  have notReturn := not_carriageReturn printable
  cases inLine with
  | true =>
    rw [blockLines]
    · simp only [noBreak, Bool.false_eq_true, reduceIte, BlockText.add]
    · intro _ same
      exact absurd same notReturn
  | false =>
    rw [blockLines]
    · simp only [noBreak, Bool.false_eq_true, reduceIte, BlockText.add, column rfl,
        Nat.lt_irrefl, false_and]
    · intro _ same
      exact absurd same notReturn

theorem blockLines_spaces {n : Nat} (fits : p.column + n ≤ indent) (rest : List Char)
    (t : BlockText) : blockLines true indent false (spaces n ++ rest) p t =
      blockLines true indent false rest (p.through (spaces n)) t := by
  induction n generalizing p with
  | zero => rfl
  | succ n ih =>
    have less : p.column < indent := by omega
    rw [spaces_succ, List.cons_append, blockLines, Position.through_cons (by decide)]
    · simp only [less, and_self, reduceIte]
      exact ih (by simp only [Position.next]; omega)
    · simp

/-- Whether the last line is under way behind a text. -/
def endsInLine (inLine : Bool) (cs : List Char) : Bool :=
  match cs.getLast? with
  | none => inLine
  | some c => !isBreak c

theorem endsInLine_cons (inLine : Bool) (c : Char) (cs : List Char) :
    endsInLine inLine (c :: cs) = endsInLine (!isBreak c) cs := by
  cases cs with
  | nil => rfl
  | cons d cs =>
    rw [endsInLine, endsInLine, List.getLast?_cons_cons]
    obtain ⟨last, same⟩ : ∃ last, (d :: cs).getLast? = some last :=
      Option.isSome_iff_exists.mp (by simp)
    rw [same]

theorem literalBody_cons_of_isBreak (breaks : isBreak c = true) (broken : Bool) :
    literalBody indent broken (c :: cs) = c :: literalBody indent true cs := by
  rw [literalBody, if_pos breaks]

theorem literalBody_cons (noBreak : isBreak c = false) (broken : Bool) :
    literalBody indent broken (c :: cs) =
      (if broken then spaces indent else []) ++ c :: literalBody indent false cs := by
  rw [literalBody, noBreak, if_neg Bool.false_ne_true]

theorem blockLines_indentation (column : inLine = false → p.column = 0) (indent : Nat)
    (rest : List Char) (t : BlockText) :
    (inLine = false → (p.through (if !inLine then spaces indent else [])).column = indent) ∧
      blockLines true indent inLine ((if !inLine then spaces indent else []) ++ rest) p t =
        blockLines true indent inLine rest (p.through (if !inLine then spaces indent else [])) t := by
  cases inLine with
  | true => exact ⟨nofun, rfl⟩
  | false =>
    have start := column rfl
    refine ⟨fun _ => ?_, blockLines_spaces (by omega) rest t⟩
    simp [start]

theorem blockLines_body (indent : Nat) (after : List Char)
    (printable : ∀ c ∈ cs, isPrintable c = true) (held : t.Holds inLine done)
    (column : inLine = false → p.column = 0) :
    ∃ t', t'.Holds (endsInLine inLine cs) (done ++ cs) ∧
      (endsInLine inLine cs = false →
        (p.through (literalBody indent (!inLine) cs)).column = 0) ∧
      blockLines true indent inLine (literalBody indent (!inLine) cs ++ after) p t =
        blockLines true indent (endsInLine inLine cs) after
          (p.through (literalBody indent (!inLine) cs)) t' := by
  induction cs generalizing p t inLine done with
  | nil => exact ⟨t, by rwa [List.append_nil], column, rfl⟩
  | cons c cs ih =>
    obtain ⟨here, printable'⟩ := List.forall_mem_cons.mp printable
    have held' := held.add c
    rw [endsInLine_cons]
    cases breaks : isBreak c with
    | true =>
      rw [breaks] at held'
      obtain ⟨t', holds, margin, read⟩ := ih (p := p.nextLine c.utf8Size) printable' held' fun _ => rfl
      rw [literalBody_cons_of_isBreak breaks, List.cons_append, blockLines_break here breaks,
        Position.through_cons_of_isBreak breaks]
      exact ⟨t', by simpa using holds, margin, read⟩
    | false =>
      rw [breaks] at held'
      obtain ⟨column', indented⟩ := blockLines_indentation column indent
        (c :: (literalBody indent false cs ++ after)) t
      obtain ⟨t', holds, margin, read⟩ :=
        ih (p := (p.through (if !inLine then spaces indent else [])).next c) printable' held' nofun
      rw [literalBody_cons breaks, List.append_assoc, List.cons_append, indented,
        blockLines_char here breaks column', Position.through_append, Position.through_cons breaks]
      exact ⟨t', by simpa using holds, margin, read⟩

/-! The line behind the block, which is indented less. -/

theorem blockLines_ahead (ahead : LineAhead d next) (less : d < indent) (margin : p.column = 0)
    (t : BlockText) : blockLines true indent false (spaces d ++ next) p t =
      some (t, ⟨next, p.through (spaces d)⟩) := by
  have column : (p.through (spaces d)).column = d := by
    rw [column_through_spaces, margin, Nat.zero_add]
  rw [blockLines_spaces (by omega)]
  cases ahead with
  | ended => rfl
  | word starts =>
    have notSpacing := starts.not_spacing
    simp only [isSpacing, Bool.or_eq_false_iff, decide_eq_false_iff_not] at notSpacing
    rw [blockLines]
    · simp only [column, notSpacing, and_false, starts.not_break, Bool.false_eq_true, reduceIte,
        if_neg (Nat.ne_of_lt less)]
    · rintro _ rfl
      exact absurd starts.not_break (by decide)

/-- What the header says about the line breaks at the end of a text. -/
def chompingFor (cs : List Char) : Chomping :=
  match cs.reverse with
  | [] => .strip
  | [last] => if isBreak last then .keep else .strip
  | last :: before :: _ =>
    if !isBreak last then .strip else if isBreak before then .keep else .clip

theorem BlockText.Holds.close_of_inLine (h : t.Holds true cs) (first : List Char) :
    { t with first := first }.close (chompingFor cs) = cs := by
  obtain ⟨text, -, within, -⟩ := h
  obtain ⟨noFirst, noMore, c, rest, same, noBreak⟩ := within rfl
  rw [noFirst, noMore, List.append_nil, List.append_nil, same] at text
  have strip : chompingFor cs = .strip := by
    rw [chompingFor, ← text, List.reverse_reverse]
    cases rest <;> simp [noBreak]
  rw [strip, BlockText.close, same, text]

theorem chompingFor_concat (before : List Char) (breaks : isBreak c = true) :
    chompingFor (before ++ [c]) = if before.getLast?.all isBreak then .keep else .clip := by
  rcases List.eq_nil_or_concat before with rfl | ⟨rest, b, rfl⟩
  · simp [chompingFor, breaks]
  · simp [chompingFor, breaks]

theorem BlockText.Holds.close_of_margin (h : t.Holds false cs) : t.close (chompingFor cs) = cs := by
  obtain ⟨text, breaks, -, margin⟩ := h
  rcases List.eq_nil_or_concat t.more with more | ⟨more, last, same⟩
  · rw [more, List.append_nil] at text
    rcases List.eq_nil_or_concat t.first with first | ⟨first, last, same⟩
    · rw [margin rfl first, first] at text
      rw [← text, chompingFor, List.reverse_nil]
      simp [BlockText.close, margin rfl first]
    · have lastBreaks : isBreak last = true := breaks last (by simp [same])
      rw [← text, same, List.concat_eq_append, ← List.append_assoc, chompingFor_concat _ lastBreaks]
      split <;> simp [BlockText.close, same, more]
  · have lastBreaks : isBreak last = true := breaks last (by simp [same])
    have keep : chompingFor cs = .keep := by
      rw [← text, same, List.concat_eq_append, ← List.append_assoc,
        chompingFor_concat _ lastBreaks, if_pos]
      rcases List.eq_nil_or_concat (t.first ++ more) with none | ⟨before, b, found⟩
      · obtain ⟨first, rfl⟩ := List.append_eq_nil_iff.mp none
        simp [margin rfl first, first]
      · rw [List.append_assoc, found, List.concat_eq_append, ← List.append_assoc,
          List.getLast?_concat]
        exact breaks b (by rw [same, List.concat_eq_append, ← List.append_assoc, found]; simp)
    rw [keep, BlockText.close, text]

/-! The header. -/

def blankFirst (cs : List Char) : Bool := cs.head?.any fun c => c = ' ' || isBreak c

theorem blockHeader_literalHints (cs rest : List Char) (p : Position) :
    blockHeader (literalHints cs ++ '\n' :: rest) p =
      some (⟨chompingFor cs, if blankFirst cs then some 2 else none⟩,
        ⟨'\n' :: rest, p.through (literalHints cs)⟩) := by
  have hints : literalHints cs = (if blankFirst cs then ['2'] else []) ++
      match chompingFor cs with
      | .strip => ['-']
      | .keep => ['+']
      | .clip => [] := by
    rw [literalHints, chompingFor, blankFirst]
    congr 1
    rcases cs.reverse with _ | ⟨last, _ | ⟨before, rest⟩⟩
    · rfl
    · cases h : isBreak last <;> simp [h]
    · cases h : isBreak last <;> cases h' : isBreak before <;> simp [h, h']
  rw [hints]
  cases blankFirst cs <;> cases chompingFor cs <;> rfl

theorem blankLines_spaces {n : Nat} (margin : p.column + n = indent) (notSpacing : isSpacing c = false)
    (noBreak : isBreak c = false) : blankLines (spaces n ++ c :: rest) p 0 [] =
      some ([], indent, ⟨c :: rest, p.through (spaces n)⟩) := by
  simp only [isSpacing, Bool.or_eq_false_iff, decide_eq_false_iff_not] at notSpacing
  induction n generalizing p with
  | zero =>
    rw [spaces_zero, List.nil_append, blankLines]
    · simp only [notSpacing, noBreak, Bool.false_eq_true, reduceIte, Nat.zero_max]
      rw [← margin]
      rfl
    · rintro _ rfl
      exact absurd noBreak (by decide)
  | succ n ih =>
    rw [spaces_succ, List.cons_append, blankLines, Position.through_cons (by decide)]
    · rw [if_pos rfl]
      exact ih (by simp only [Position.next]; omega)
    · simp

theorem restOfLine_newline (rest : List Char) (p : Position) :
    restOfLine false ('\n' :: rest) p = some ⟨rest, p.through ['\n']⟩ := by
  rw [restOfLine, if_pos (by decide)]
  · rfl
  · simp

theorem literalBody_head (indent : Nat) (text : cs ≠ []) (noBlank : blankFirst cs = false)
    (printable : ∀ c ∈ cs, isPrintable c = true) : ∃ c rest,
      literalBody indent true cs = spaces indent ++ c :: rest ∧ isSpacing c = false ∧
        isBreak c = false := by
  cases cs with
  | nil => contradiction
  | cons c cs =>
    simp only [blankFirst, List.head?_cons, Option.any_some, Bool.or_eq_false_iff,
      decide_eq_false_iff_not] at noBlank
    refine ⟨c, literalBody indent false cs, literalBody_cons noBlank.2 true, ?_, noBlank.2⟩
    rw [← Bool.not_eq_true]
    intro spacing
    exact noBlank.1 (eq_space_of_isSpacing (printable c List.mem_cons_self) spacing)

/-- The line feed behind the body, unless the text brings one. -/
def literalEnd (cs : List Char) : List Char := if cs.getLast?.any isBreak then [] else ['\n']

theorem blockLines_literal (printable : ∀ c ∈ cs, isPrintable c = true) (text : cs ≠ [])
    (ahead : LineAhead d next) (less : d < indent) (margin : p.column = 0) :
    ∃ t, t.close (chompingFor cs) = cs ∧
      blockLines true indent false
          (literalBody indent true cs ++ (literalEnd cs ++ (spaces d ++ next))) p .start =
        some (t, ⟨next, p.through (literalBody indent true cs ++ literalEnd cs ++ spaces d)⟩) := by
  obtain ⟨t, holds, column, read⟩ := blockLines_body indent
    (literalEnd cs ++ (spaces d ++ next)) printable BlockText.holds_start fun _ => margin
  obtain ⟨before, last, rfl⟩ := (List.eq_nil_or_concat cs).resolve_left text
  rw [List.concat_eq_append] at *
  rw [Bool.not_false] at column read
  cases breaks : isBreak last with
  | true =>
    have state : endsInLine false (before ++ [last]) = false := by simp [endsInLine, breaks]
    have ends : literalEnd (before ++ [last]) = [] := by simp [literalEnd, breaks]
    rw [state] at holds read column
    rw [ends] at read ⊢
    refine ⟨t, holds.close_of_margin, ?_⟩
    rw [read, List.nil_append, blockLines_ahead ahead less (column rfl), List.append_nil,
      Position.through_append]
  | false =>
    have state : endsInLine false (before ++ [last]) = true := by simp [endsInLine, breaks]
    have ends : literalEnd (before ++ [last]) = ['\n'] := by simp [literalEnd, breaks]
    rw [state] at holds read
    rw [ends] at read ⊢
    refine ⟨_, holds.close_of_inLine ['\n'], ?_⟩
    rw [read, List.singleton_append, blockLines_break (by decide) (by decide),
      blockLines_ahead ahead less rfl, Position.through_append, Position.through_append]
    rfl

/-- Behind the opening mark. The enclosing block stands in column `i`, and the next line at most. -/
theorem blockText_literal {i : Nat} (allowed : literalAllowed cs = true) (text : cs ≠ [])
    (ahead : LineAhead d next) (less : d ≤ i) (p : Position) :
    blockText true (some i) ⟨literalHints cs ++ '\n' ::
        (literalBody (i + 2) true cs ++ (literalEnd cs ++ (spaces d ++ next))), p⟩ =
      some (cs, ⟨next, p.through (literalHints cs ++ '\n' ::
        (literalBody (i + 2) true cs ++ literalEnd cs ++ spaces d))⟩) := by
  simp only [literalAllowed, Bool.and_eq_true, List.all_eq_true] at allowed
  have printable := allowed.1.1
  obtain ⟨t, closed, read⟩ := blockLines_literal (p := (p.through (literalHints cs)).through ['\n'])
    printable text ahead (Nat.lt_of_le_of_lt less (by omega : i < i + 2)) rfl
  simp only [blockText, blockHeader_literalHints, Option.bind_eq_bind, Option.bind_some,
    restOfLine_newline]
  have behind : (p.through (literalHints cs ++ '\n' ::
      (literalBody (i + 2) true cs ++ literalEnd cs ++ spaces d))) =
      ((p.through (literalHints cs)).through ['\n']).through
        (literalBody (i + 2) true cs ++ literalEnd cs ++ spaces d) := by
    rw [← Position.through_append, ← Position.through_append, List.append_assoc]
    rfl
  rw [behind]
  cases blank : blankFirst cs with
  | true =>
    rw [BlockText.start] at read
    simp only [reduceIte, Option.getD_some, read]
    simp [closed]
  | false =>
    obtain ⟨c, rest, body, notSpacing, noBreak⟩ := literalBody_head (i + 2) text blank printable
    have column : ((p.through (literalHints cs)).through ['\n']).column + (i + 2) = i + 2 :=
      Nat.zero_add _
    have widest : max (i + 2) (i + 1) = i + 2 := by omega
    rw [body, List.append_assoc, blockLines_spaces (Nat.le_of_eq column), List.cons_append,
      BlockText.start] at read
    simp only [Bool.false_eq_true, reduceIte]
    rw [body, List.append_assoc, List.cons_append, blankLines_spaces column notSpacing noBreak]
    simp only [Option.bind_some, widest, read]
    simp [closed]

end TrustedAppId.Markup
