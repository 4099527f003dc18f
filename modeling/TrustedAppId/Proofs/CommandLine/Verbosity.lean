import TrustedAppId.CommandLine.Reading
import TrustedAppId.Proofs.Script.Contexts
/-! Arguments that only ask for more events. Left out of a command line that is accepted, they leave
one that is accepted as well and asks for the same in all other respects. They settle the option in
front of them, so the line without them is read with that option still open. -/
namespace TrustedAppId.CommandLine

/-- The flag for more events by its name, or as often as there are letters. -/
def isVerbose (text : String) : Bool :=
  text = "--verbose" ||
    match text.toList with
    | '-' :: c :: rest => (c :: rest).all (· = 'v')
    | _ => false

/-- The arguments that ask for anything else. -/
def essential (arguments : List String) : List String :=
  arguments.filter fun text => !isVerbose text

theorem essential_of_isVerbose {text : String} (verbose : isVerbose text = true)
    (rest : List String) : essential (text :: rest) = essential rest :=
  List.filter_cons_of_neg (by rw [verbose]; decide)

theorem essential_of_not_isVerbose {text : String} (other : isVerbose text = false)
    (rest : List String) : essential (text :: rest) = text :: essential rest :=
  List.filter_cons_of_pos (by rw [other]; rfl)

/-! The form of an argument. -/

theorem toList_of_long {text name : String} (form : Argument.ofString text = .long name none) :
    text.toList = '-' :: '-' :: name.toList := by
  unfold Argument.ofString at form
  split at form
  · cases form
  · next rest shape =>
    split at form
    · cases form
    · obtain rfl := (Argument.long.inj form).1
      rw [shape, String.toList_ofList]
  · cases form
  · cases form

theorem toList_of_shorts {text : String} {letters : List Char}
    (form : Argument.ofString text = .shorts letters) :
    ∃ c rest, letters = c :: rest ∧ text.toList = '-' :: letters := by
  unfold Argument.ofString at form
  split at form
  · cases form
  · split at form
    · cases form
    · cases form
  · next c rest _ _ shape =>
    obtain rfl := Argument.shorts.inj form
    exact ⟨c, rest, rfl, shape⟩
  · cases form

theorem ofString_verbose : Argument.ofString "--verbose" = .long "verbose" none := rfl

/-- The forms of the arguments that only ask for more events. -/
theorem isVerbose_iff {text : String} : isVerbose text = true ↔
    Argument.ofString text = .long "verbose" none ∨
      ∃ letters, Argument.ofString text = .shorts letters ∧ ∀ c ∈ letters, c = 'v' := by
  rw [isVerbose, Bool.or_eq_true, decide_eq_true_eq]
  constructor
  · rintro (rfl | all)
    · exact .inl ofString_verbose
    · split at all
      · next c rest shape =>
        have letters : ∀ letter ∈ c :: rest, letter = 'v' := by
          simpa only [List.all_eq_true, decide_eq_true_eq] using all
        obtain rfl : c = 'v' := letters c (.head _)
        refine .inr ⟨_, ?_, letters⟩
        simp [Argument.ofString, shape]
      · contradiction
  · rintro (long | ⟨letters, shorts, all⟩)
    · left
      rw [← String.toList_inj, toList_of_long long]
      rfl
    · obtain ⟨c, rest, rfl, shape⟩ := toList_of_shorts shorts
      right
      simpa only [shape, List.all_eq_true, decide_eq_true_eq] using all

theorem isVerbose_of_command {text : String} (named : commandNames.contains text = true) :
    isVerbose text = false := by
  simp only [commandNames, List.contains_iff_mem, List.mem_cons, List.not_mem_nil, or_false]
    at named
  rcases named with rfl | rfl | rfl <;> decide

/-! Two states of reading that will come to the same. -/

open Progress

/-- The same options have been given once the last one is settled, and the same option waits for its
value, if any. -/
structure Agrees (p q : Progress) : Prop where
  closed : q.closed = p.closed
  awaiting : ∀ o, q.pending = some (o, none) ↔ p.pending = some (o, none)
  given : ∀ o, p.pending = some (o, none) → q.given = p.given
  settled : q.settle.map Progress.given = p.settle.map Progress.given

variable {p q p' : Progress}

theorem eq_ok_of_map_given {result : Except UsageFault Progress}
    (same : result.map Progress.given = (Except.ok p').map Progress.given) :
    ∃ q', result = .ok q' ∧ q'.given = p'.given := by
  cases result with
  | error fault => cases same
  | ok q' => exact ⟨q', rfl, Except.ok.inj same⟩

theorem map_accept (given : q.given = p.given) (o : Valued) (value : String) :
    (q.accept o value).map Progress.given = (p.accept o value).map Progress.given := by
  unfold accept value?
  rw [given]
  split
  · rfl
  split
  · rfl
  · rfl

theorem map_settle (given : q.given = p.given) (pending : q.pending = p.pending) :
    q.settle.map Progress.given = p.settle.map Progress.given := by
  unfold settle
  rw [pending]
  split
  · exact congrArg Except.ok given
  · rfl
  · exact map_accept (p := { p with pending := none }) (q := { q with pending := none }) given _ _

theorem Agrees.of_same (closed : q.closed = p.closed) (given : q.given = p.given)
    (pending : q.pending = p.pending) : Agrees p q :=
  ⟨closed, fun o => by rw [pending], fun _ _ => given, map_settle given pending⟩

theorem pending_of_accept {o : Valued} {value : String} (accepted : p.accept o value = .ok p') :
    p'.pending = p.pending ∧ p'.closed = p.closed := by
  unfold accept at accepted
  split at accepted
  · cases accepted
  split at accepted
  · cases accepted
  · obtain rfl := Except.ok.inj accepted
    exact ⟨rfl, rfl⟩

theorem pending_of_settle (settled : p.settle = .ok p') :
    p'.pending = none ∧ p'.closed = p.closed ∧ ∀ o, p.pending ≠ some (o, none) := by
  unfold settle at settled
  split at settled
  · next none =>
    obtain rfl := Except.ok.inj settled
    exact ⟨none, rfl, fun o => by rw [none]; nofun⟩
  · cases settled
  · next o value some =>
    obtain ⟨pending, closed⟩ := pending_of_accept settled
    exact ⟨pending, closed, fun o => by rw [some]; nofun⟩

theorem verbose_of_flag {f : Flag} (flagged : p.flag f = .ok p') : f = .verbose := by
  obtain ⟨p₁, -, flagged⟩ := bind_eq_ok_iff.mp flagged
  cases f with
  | verbose => rfl
  | help | version => cases flagged

theorem verbose_of_readShorts {scope : Scope} {letters : List Char}
    (read : readShorts scope p letters = .ok p') : ∀ c ∈ letters, c = 'v' := by
  induction letters generalizing p with
  | nil =>
    intro c mem
    contradiction
  | cons c rest ih =>
    rw [readShorts] at read
    split at read
    · next f short =>
      obtain ⟨p₁, flagged, later⟩ := bind_eq_ok_iff.mp read
      obtain rfl := verbose_of_flag flagged
      have found := List.find?_some short
      simp only [Bool.and_eq_true, decide_eq_true_eq] at found
      exact List.forall_mem_cons.mpr ⟨found.2.symm, ih later⟩
    · cases read

theorem awaits_iff : p.awaits = true ↔ ∃ o, p.pending = some (o, none) := by
  unfold awaits
  split
  · next o some =>
    exact ⟨fun _ => ⟨o, some⟩, fun _ => rfl⟩
  · next other =>
    constructor
    · exact nofun
    · rintro ⟨o, some⟩
      exact absurd some (other o)

/-- The same subcommand, if any, and the same options on either side of it. -/
structure SameReading (r r' : Reading) : Prop where
  top : r'.top.given = r.top.given
  sub : r'.sub.map (fun (scope, p) => (scope, p.given)) =
    r.sub.map fun (scope, p) => (scope, p.given)

namespace Agrees

variable (h : Agrees p q)

include h

theorem settle_eq_ok (settled : p.settle = .ok p') :
    ∃ q', q.settle = .ok q' ∧ q'.given = p'.given ∧ q'.pending = p'.pending ∧
      q'.closed = p'.closed := by
  obtain ⟨q', settled', given⟩ := eq_ok_of_map_given (settled ▸ h.settled)
  obtain ⟨pending, closed, -⟩ := pending_of_settle settled
  obtain ⟨pending', closed', -⟩ := pending_of_settle settled'
  exact ⟨q', settled', given, pending'.trans pending.symm,
    closed'.trans (h.closed.trans closed.symm)⟩

theorem awaits_eq : q.awaits = p.awaits := by
  rw [Bool.eq_iff_iff, awaits_iff, awaits_iff]
  simp only [h.awaiting]

theorem finish_eq_ok (finished : p.finish = .ok p') :
    ∃ q', q.finish = .ok q' ∧ q'.given = p'.given := by
  obtain ⟨p₁, settled, checked⟩ := bind_eq_ok_iff.mp finished
  obtain ⟨q₁, settled', given, -, -⟩ := h.settle_eq_ok settled
  unfold checkConflict at checked
  split at checked
  · cases checked
  · next free =>
    obtain rfl := Except.ok.inj checked
    refine ⟨q₁, bind_eq_ok_iff.mpr ⟨q₁, settled', ?_⟩, given⟩
    rw [checkConflict, given]
    split
    · next first second _ conflict => exact absurd conflict (free first second _)
    · rfl

/-- A flag for more events settles the last option and gives none. -/
theorem of_flag (flagged : p.flag .verbose = .ok p') : Agrees p' q := by
  obtain ⟨p₁, settled, flagged⟩ := bind_eq_ok_iff.mp flagged
  obtain rfl := Except.ok.inj flagged
  obtain ⟨pending, closed, waits⟩ := pending_of_settle settled
  refine ⟨h.closed.trans closed.symm, ?_, ?_, ?_⟩
  · intro o
    rw [h.awaiting]
    simp only [waits o, pending, reduceCtorEq]
  · intro o waits'
    simp only [pending, reduceCtorEq] at waits'
  · rw [h.settled, settled, Progress.settle]
    simp only [pending]
    rfl

theorem of_shorts {scope : Scope} {letters : List Char} (all : ∀ c ∈ letters, c = 'v')
    (read : readShorts scope p letters = .ok p') : Agrees p' q := by
  induction letters generalizing p with
  | nil => exact Except.ok.inj read ▸ h
  | cons c rest ih =>
    obtain rfl : c = 'v' := all c (.head _)
    have short : scope.shortFlag? 'v' = some .verbose := by cases scope <;> rfl
    rw [readShorts, short] at read
    obtain ⟨p₁, flagged, read⟩ := bind_eq_ok_iff.mp read
    exact ih (h.of_flag flagged) (fun c mem => all c (.tail _ mem)) read

/-- An argument that only asks for more events changes nothing. -/
theorem of_isVerbose {scope : Scope} {text : String} (verbose : isVerbose text = true)
    (read : readArgument scope p text = .ok p') : Agrees p' q := by
  unfold readArgument at read
  split at read
  · cases read
  rcases isVerbose_iff.mp verbose with long | ⟨letters, shorts, all⟩
  · rw [long] at read
    have none : scope.valued? "verbose" = none := by cases scope <;> decide
    have some : scope.longFlag? "verbose" = some .verbose := by cases scope <;> decide
    simp only [readLong, none, some] at read
    exact h.of_flag read
  · rw [shorts] at read
    exact h.of_shorts all read

theorem readLong_eq_ok {scope : Scope} {name : String} {value : Option String}
    (other : ¬ (name = "verbose" ∧ value = none)) (read : readLong scope p name value = .ok p') :
    ∃ q', readLong scope q name value = .ok q' ∧ Agrees p' q' := by
  unfold readLong at read ⊢
  split at read
  · next o _ =>
    obtain ⟨p₁, settled, read⟩ := bind_eq_ok_iff.mp read
    obtain ⟨q₁, settled', given, pending, closed⟩ := h.settle_eq_ok settled
    cases value with
    | none =>
      obtain rfl := Except.ok.inj read
      exact ⟨_, bind_eq_ok_iff.mpr ⟨q₁, settled', rfl⟩, .of_same closed (by exact given) rfl⟩
    | some value =>
      have accepted' : p₁.accept o value = .ok p' := read
      obtain ⟨q', accepted, given'⟩ := eq_ok_of_map_given (accepted' ▸ map_accept given o value)
      obtain ⟨pending₁, closed₁⟩ := pending_of_accept accepted'
      obtain ⟨pending₂, closed₂⟩ := pending_of_accept accepted
      exact ⟨q', bind_eq_ok_iff.mpr ⟨q₁, settled', accepted⟩,
        .of_same (closed₂.trans (closed.trans closed₁.symm)) given'
          (pending₂.trans (pending.trans pending₁.symm))⟩
  · next f _ flag =>
    cases value with
    | some value => cases read
    | none =>
      obtain rfl := verbose_of_flag read
      have found := List.find?_some flag
      simp only [Bool.and_eq_true, decide_eq_true_eq] at found
      exact absurd ⟨found.2.symm, rfl⟩ other
  · cases read

/-- An argument that asks for anything else leads on to the same. -/
theorem readArgument_eq_ok {scope : Scope} {text : String} (other : isVerbose text = false)
    (read : readArgument scope p text = .ok p') :
    ∃ q', readArgument scope q text = .ok q' ∧ Agrees p' q' := by
  unfold readArgument at read ⊢
  rw [h.closed]
  split at read
  · cases read
  next opened =>
  rw [if_neg opened]
  cases form : Argument.ofString text with
  | divider =>
    rw [form] at read
    obtain rfl := Except.ok.inj read
    have settled := (map_settle (p := q) (q := { q with closed := true }) rfl rfl).trans
      (h.settled.trans (map_settle (p := { p with closed := true }) (q := p) rfl rfl))
    exact ⟨_, rfl, rfl, h.awaiting, h.given, settled⟩
  | long name value =>
    rw [form] at read
    refine h.readLong_eq_ok ?_ read
    rintro ⟨rfl, rfl⟩
    rw [isVerbose_iff.mpr (.inl form)] at other
    contradiction
  | shorts letters =>
    rw [form] at read
    have all := verbose_of_readShorts read
    rw [isVerbose_iff.mpr (.inr ⟨letters, form, all⟩)] at other
    contradiction
  | word =>
    rw [form] at read
    dsimp only at read ⊢
    split at read
    · next o waits =>
      obtain rfl := Except.ok.inj read
      rw [(h.awaiting o).mpr waits]
      exact ⟨_, rfl, .of_same rfl (h.given o waits) rfl⟩
    · cases read

theorem readScope_eq_ok {scope : Scope} {arguments : List String}
    (read : readScope scope p arguments = .ok p') :
    ∃ q', readScope scope q (essential arguments) = .ok q' ∧ q'.given = p'.given := by
  induction arguments generalizing p q with
  | nil => exact h.finish_eq_ok read
  | cons text rest ih =>
    obtain ⟨p₁, first, later⟩ := bind_eq_ok_iff.mp read
    cases verbose : isVerbose text with
    | true =>
      rw [essential_of_isVerbose verbose]
      exact ih (h.of_isVerbose verbose first) later
    | false =>
      rw [essential_of_not_isVerbose verbose]
      obtain ⟨q₁, first', agrees⟩ := h.readArgument_eq_ok verbose first
      obtain ⟨q', later', given⟩ := ih agrees later
      exact ⟨q', bind_eq_ok_iff.mpr ⟨q₁, first', later'⟩, given⟩

theorem readTop_eq_ok {arguments : List String} {r : Reading} (read : readTop p arguments = .ok r) :
    ∃ r', readTop q (essential arguments) = .ok r' ∧ SameReading r r' := by
  induction arguments generalizing p q with
  | nil =>
    obtain ⟨p', finished, read⟩ := bind_eq_ok_iff.mp read
    obtain rfl := Except.ok.inj read
    obtain ⟨q', finished', given⟩ := h.finish_eq_ok finished
    exact ⟨⟨q', none⟩, bind_eq_ok_iff.mpr ⟨q', finished', rfl⟩, given, rfl⟩
  | cons text rest ih =>
    rw [readTop] at read
    dsimp only at read
    split at read
    · next command =>
      split at read
      · cases read
      next noHelp =>
      obtain ⟨sub, subRead, read⟩ := bind_eq_ok_iff.mp read
      obtain ⟨p', finished, read⟩ := bind_eq_ok_iff.mp read
      obtain rfl := Except.ok.inj read
      -- Behind the subcommand reading starts anew; nothing in front of it is open there.
      have start : Agrees .start .start := .of_same rfl rfl rfl
      obtain ⟨sub', subRead', given⟩ := start.readScope_eq_ok subRead
      obtain ⟨q', finished', given'⟩ := h.finish_eq_ok finished
      have named : commandNames.contains text = true := (Bool.and_eq_true_iff.mp command).2
      rw [essential_of_not_isVerbose (isVerbose_of_command named)]
      refine ⟨⟨q', some (if text = "verify" then .verify else .generate, sub')⟩, ?_, given', ?_⟩
      · rw [readTop]
        dsimp only
        rw [h.awaits_eq, h.closed, if_pos command, if_neg noHelp]
        exact bind_eq_ok_iff.mpr ⟨sub', subRead', bind_eq_ok_iff.mpr ⟨q', finished', rfl⟩⟩
      · exact congrArg (fun given => some (_, given)) given
    · next other =>
      obtain ⟨p₁, first, later⟩ := bind_eq_ok_iff.mp read
      cases verbose : isVerbose text with
      | true =>
        rw [essential_of_isVerbose verbose]
        exact ih (h.of_isVerbose verbose first) later
      | false =>
        rw [essential_of_not_isVerbose verbose]
        obtain ⟨q₁, first', agrees⟩ := h.readArgument_eq_ok verbose first
        obtain ⟨r', later', same⟩ := ih agrees later
        refine ⟨r', ?_, same⟩
        rw [readTop]
        dsimp only
        rw [h.awaits_eq, h.closed, if_neg other]
        exact bind_eq_ok_iff.mpr ⟨q₁, first', later'⟩

end Agrees

theorem SameReading.commandLine {r r' : Reading} (same : SameReading r r') :
    r'.commandLine = { r.commandLine with verbosity := r'.commandLine.verbosity } := by
  obtain ⟨top, sub⟩ := r
  obtain ⟨top', sub'⟩ := r'
  obtain ⟨sameTop, sameSub⟩ := same
  have values {p q : Progress} (given : q.given = p.given) (o : Valued) :
      q.value? o = p.value? o := by
    rw [value?, value?, given]
  cases sub with
  | none =>
    obtain rfl : sub' = none := Option.map_eq_none_iff.mp sameSub
    simp only [Reading.commandLine, Reading.explicit, Reading.shared?, cassettes, values sameTop,
      Option.bind_none, Option.map_none]
  | some entry =>
    obtain ⟨scope, p⟩ := entry
    obtain ⟨⟨scope', q⟩, rfl, pair⟩ := Option.map_eq_some_iff.mp sameSub
    obtain ⟨rfl, given⟩ := Prod.mk.inj pair
    simp only [Reading.commandLine, Reading.explicit, Reading.shared?, cassettes, values sameTop,
      values given, Option.bind_some, Option.map_some]

/-- Without the arguments that only ask for more events, a command line asks for the same. -/
theorem read_essential {arguments : List String} {line : CommandLine}
    (accepted : read arguments = .ok line) :
    ∃ verbosity, read (essential arguments) = .ok { line with verbosity } := by
  obtain ⟨r, read, accepted⟩ := bind_eq_ok_iff.mp accepted
  obtain rfl := Except.ok.inj accepted
  have start : Agrees .start .start := .of_same rfl rfl rfl
  obtain ⟨r', read', same⟩ := start.readTop_eq_ok read
  refine ⟨r'.commandLine.verbosity, bind_eq_ok_iff.mpr ⟨r', read', ?_⟩⟩
  exact congrArg Except.ok same.commandLine

/-- Command lines that differ only in how often they ask for more events are otherwise equal. -/
theorem eq_of_essential {arguments arguments' : List String} {line line' : CommandLine}
    (first : read arguments = .ok line) (second : read arguments' = .ok line')
    (same : essential arguments' = essential arguments) :
    line' = { line with verbosity := line'.verbosity } := by
  obtain ⟨_, reduced⟩ := read_essential first
  obtain ⟨_, reduced'⟩ := read_essential second
  rw [same, reduced, Except.ok.injEq, CommandLine.mk.injEq] at reduced'
  obtain ⟨explicit, top, directory, variableName, macroName, -⟩ := reduced'
  rw [explicit, top, directory, variableName, macroName]

end TrustedAppId.CommandLine
