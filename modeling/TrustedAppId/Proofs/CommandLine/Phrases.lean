import TrustedAppId.Proofs.CommandLine.Clauses
import TrustedAppId.Proofs.Program.Outcome
/-! Phrases: clauses, and behind them a subcommand with clauses of its own, if any. The clauses on
either side are read by themselves; only the values of shared options are looked up on both sides. A
word that is the name of a subcommand is one only where no option waits for its value. -/
namespace TrustedAppId.CommandLine

inductive Subcommand where
  | generate
  | verify
deriving DecidableEq

namespace Subcommand

def name : Subcommand → String
  | .generate => "generate"
  | .verify => "verify"

def scope : Subcommand → Scope
  | .generate => .generate
  | .verify => .verify

end Subcommand

structure Phrase where
  front : List Clause
  behind : Option (Subcommand × List Clause)

namespace Phrase

def arguments (p : Phrase) : List String :=
  Clause.argumentsOf p.front ++
    match p.behind with
    | none => []
    | some (sub, clauses) => sub.name :: Clause.argumentsOf clauses

/-- The phrases that can be read. -/
structure Accepted (p : Phrase) : Prop where
  front : Clause.Consistent p.front
  behind : ∀ sub clauses, p.behind = some (sub, clauses) → Clause.Consistent clauses ∧
    (sub = .verify → ∀ o ∈ Clause.options clauses, o.isCassette = false)

/-- The value behind the subcommand if there is one, or else the one in front of it. -/
def shared? (p : Phrase) (o : Valued) : Option String :=
  (p.behind.bind fun (_, clauses) => Clause.value? clauses o).or (Clause.value? p.front o)

/-- How many times more events are asked for. The other side counts only if this one does not. -/
def loudness (p : Phrase) : Nat :=
  match p.behind with
  | none => Clause.loudness p.front
  | some (_, clauses) =>
    if Clause.loudness clauses = 0 then Clause.loudness p.front else Clause.loudness clauses

def explicit (p : Phrase) : Option Command :=
  p.behind.map fun (sub, clauses) => match sub with
    | .generate => .generate (Clause.cassettes clauses)
    | .verify => .verify

def commandLine (p : Phrase) : CommandLine where
  explicit := p.explicit
  top := Clause.cassettes p.front
  directory := p.shared? .directory
  variableName := (p.shared? .variableName).getD defaultName
  macroName := (p.shared? .macroName).getD defaultName
  verbosity := min Progress.countLimit p.loudness

/-- The command that a phrase asks for. -/
def command (p : Phrase) : Command :=
  match p.behind with
  | none => .generate (Clause.cassettes p.front)
  | some (.generate, clauses) => .generate (Clause.cassettes clauses)
  | some (.verify, _) => .verify

/-- A cassette stands in front of a subcommand. -/
def Misplaced (p : Phrase) : Prop :=
  p.behind.isSome = true ∧ ∃ o ∈ Clause.options p.front, o.isCassette = true

end Phrase

/-! Reading the part in front of a subcommand. -/

variable {p : Progress}

theorem readTop_of_awaits (waits : p.awaits = true) (text : String) (rest : List String) :
    readTop p (text :: rest) = readArgument .top p text >>= (readTop · rest) := by
  simp only [readTop, waits, Bool.not_true, Bool.false_and, Bool.false_eq_true, if_false]

theorem readTop_of_not_command {text : String} (other : commandNames.contains text = false)
    (rest : List String) :
    readTop p (text :: rest) = readArgument .top p text >>= (readTop · rest) := by
  simp only [readTop, other, Bool.and_false, Bool.false_eq_true, if_false]

/-- No argument of a clause is a subcommand: one without a dash is the value that an option waits
for. -/
theorem readTop_clause (between : Between p) (clause : Clause) (rest : List String) :
    readTop p (clause.arguments ++ rest) =
      readEach .top p clause.arguments >>= (readTop · rest) := by
  have single {text : String} (dash : text.toList.head? = some '-') :
      readTop p (text :: rest) = readEach .top p [text] >>= (readTop · rest) := by
    rw [readTop_of_not_command (not_command_of_dash dash), readEach_cons]
    cases readArgument .top p text <;> rfl
  cases clause with
  | joined o value =>
    apply single
    rw [String.append_assoc]
    exact head_long o ("=" ++ value.text)
  | verbose => exact single rfl
  | letters more =>
    apply single
    rw [String.toList_ofList]
    rfl
  | apart o value =>
    have dash : ("--" ++ o.long).toList.head? = some '-' := by
      cases o <;> rfl
    rw [Clause.arguments, List.cons_append, readTop_of_not_command (not_command_of_dash dash),
      readEach_cons, readArgument_long between.closed (ofString_apart o), readLong_long]
    split
    · cases p.settle with
      | error fault => rfl
      | ok q =>
        change readTop { q with pending := some (o, none) } (value.text :: rest) = _
        rw [readTop_of_awaits rfl]
        change _ = readEach .top { q with pending := some (o, none) } [value.text] >>= _
        rw [readEach_cons]
        cases readArgument .top { q with pending := some (o, none) } value.text <;> rfl
    · rfl

theorem readTop_clauses (between : Between p) (clauses : List Clause) (rest : List String) :
    readTop p (Clause.argumentsOf clauses ++ rest) =
      readEach .top p (Clause.argumentsOf clauses) >>= (readTop · rest) := by
  induction clauses generalizing p with
  | nil => rfl
  | cons clause clauses ih =>
    rw [Clause.argumentsOf, List.flatMap_cons, List.append_assoc, readTop_clause between,
      readEach_append, bind_assoc]
    cases read : readEach .top p clause.arguments with
    | error fault => rfl
    | ok q => exact ih (between_readEach between read)

theorem between_readClauses (between : Between p) {clauses : List Clause} {q : Progress}
    (read : readEach scope p (Clause.argumentsOf clauses) = .ok q) : Between q := by
  induction clauses generalizing p with
  | nil =>
    obtain rfl := Except.ok.inj read
    exact between
  | cons clause clauses ih =>
    rw [Clause.argumentsOf, List.flatMap_cons, readEach_append] at read
    obtain ⟨p', first, later⟩ := bind_eq_ok_iff.mp read
    exact ih (between_readEach between first) later

/-- Behind all clauses a subcommand is one. -/
theorem readTop_subcommand (between : Between p) (sub : Subcommand) (rest : List String) :
    readTop p (sub.name :: rest) = readScope sub.scope .start rest >>= fun q =>
      p.finish >>= fun top => pure ⟨top, some (sub.scope, q)⟩ := by
  cases sub with
  | generate =>
    simp only [readTop, between.awaits, between.closed]
    rfl
  | verify =>
    simp only [readTop, between.awaits, between.closed]
    rfl

/-- A subcommand has all options except that cassettes are none of verifying. -/
theorem hasValued_scope {sub : Subcommand} {options : List Valued} :
    (∀ o ∈ options, sub.scope.hasValued o = true) ↔
      (sub = .verify → ∀ o ∈ options, o.isCassette = false) := by
  cases sub with
  | generate =>
    constructor
    · exact nofun
    · exact fun _ _ _ => rfl
  | verify =>
    have known (o : Valued) : Scope.verify.hasValued o = true ↔ o.isCassette = false := by
      cases o <;> decide
    simp only [Subcommand.scope, known, forall_const]

namespace Phrase

theorem finish_front {clauses : List Clause} {q : Progress} :
    readEach .top .start (Clause.argumentsOf clauses) >>= Progress.finish = .ok q ↔
      Clause.Consistent clauses ∧ q = Clause.progress clauses := by
  rw [← readScope_eq, Clause.readScope_argumentsOf]
  have known : ∀ o ∈ Clause.options clauses, Scope.top.hasValued o = true := fun _ _ => rfl
  rw [and_iff_left known]

/-- A phrase is read if its two sides are. -/
theorem readTop_arguments (p : Phrase) {r : Reading} :
    readTop .start p.arguments = .ok r ↔ p.Accepted ∧
      r = ⟨Clause.progress p.front, p.behind.map fun (sub, clauses) =>
        (sub.scope, Clause.progress clauses)⟩ := by
  have start : Between .start := ⟨rfl, rfl⟩
  obtain ⟨front, behind⟩ := p
  rw [arguments, readTop_clauses start]
  cases behind with
  | none =>
    constructor
    · intro read
      obtain ⟨q, first, later⟩ := bind_eq_ok_iff.mp read
      obtain ⟨q', finished, later⟩ := bind_eq_ok_iff.mp later
      obtain rfl := Except.ok.inj later
      obtain ⟨consistent, rfl⟩ := finish_front.mp (bind_eq_ok_iff.mpr ⟨q, first, finished⟩)
      exact ⟨⟨consistent, nofun⟩, rfl⟩
    · rintro ⟨⟨consistent, -⟩, rfl⟩
      obtain ⟨q, first, finished⟩ := bind_eq_ok_iff.mp (finish_front.mpr ⟨consistent, rfl⟩)
      exact bind_eq_ok_iff.mpr ⟨q, first, bind_eq_ok_iff.mpr ⟨_, finished, rfl⟩⟩
  | some entry =>
    obtain ⟨sub, clauses⟩ := entry
    constructor
    · intro read
      obtain ⟨q, first, later⟩ := bind_eq_ok_iff.mp read
      rw [readTop_subcommand (between_readClauses start first)] at later
      obtain ⟨q₁, behind, later⟩ := bind_eq_ok_iff.mp later
      obtain ⟨q₂, finished, later⟩ := bind_eq_ok_iff.mp later
      obtain rfl := Except.ok.inj later
      obtain ⟨⟨consistent', known⟩, rfl⟩ := Clause.readScope_argumentsOf.mp behind
      obtain ⟨consistent, rfl⟩ := finish_front.mp (bind_eq_ok_iff.mpr ⟨q, first, finished⟩)
      refine ⟨⟨consistent, ?_⟩, rfl⟩
      rintro _ _ ⟨⟩
      exact ⟨consistent', hasValued_scope.mp known⟩
    · rintro ⟨⟨consistent, accepted⟩, rfl⟩
      obtain ⟨consistent', known⟩ := accepted sub clauses rfl
      have behind := Clause.readScope_argumentsOf.mpr
        ⟨⟨consistent', hasValued_scope.mpr known⟩, rfl⟩
      obtain ⟨q, first, finished⟩ := bind_eq_ok_iff.mp (finish_front.mpr ⟨consistent, rfl⟩)
      refine bind_eq_ok_iff.mpr ⟨q, first, ?_⟩
      rw [readTop_subcommand (between_readClauses start first)]
      exact bind_eq_ok_iff.mpr ⟨_, behind, bind_eq_ok_iff.mpr ⟨_, finished, rfl⟩⟩

/-- What is counted up to the limit on each side, and what counts for the phrase. -/
theorem verbosity_progress (p : Phrase) :
    ((p.behind.bind fun (_, clauses) => (Clause.progress clauses).verbosity).or
      (Clause.progress p.front).verbosity).getD 0 = min Progress.countLimit p.loudness := by
  have single (clauses : List Clause) : (Clause.progress clauses).verbosity.getD 0 =
      min Progress.countLimit (Clause.loudness clauses) := by
    by_cases quiet : Clause.loudness clauses = 0
    · simp only [Clause.progress, quiet, if_true, Option.getD_none, Nat.min_zero]
    · simp only [Clause.progress, quiet, if_false, Option.getD_some]
  obtain ⟨front, behind⟩ := p
  cases behind with
  | none => exact single front
  | some entry =>
    obtain ⟨sub, clauses⟩ := entry
    by_cases quiet : Clause.loudness clauses = 0
    · have none : (Clause.progress clauses).verbosity = none := if_pos quiet
      simp only [Option.bind_some, none, Option.none_or, single, loudness, quiet, if_true]
    · have some : (Clause.progress clauses).verbosity =
          some (min Progress.countLimit (Clause.loudness clauses)) := if_neg quiet
      simp only [Option.bind_some, some, Option.some_or, Option.getD_some, loudness, quiet, if_false]

theorem commandLine_progress (p : Phrase) :
    Reading.commandLine ⟨Clause.progress p.front, p.behind.map fun (sub, clauses) =>
      (sub.scope, Clause.progress clauses)⟩ = p.commandLine := by
  have verbosity := verbosity_progress p
  obtain ⟨front, behind⟩ := p
  cases behind with
  | none => exact congrArg (CommandLine.mk _ _ _ _ _) verbosity
  | some entry =>
    obtain ⟨sub, clauses⟩ := entry
    cases sub with
    | generate => exact congrArg (CommandLine.mk _ _ _ _ _) verbosity
    | verify => exact congrArg (CommandLine.mk _ _ _ _ _) verbosity

theorem read_eq_ok_iff (p : Phrase) {line : CommandLine} :
    read p.arguments = .ok line ↔ p.Accepted ∧ line = p.commandLine := by
  rw [read, bind_eq_ok_iff]
  constructor
  · rintro ⟨r, top, asked⟩
    obtain ⟨accepted, rfl⟩ := p.readTop_arguments.mp top
    obtain rfl := Except.ok.inj asked
    exact ⟨accepted, p.commandLine_progress⟩
  · rintro ⟨accepted, rfl⟩
    refine ⟨_, p.readTop_arguments.mpr ⟨accepted, rfl⟩, ?_⟩
    rw [commandLine_progress]
    rfl

/-- Options about cassettes that have been given. -/
theorem isSet_iff (clauses : List Clause) : (Clause.cassettes clauses).isSet = true ↔
    ∃ o ∈ Clause.options clauses, o.isCassette = true := by
  have given (o : Valued) : (Clause.value? clauses o).isSome = true ↔ o ∈ Clause.options clauses :=
    Clause.isSome_value?_iff
  rw [CassetteOptions.isSet, Bool.or_eq_true, Clause.cassettes, given, given]
  constructor
  · rintro (record | replay)
    · exact ⟨.record, record, rfl⟩
    · exact ⟨.replay, replay, rfl⟩
  · rintro ⟨o, mem, cassette⟩
    cases o with
    | record => exact .inl mem
    | replay => exact .inr mem
    | directory | variableName | macroName => cases cassette

theorem misplaced_iff (p : Phrase) :
    (p.commandLine.explicit.isSome && p.commandLine.top.isSet) = true ↔ p.Misplaced := by
  rw [Bool.and_eq_true, Misplaced, ← isSet_iff, show p.commandLine.explicit = p.behind.map _ from rfl,
    Option.isSome_map]
  rfl

theorem command_commandLine (p : Phrase) : p.commandLine.command = p.command := by
  obtain ⟨front, behind⟩ := p
  cases behind with
  | none => rfl
  | some entry =>
    obtain ⟨sub, clauses⟩ := entry
    cases sub with
    | generate => rfl
    | verify => rfl

/-- What is carried out never refuses options for where they stand. -/
theorem run_eq_misplaced_iff {p : Phrase} (accepted : p.Accepted) (home : String)
    (s : Surroundings) :
    ((Program.run home p.arguments).run s).1 = .error .misplacedOptions ↔ p.Misplaced := by
  have read := p.read_eq_ok_iff.mpr ⟨accepted, rfl⟩
  rw [← misplaced_iff]
  cases placed : p.commandLine.explicit.isSome && p.commandLine.top.isSet with
  | true =>
    rw [Program.run_of_misplaced read placed]
    exact iff_of_true rfl rfl
  | false =>
    rw [Program.run_of_read read placed]
    dsimp only
    constructor
    · intro refused
      cases carried : ((Program.carryOut (Program.emission home p.commandLine)
          p.commandLine.command).run.run s).1 with
      | ok u =>
        rw [carried] at refused
        cases refused
      | error fault =>
        rw [carried] at refused
        cases refused
    · exact nofun

/-- A phrase is read if the clauses on either side can stand together and verifying has no cassette.
It then asks for its own command with the values given, those behind the subcommand first; options
about cassettes in front of a subcommand are refused before anything is requested. A value may be
the name of a subcommand. -/
theorem read_phrase (p : Phrase) (home : String) :
    ((∃ line, read p.arguments = .ok line) ↔ p.Accepted) ∧
      (p.Accepted → read p.arguments = .ok p.commandLine ∧ p.commandLine.command = p.command ∧
        Program.emission home p.commandLine =
          ⟨(p.shared? .directory).getD (Program.defaultDirectory home),
            (p.shared? .variableName).getD defaultName, (p.shared? .macroName).getD defaultName⟩ ∧
        (∀ s, ((Program.run home p.arguments).run s).1 = .error .misplacedOptions ↔ p.Misplaced) ∧
        (p.Misplaced → Program.run home p.arguments = .done (.error .misplacedOptions))) := by
  constructor
  · constructor
    · rintro ⟨line, read⟩
      exact (p.read_eq_ok_iff.mp read).1
    · intro accepted
      exact ⟨_, p.read_eq_ok_iff.mpr ⟨accepted, rfl⟩⟩
  · intro accepted
    have read := p.read_eq_ok_iff.mpr ⟨accepted, rfl⟩
    refine ⟨read, p.command_commandLine, rfl, run_eq_misplaced_iff accepted home, ?_⟩
    intro misplaced
    rw [Program.run, read]
    exact if_pos (p.misplaced_iff.mpr misplaced)

/-- All values but one are names of subcommands, and only one such name is a subcommand. -/
def namesake : Phrase where
  front := [.apart .directory ⟨"generate", rfl, by decide⟩, .letters 1,
    .joined .record ⟨"help", rfl, by decide⟩]
  behind := some (.generate, [.verbose, .apart .macroName ⟨"verify", rfl, by decide⟩,
    .joined .directory ⟨"a=b", rfl, by decide⟩])

theorem read_phrase_namesake :
    namesake.arguments = ["--out-dir", "generate", "-vv", "--record=help", "generate", "--verbose",
      "--macro-name", "verify", "--out-dir=a=b"] ∧ namesake.Accepted ∧ namesake.Misplaced ∧
    read namesake.arguments = .ok
      { explicit := some (.generate .none), top := ⟨some "help", none⟩, directory := some "a=b",
        variableName := "TA_UUID", macroName := "verify", verbosity := 1 } ∧
    Program.run "" namesake.arguments = .done (.error .misplacedOptions) := by
  have front : Clause.Consistent namesake.front := ⟨by decide, by decide⟩
  have accepted : namesake.Accepted := by
    refine ⟨front, ?_⟩
    rintro _ _ ⟨⟩
    exact ⟨⟨by decide, by decide⟩, nofun⟩
  have misplaced : namesake.Misplaced := ⟨rfl, .record, by decide, rfl⟩
  obtain ⟨-, asked⟩ := read_phrase namesake ""
  obtain ⟨read, -, -, -, refused⟩ := asked accepted
  exact ⟨by decide, accepted, misplaced, read, refused misplaced⟩

end Phrase

end TrustedAppId.CommandLine
