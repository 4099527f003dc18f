import Mathlib.Algebra.GroupWithZero.Nat
import Mathlib.Data.List.Induction
import Mathlib.Data.List.Nodup
import TrustedAppId.Proofs.CommandLine.Verbosity
import TrustedAppId.Proofs.Text.Lines
/-! Clauses: an option with its value, in one argument or in two, or a flag for more events. Clauses
that stand in one scope are read if each option is one of the scope and given once, and if at most
one of them concerns cassettes. -/
namespace TrustedAppId.CommandLine

/-- A value that cannot be taken for an option. It may be the name of a subcommand. -/
structure Operand where
  text : String
  not_empty : text.isEmpty = false
  not_dashed : text.toList.head? ≠ some '-'

/-- Arguments that belong together. -/
inductive Clause where
  /-- An option and its value, one behind the other. -/
  | apart (o : Valued) (value : Operand)
  /-- An option and its value in one argument. -/
  | joined (o : Valued) (value : Operand)
  | verbose
  /-- The letter of the flag, and as many more of them. -/
  | letters (more : Nat)

namespace Clause

def arguments : Clause → List String
  | .apart o value => ["--" ++ o.long, value.text]
  | .joined o value => ["--" ++ o.long ++ "=" ++ value.text]
  | .verbose => ["--verbose"]
  | .letters more => [String.ofList ('-' :: List.replicate (more + 1) 'v')]

def given? : Clause → Option (Valued × String)
  | .apart o value | .joined o value => some (o, value.text)
  | .verbose | .letters _ => none

/-- How many times a clause asks for more events. -/
def louder : Clause → Nat
  | .apart .. | .joined .. => 0
  | .verbose => 1
  | .letters more => more + 1

/-- The options that are given, with their values. -/
def given (clauses : List Clause) : List (Valued × String) := clauses.filterMap given?

def options (clauses : List Clause) : List Valued := (given clauses).map Prod.fst

def value? (clauses : List Clause) (o : Valued) : Option String := (given clauses).lookup o

def cassettes (clauses : List Clause) : CassetteOptions :=
  ⟨value? clauses .record, value? clauses .replay⟩

def loudness (clauses : List Clause) : Nat := (clauses.map louder).sum

/-- Clauses that can stand together. -/
structure Consistent (clauses : List Clause) : Prop where
  once : (options clauses).Nodup
  exclusive : ¬ (.record ∈ options clauses ∧ .replay ∈ options clauses)

end Clause

/-! The form of the arguments. -/

theorem head_long (o : Valued) (rest : String) :
    ("--" ++ o.long ++ rest).toList.head? = some '-' := by
  rw [String.toList_append, String.toList_append]
  rfl

theorem not_command_of_dash {text : String} (dash : text.toList.head? = some '-') :
    commandNames.contains text = false := by
  rw [← Bool.not_eq_true, List.contains_iff_mem]
  intro named
  simp only [commandNames, List.mem_cons, List.not_mem_nil, or_false] at named
  rcases named with rfl | rfl | rfl
  · contradiction
  · contradiction
  · contradiction

theorem ofString_apart (o : Valued) : Argument.ofString ("--" ++ o.long) = .long o.long none := by
  cases o <;> rfl

theorem ofString_joined (o : Valued) (value : String) :
    Argument.ofString ("--" ++ o.long ++ "=" ++ value) = .long o.long (some value) := by
  have shape : ("--" ++ o.long ++ "=" ++ value).toList =
      '-' :: '-' :: (o.long.toList ++ '=' :: value.toList) := by
    simp [String.toList_append]
  have unmarked : '=' ∉ o.long.toList := by
    cases o <;> decide
  have split := Text.splitFirst_append unmarked value.toList
  have some : o.long.toList ≠ [] := by
    cases o <;> decide
  unfold Argument.ofString
  rw [shape]
  cases front : o.long.toList with
  | nil => exact absurd front some
  | cons c rest =>
    rw [front] at split
    simp only [List.cons_append] at split ⊢
    rw [split, ← front]
    simp only [String.ofList_toList]

theorem ofString_letters (more : Nat) :
    Argument.ofString (String.ofList ('-' :: List.replicate (more + 1) 'v')) =
      .shorts (List.replicate (more + 1) 'v') := by
  rw [Argument.ofString, String.toList_ofList, List.replicate_succ]
  rfl

theorem ofString_operand (value : Operand) : Argument.ofString value.text = .word := by
  have undashed := value.not_dashed
  unfold Argument.ofString
  split
  · next shape => exact absurd (congrArg List.head? shape) undashed
  · next shape => exact absurd (congrArg List.head? shape) undashed
  · next shape => exact absurd (congrArg List.head? shape) undashed
  · rfl

/-! The options of a scope. -/

theorem valued?_long (scope : Scope) (o : Valued) :
    scope.valued? o.long = if scope.hasValued o then some o else none := by
  cases scope <;> cases o <;> decide

theorem longFlag?_long (scope : Scope) (o : Valued) : scope.longFlag? o.long = none := by
  cases scope <;> cases o <;> decide

theorem valued?_verbose (scope : Scope) : scope.valued? "verbose" = none := by
  cases scope <;> decide

theorem longFlag?_verbose (scope : Scope) : scope.longFlag? "verbose" = some .verbose := by
  cases scope <;> decide

theorem shortFlag?_verbose (scope : Scope) : scope.shortFlag? 'v' = some .verbose := by
  cases scope <;> decide

/-! Reading clause by clause. -/

theorem toOption_eq_some_iff {ε α : Type} {x : Except ε α} {a : α} :
    x.toOption = some a ↔ x = .ok a := by
  cases x with
  | error fault => exact ⟨nofun, nofun⟩
  | ok b =>
    change some b = some a ↔ _
    rw [Option.some.injEq, Except.ok.injEq]

def readEach (scope : Scope) (p : Progress) (arguments : List String) : Except UsageFault Progress :=
  arguments.foldlM (readArgument scope) p

theorem readEach_cons (scope : Scope) (p : Progress) (text : String) (rest : List String) :
    readEach scope p (text :: rest) = readArgument scope p text >>= (readEach scope · rest) :=
  List.foldlM_cons ..

theorem readEach_append (scope : Scope) (p : Progress) (first second : List String) :
    readEach scope p (first ++ second) = readEach scope p first >>= (readEach scope · second) :=
  List.foldlM_append

theorem readScope_eq (scope : Scope) (p : Progress) (arguments : List String) :
    readScope scope p arguments = readEach scope p arguments >>= Progress.finish := by
  induction arguments generalizing p with
  | nil => rfl
  | cons text rest ih =>
    rw [readScope, readEach_cons]
    cases readArgument scope p text with
    | error fault => rfl
    | ok p' => exact ih p'

/-- Nothing is asked for that is still to come: no option waits for its value. -/
structure Between (p : Progress) : Prop where
  closed : p.closed = false
  awaits : p.awaits = false

open Progress

variable {scope : Scope} {p q : Progress}

/-- What has been settled, with this many more requests for more events. -/
def Progress.raise (q : Progress) (count : Nat) : Progress :=
  { q with verbosity := some (min countLimit (q.verbosity.getD 0 + count)) }

theorem raise_raise (q : Progress) (first second : Nat) :
    (q.raise first).raise second = q.raise (first + second) := by
  simp only [raise, Option.getD_some, Progress.mk.injEq, Option.some.injEq, true_and, and_true]
  omega

theorem flag_of_settle (settled : p.settle = .ok q) : p.flag .verbose = .ok (q.raise 1) := by
  rw [flag, settled]
  rfl

theorem settle_of_pending (none : q.pending = none) : q.settle = .ok q := by
  rw [settle, none]

theorem Between.of_pending (opened : q.closed = false) (none : q.pending = none) : Between q := by
  refine ⟨opened, ?_⟩
  simp only [Progress.awaits, none]

theorem readShorts_letters {more : Nat} (settled : p.settle = .ok q) :
    readShorts scope p (List.replicate (more + 1) 'v') = .ok (q.raise (more + 1)) := by
  induction more generalizing p q with
  | zero =>
    rw [List.replicate_succ, readShorts, shortFlag?_verbose]
    simp only [flag_of_settle settled]
    rfl
  | succ more ih =>
    have none := (pending_of_settle settled).1
    have next := ih (settle_of_pending (q := q.raise 1) none)
    rw [raise_raise, Nat.add_comm 1] at next
    rw [List.replicate_succ, readShorts, shortFlag?_verbose]
    simp only [flag_of_settle settled]
    exact next

/-- What a clause adds to what has been settled. -/
def Clause.add (scope : Scope) (q : Progress) : Clause → Option Progress
  | .apart o value | .joined o value =>
    if scope.hasValued o then (q.accept o value.text).toOption else none
  | .verbose => some (q.raise 1)
  | .letters more => some (q.raise (more + 1))

theorem readArgument_long (opened : p.closed = false) {text name : String} {value : Option String}
    (formed : Argument.ofString text = .long name value) :
    readArgument scope p text = readLong scope p name value := by
  simp only [readArgument, opened, formed, Bool.false_eq_true, if_false]

theorem readArgument_shorts (opened : p.closed = false) {text : String} {letters : List Char}
    (formed : Argument.ofString text = .shorts letters) :
    readArgument scope p text = readShorts scope p letters := by
  simp only [readArgument, opened, formed, Bool.false_eq_true, if_false]

/-- The value that an option waits for. -/
theorem readArgument_operand (opened : p.closed = false) {o : Valued}
    (pending : p.pending = some (o, none)) (value : Operand) :
    readArgument scope p value.text = .ok { p with pending := some (o, some value.text) } := by
  simp only [readArgument, opened, ofString_operand, pending, Bool.false_eq_true, if_false]

theorem readLong_long (p : Progress) (o : Valued) (value : Option String) :
    readLong scope p o.long value =
      if scope.hasValued o then
        p.settle >>= fun q => match value with
          | some value => q.accept o value
          | none => .ok { q with pending := some (o, none) }
      else .error (.unexpected ("--" ++ o.long)) := by
  unfold readLong
  rw [valued?_long, longFlag?_long]
  by_cases known : scope.hasValued o = true
  · rw [if_pos known, if_pos known]
    rfl
  · rw [if_neg known, if_neg known]

/-- An option whose value is the next argument stays open. -/
theorem readEach_apart (opened : p.closed = false) (o : Valued) (value : Operand) :
    readEach scope p (Clause.apart o value).arguments =
      if scope.hasValued o then
        p.settle.map fun q => { q with pending := some (o, some value.text) }
      else .error (.unexpected ("--" ++ o.long)) := by
  rw [Clause.arguments, readEach_cons, readArgument_long opened (ofString_apart o), readLong_long]
  split
  · cases settled : p.settle with
    | error fault => rfl
    | ok q =>
      have opened' : q.closed = false := (pending_of_settle settled).2.1.trans opened
      have value' := @readArgument_operand scope { q with pending := some (o, none) } opened' o rfl
        value
      change readEach scope { q with pending := some (o, none) } [value.text] = _
      rw [readEach_cons, value']
      rfl
  · rfl

theorem readEach_joined (opened : p.closed = false) (o : Valued) (value : Operand) :
    readEach scope p (Clause.joined o value).arguments =
      if scope.hasValued o then p.settle >>= fun q => q.accept o value.text
      else .error (.unexpected ("--" ++ o.long)) := by
  rw [Clause.arguments, readEach_cons, readArgument_long opened (ofString_joined o value.text),
    readLong_long]
  exact bind_pure _

theorem readEach_verbose (opened : p.closed = false) :
    readEach scope p Clause.verbose.arguments = p.settle.map fun q => q.raise 1 := by
  rw [Clause.arguments, readEach_cons, readArgument_long opened ofString_verbose]
  simp only [readLong, valued?_verbose, longFlag?_verbose]
  cases settled : p.settle with
  | error fault =>
    simp only [flag, settled]
    rfl
  | ok q =>
    simp only [flag_of_settle settled]
    rfl

theorem readEach_letters (opened : p.closed = false) (more : Nat) :
    readEach scope p (Clause.letters more).arguments = p.settle.map fun q => q.raise (more + 1) := by
  rw [Clause.arguments, readEach_cons, readArgument_shorts opened (ofString_letters more)]
  cases settled : p.settle with
  | error fault =>
    rw [List.replicate_succ, readShorts, shortFlag?_verbose]
    simp only [flag, settled]
    rfl
  | ok q =>
    rw [readShorts_letters settled]
    rfl

theorem settle_waiting (none : q.pending = none) (o : Valued) (value : String) :
    settle { q with pending := some (o, some value) } = q.accept o value := by
  have same : { q with pending := Option.none } = q := by
    rw [← none]
  simp only [settle, same]

theorem settle_accepted (none : q.pending = none) (o : Valued) (value : String) :
    q.accept o value >>= settle = q.accept o value := by
  cases accepted : q.accept o value with
  | error fault => rfl
  | ok q' => exact settle_of_pending ((pending_of_accept accepted).1.trans none)

theorem settle_raise (p : Progress) (count : Nat) :
    (p.settle.map (fun q => q.raise count) >>= settle).toOption =
      p.settle.toOption.bind fun q => some (q.raise count) := by
  cases settled : p.settle with
  | error fault => rfl
  | ok q =>
    have none := (pending_of_settle settled).1
    exact congrArg Except.toOption (settle_of_pending (q := q.raise count) none)

/-- A clause adds to what has been settled, or cannot. An option whose value is an argument of its
own is settled only by what follows it, so the faults of two clauses may change places. -/
theorem settle_readEach (between : Between p) (clause : Clause) :
    (readEach scope p clause.arguments >>= settle).toOption =
      p.settle.toOption.bind (clause.add scope) := by
  cases clause with
  | apart o value =>
    rw [readEach_apart between.closed]
    by_cases known : scope.hasValued o = true
    · simp only [Clause.add, known, if_true]
      cases settled : p.settle with
      | error fault => rfl
      | ok q =>
        have none := (pending_of_settle settled).1
        exact congrArg Except.toOption (settle_waiting none o value.text)
    · simp only [Clause.add, known]
      cases p.settle <;> rfl
  | joined o value =>
    rw [readEach_joined between.closed]
    by_cases known : scope.hasValued o = true
    · simp only [Clause.add, known, if_true]
      cases settled : p.settle with
      | error fault => rfl
      | ok q =>
        have none := (pending_of_settle settled).1
        exact congrArg Except.toOption (settle_accepted none o value.text)
    · simp only [Clause.add, known]
      cases p.settle <;> rfl
  | verbose =>
    rw [readEach_verbose between.closed]
    exact settle_raise p 1
  | letters more =>
    rw [readEach_letters between.closed]
    exact settle_raise p (more + 1)

theorem map_eq_ok_iff {ε α β : Type} {x : Except ε α} {f : α → β} {b : β} :
    x.map f = .ok b ↔ ∃ a, x = .ok a ∧ f a = b := by
  cases x with
  | error fault =>
    constructor
    · exact nofun
    · rintro ⟨a, ⟨⟩, -⟩
  | ok a =>
    change Except.ok (f a) = .ok b ↔ _
    simp only [Except.ok.injEq, exists_eq_left']

theorem Between.raise (between : Between p) {count : Nat}
    (raised : p.settle.map (fun q => q.raise count) = .ok q) : Between q := by
  obtain ⟨p', settled, rfl⟩ := map_eq_ok_iff.mp raised
  obtain ⟨none, opened, -⟩ := pending_of_settle settled
  exact .of_pending (opened.trans between.closed) none

theorem between_readEach (between : Between p) {clause : Clause}
    (read : readEach scope p clause.arguments = .ok q) : Between q := by
  cases clause with
  | apart o value =>
    rw [readEach_apart between.closed] at read
    split at read
    · obtain ⟨p', settled, rfl⟩ := map_eq_ok_iff.mp read
      have opened := (pending_of_settle settled).2.1.trans between.closed
      exact ⟨opened, rfl⟩
    · cases read
  | joined o value =>
    rw [readEach_joined between.closed] at read
    split at read
    · obtain ⟨p', settled, accepted⟩ := bind_eq_ok_iff.mp read
      obtain ⟨none, opened, -⟩ := pending_of_settle settled
      obtain ⟨pending, closed⟩ := pending_of_accept accepted
      exact .of_pending (closed.trans (opened.trans between.closed)) (pending.trans none)
    · cases read
  | verbose =>
    rw [readEach_verbose between.closed] at read
    exact between.raise read
  | letters more =>
    rw [readEach_letters between.closed] at read
    exact between.raise read

/-! All clauses of a scope. -/

/-- All arguments of some clauses. -/
def Clause.argumentsOf (clauses : List Clause) : List String := clauses.flatMap arguments

theorem settle_readClauses (between : Between p) (clauses : List Clause) :
    (readEach scope p (Clause.argumentsOf clauses) >>= settle).toOption =
      p.settle.toOption.bind fun q => clauses.foldlM (Clause.add scope) q := by
  induction clauses generalizing p with
  | nil =>
    change p.settle.toOption = _
    cases p.settle <;> rfl
  | cons clause rest ih =>
    have head : (readEach scope p clause.arguments >>= settle).toOption = _ :=
      settle_readEach between clause
    rw [Clause.argumentsOf, List.flatMap_cons, readEach_append]
    have later (q : Progress) : (clause :: rest).foldlM (Clause.add scope) q =
        (clause.add scope q).bind fun q => rest.foldlM (Clause.add scope) q := rfl
    simp only [later, ← Option.bind_assoc, ← head]
    cases read : readEach scope p clause.arguments with
    | error fault => rfl
    | ok p' => exact ih (between_readEach between read)

namespace Clause

variable {clauses : List Clause}

/-- What has been read behind clauses that are accepted. -/
def progress (clauses : List Clause) : Progress where
  given := given clauses
  verbosity := if loudness clauses = 0 then none else some (min countLimit (loudness clauses))
  pending := none
  closed := false

theorem isSome_value?_iff {o : Valued} :
    ((progress clauses).value? o).isSome = true ↔ o ∈ options clauses := by
  rw [Option.isSome_iff_ne_none, Progress.value?, Ne, List.lookup_eq_none_iff, options,
    List.mem_map]
  simp only [bne_iff_ne, ne_eq, not_forall, Decidable.not_not, exists_prop, progress,
    eq_comm (a := o)]

theorem accept_progress {o : Valued} {value : Operand} :
    ((progress clauses).accept o value.text).toOption = some q ↔
      o ∉ options clauses ∧
        q = { progress clauses with given := given clauses ++ [(o, value.text)] } := by
  rw [toOption_eq_some_iff, accept]
  by_cases old : o ∈ options clauses
  · rw [if_pos (isSome_value?_iff.mpr old)]
    constructor
    · exact nofun
    · rintro ⟨new, -⟩
      contradiction
  · rw [if_neg (mt isSome_value?_iff.mp old), if_neg (by simp [value.not_empty]), Except.ok.injEq]
    constructor
    · intro same
      exact ⟨old, same.symm⟩
    · rintro ⟨-, rfl⟩
      rfl

theorem given_concat (clauses : List Clause) (clause : Clause) :
    given (clauses ++ [clause]) = given clauses ++ clause.given?.toList := by
  rw [given, List.filterMap_append]
  cases clause <;> rfl

theorem loudness_concat (clauses : List Clause) (clause : Clause) :
    loudness (clauses ++ [clause]) = loudness clauses + clause.louder := by
  rw [loudness, List.map_append, List.sum_append]
  rfl

theorem progress_option (clauses : List Clause) (clause : Clause) {o : Valued} {value : String}
    (gives : clause.given? = some (o, value)) (quiet : clause.louder = 0) :
    progress (clauses ++ [clause]) =
      { progress clauses with given := given clauses ++ [(o, value)] } := by
  simp only [progress, given_concat, loudness_concat, gives, quiet, Option.toList_some, Nat.add_zero]

theorem progress_flag (clauses : List Clause) (clause : Clause) (gives : clause.given? = none)
    (loud : clause.louder ≠ 0) :
    progress (clauses ++ [clause]) = (progress clauses).raise clause.louder := by
  have more : loudness clauses + clause.louder ≠ 0 := by omega
  simp only [progress, raise, given_concat, loudness_concat, gives, Option.toList_none,
    List.append_nil, if_neg more, Progress.mk.injEq, Option.some.injEq, true_and, and_true]
  split
  · next none => rw [none, Option.getD_none]
  · rw [Option.getD_some]
    omega

theorem add_option {clause : Clause} {o : Valued} {value : Operand}
    (adds : clause.add scope (progress clauses) =
      if scope.hasValued o then ((progress clauses).accept o value.text).toOption else none)
    (gives : clause.given? = some (o, value.text)) (quiet : clause.louder = 0) :
    clause.add scope (progress clauses) = some q ↔
      (scope.hasValued o = true ∧ o ∉ options clauses) ∧ q = progress (clauses ++ [clause]) := by
  rw [adds, progress_option clauses clause gives quiet]
  by_cases known : scope.hasValued o = true
  · rw [if_pos known, accept_progress]
    simp only [known, true_and]
  · rw [if_neg known]
    constructor
    · exact nofun
    · rintro ⟨⟨known', -⟩, -⟩
      contradiction

theorem add_flag (clause : Clause)
    (adds : clause.add scope (progress clauses) = some ((progress clauses).raise clause.louder))
    (gives : clause.given? = none) (loud : clause.louder ≠ 0) :
    clause.add scope (progress clauses) = some q ↔ q = progress (clauses ++ [clause]) := by
  rw [adds, progress_flag clauses clause gives loud, Option.some.injEq]
  exact eq_comm

/-- One more clause. -/
theorem add_iff {clause : Clause} : clause.add scope (progress clauses) = some q ↔
    (∀ entry ∈ clause.given?, scope.hasValued entry.1 = true ∧ entry.1 ∉ options clauses) ∧
      q = progress (clauses ++ [clause]) := by
  cases clause with
  | apart o value =>
    rw [add_option rfl rfl rfl]
    simp only [given?, Option.mem_some_iff, forall_eq']
  | joined o value =>
    rw [add_option rfl rfl rfl]
    simp only [given?, Option.mem_some_iff, forall_eq']
  | verbose =>
    rw [add_flag .verbose rfl rfl Nat.one_ne_zero]
    exact (and_iff_right nofun).symm
  | letters more =>
    rw [add_flag (.letters more) rfl rfl (Nat.succ_ne_zero more)]
    exact (and_iff_right nofun).symm

theorem options_concat (clauses : List Clause) (clause : Clause) :
    options (clauses ++ [clause]) = options clauses ++ clause.given?.toList.map Prod.fst := by
  rw [options, given_concat, List.map_append, options]

theorem forall_options_concat {clause : Clause} {P : Valued → Prop} :
    (∀ o ∈ options (clauses ++ [clause]), P o) ↔
      (∀ o ∈ options clauses, P o) ∧ ∀ entry ∈ clause.given?, P entry.1 := by
  rw [options_concat, List.forall_mem_append]
  cases clause.given? <;> simp

theorem nodup_options_concat {clause : Clause} :
    (options (clauses ++ [clause])).Nodup ↔
      (options clauses).Nodup ∧ ∀ entry ∈ clause.given?, entry.1 ∉ options clauses := by
  rw [options_concat]
  cases clause.given? with
  | none => simp
  | some entry =>
    rw [Option.toList_some, List.map_singleton, ← List.concat_eq_append, List.nodup_concat,
      and_comm]
    simp only [Option.mem_some_iff, forall_eq']

/-- Clauses are accepted one after the other if their options belong to the scope and none is given
twice. -/
theorem foldlM_add_iff : clauses.foldlM (add scope) Progress.start = some q ↔
    (∀ o ∈ options clauses, scope.hasValued o = true) ∧ (options clauses).Nodup ∧
      q = progress clauses := by
  induction clauses using List.reverseRecOn generalizing q with
  | nil =>
    rw [List.foldlM_nil]
    constructor
    · intro same
      obtain rfl := Option.some.inj same
      exact ⟨nofun, List.nodup_nil, rfl⟩
    · rintro ⟨-, -, rfl⟩
      rfl
  | append_singleton clauses clause ih =>
    have last : (clauses ++ [clause]).foldlM (add scope) Progress.start =
        (clauses.foldlM (add scope) Progress.start).bind (clause.add scope) := by
      rw [List.foldlM_append]
      exact congrArg _ (funext fun q => bind_pure _)
    rw [last, Option.bind_eq_some_iff]
    constructor
    · rintro ⟨p, accepted, added⟩
      obtain ⟨known, once, rfl⟩ := ih.mp accepted
      obtain ⟨new, rfl⟩ := add_iff.mp added
      rw [forall_options_concat, nodup_options_concat]
      exact ⟨⟨known, fun entry given => (new entry given).1⟩,
        ⟨once, fun entry given => (new entry given).2⟩, rfl⟩
    · rw [forall_options_concat, nodup_options_concat]
      rintro ⟨⟨known, known'⟩, ⟨once, new⟩, rfl⟩
      refine ⟨progress clauses, ih.mpr ⟨known, once, rfl⟩, add_iff.mpr ⟨?_, rfl⟩⟩
      intro entry given
      exact ⟨known' entry given, new entry given⟩

/-- Of two options that exclude each other both have been given. -/
theorem conflict_iff {options : List Valued} (once : options.Nodup) :
    (∃ first second rest, options.filter Valued.isCassette = first :: second :: rest) ↔
      .record ∈ options ∧ .replay ∈ options := by
  have among {o : Valued} : o ∈ options.filter Valued.isCassette ↔
      o ∈ options ∧ (o = .record ∨ o = .replay) := by
    rw [List.mem_filter]
    cases o <;> simp [Valued.isCassette]
  constructor
  · rintro ⟨first, second, rest, both⟩
    have once := once.filter Valued.isCassette
    rw [both, List.nodup_cons] at once
    have different : first ≠ second := by
      rintro rfl
      exact once.1 (.head _)
    have mem : first ∈ options.filter Valued.isCassette := by
      rw [both]
      exact .head _
    have mem' : second ∈ options.filter Valued.isCassette := by
      rw [both]
      exact .tail _ (.head _)
    obtain ⟨given, rfl | rfl⟩ := among.mp mem
    · obtain ⟨given', rfl | rfl⟩ := among.mp mem'
      · contradiction
      · exact ⟨given, given'⟩
    · obtain ⟨given', rfl | rfl⟩ := among.mp mem'
      · exact ⟨given', given⟩
      · contradiction
  · rintro ⟨record, replay⟩
    have mem := among.mpr ⟨record, .inl rfl⟩
    have mem' := among.mpr ⟨replay, .inr rfl⟩
    match both : options.filter Valued.isCassette with
    | [] => simp only [both, List.not_mem_nil] at mem
    | [o] =>
      rw [both, List.mem_singleton] at mem mem'
      rw [← mem] at mem'
      cases mem'
    | first :: second :: rest => exact ⟨first, second, rest, rfl⟩

theorem checkConflict_progress (once : (options clauses).Nodup) :
    (progress clauses).checkConflict = .ok q ↔
      ¬ (.record ∈ options clauses ∧ .replay ∈ options clauses) ∧ q = progress clauses := by
  rw [← conflict_iff once, checkConflict, show (progress clauses).given = given clauses from rfl,
    ← options]
  split
  · next first second rest both =>
    constructor
    · intro failed
      contradiction
    · rintro ⟨free, -⟩
      exact absurd ⟨first, second, rest, both⟩ free
  · next free =>
    rw [Except.ok.injEq]
    constructor
    · intro same
      refine ⟨?_, same.symm⟩
      rintro ⟨first, second, rest, both⟩
      exact free first second rest both
    · rintro ⟨-, rfl⟩
      rfl

/-- Clauses are accepted as a scope if they can stand together and their options belong to it. -/
theorem readScope_argumentsOf : readScope scope .start (argumentsOf clauses) = .ok q ↔
    (Consistent clauses ∧ ∀ o ∈ options clauses, scope.hasValued o = true) ∧
      q = progress clauses := by
  have settled {p : Progress} : readEach scope .start (argumentsOf clauses) >>= settle = .ok p ↔
      (∀ o ∈ options clauses, scope.hasValued o = true) ∧ (options clauses).Nodup ∧
        p = progress clauses := by
    have start : Between .start := ⟨rfl, rfl⟩
    rw [← toOption_eq_some_iff, settle_readClauses start, ← foldlM_add_iff]
    rfl
  rw [readScope_eq, show finish = fun p => p.settle >>= checkConflict from rfl, ← bind_assoc,
    bind_eq_ok_iff]
  constructor
  · rintro ⟨p, read, checked⟩
    obtain ⟨known, once, rfl⟩ := settled.mp read
    obtain ⟨exclusive, rfl⟩ := (checkConflict_progress once).mp checked
    exact ⟨⟨⟨once, exclusive⟩, known⟩, rfl⟩
  · rintro ⟨⟨⟨once, exclusive⟩, known⟩, rfl⟩
    exact ⟨progress clauses, settled.mpr ⟨known, once, rfl⟩,
      (checkConflict_progress once).mpr ⟨exclusive, rfl⟩⟩

end Clause

end TrustedAppId.CommandLine
