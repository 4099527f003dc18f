import TrustedAppId.Proofs.CommandLine.Verbosity
import TrustedAppId.Proofs.Emission.Frame
import TrustedAppId.Proofs.Emission.Ready
import TrustedAppId.Proofs.Program.Watching
import TrustedAppId.Proofs.Replay.Sessions
/-! What a run of the program comes to: what it prints, which files it may change, and what these
hold if it succeeds. It prints once, behind everything else that can fail. -/
namespace TrustedAppId

variable {α : Type} {allowed : Request → Prop}

/-- Prints the identifier on a line of its own if it succeeds, and nothing if it fails. -/
def Run.Reports (m : Run Uuid) : Prop :=
  ∀ filter s, (m.run.watch filter s).printed = Program.output ((m.run.run s).1.mapError .run)

theorem Run.Reports.bind {m : Run α} {f : α → Run Uuid} (quiet : m.run.Within Request.Quiet)
    (later : ∀ a, (f a).Reports) : (m >>= f).Reports := by
  intro filter s
  rw [Script.printed_run_bind, Script.printed_of_quiet filter s quiet, String.empty_append,
    Script.run_run_bind]
  obtain ⟨result, s'⟩ := m.run.run s
  cases result with
  | ok a => exact later a filter s'
  | error fault => rfl

/-! The parts of a run before anything is printed. -/

theorem within_openReplay {path : String} (read : allowed (.read path)) :
    (Context.openReplay path).run.Within allowed :=
  .run_bind (.run_bind (.fileText read) fun _ => .ofExcept _) fun _ => .run_pure _

theorem within_finish {session : RecordingSession} (now : allowed .now)
    (write : ∀ text, allowed (.write session.path text)) : session.finish.run.Within allowed := by
  unfold RecordingSession.finish
  split
  · exact .run_throw _
  · exact .run_bind (.now now) fun _ => .run_bind (.putFile (write _)) fun _ => .run_pure _

namespace Program

variable {e : Emission}

theorem within_attempt (emits : e.emit.run.Within allowed) (c : Context) :
    (attempt e c).run.Within allowed :=
  .run_lift (emits.perform c)

theorem quiet_emit : e.emit.run.Within Request.Quiet := by
  apply Emission.within_emit
  · trivial
  · intro request storing
    cases request with
    | print text => exact storing
    | _ => trivial

theorem quiet_verify : e.verify.run.Within Request.Quiet := by
  refine .run_bind (.ofExcept _) fun _ => ?_
  refine .run_bind (.fileText trivial) fun _ => .run_bind (.ofExcept _) fun _ => ?_
  refine .run_bind (.fileText trivial) fun _ => .run_bind (.ofExcept _) fun _ => ?_
  exact .run_bind (.ofExcept _) fun u => .run_bind (.log trivial) fun _ => .run_pure u

theorem reports_announce (u : Uuid) : (announce u).Reports :=
  fun _ _ => String.append_empty

theorem reports_announce_bind {result : Except Error α} {id : α → Uuid} :
    Run.Reports (do announce (id (← Run.ofExcept result))) :=
  .bind (.ofExcept _) fun _ => reports_announce _

theorem reports_generate (options : CassetteOptions) : (generate e options).Reports := by
  unfold generate
  split
  · refine .bind (within_openReplay trivial) fun c => ?_
    exact .bind (within_attempt quiet_emit c) fun _ => reports_announce_bind
  · refine .bind (.now trivial) fun time => ?_
    refine .bind (within_attempt quiet_emit _) fun _ => ?_
    refine .bind (within_finish trivial fun _ => trivial) fun _ => ?_
    exact .bind (.log trivial) fun _ => reports_announce_bind
  · exact .bind (within_attempt quiet_emit _) fun _ => reports_announce_bind

theorem reports_carryOut (command : Command) : (carryOut e command).Reports := by
  cases command with
  | generate options => exact reports_generate options
  | verify =>
    refine .bind (.run_lift (quiet_verify.perform _)) fun _ => ?_
    exact .bind (.ofExcept _) fun _ => reports_announce _

/-! What a run leaves behind. -/

theorem run_verify (e : Emission) (s : Surroundings) :
    ∃ events, (carryOut e .verify).run.run s = (e.verified s.tree, { s with events }) := by
  obtain ⟨events, effect⟩ := e.exec_verify .direct s
  refine ⟨events, ?_⟩
  rw [carryOut, Script.run_run_bind, Context.run_lift_perform, effect]
  cases e.verified s.tree <;> rfl

/-- Without a cassette, generating is emitting with the identifiers of the surroundings. -/
theorem run_generate (e : Emission) (s : Surroundings) :
    (generate e .none).run.run s =
      ((Context.direct.exec e.emit.run s).1.map Emission.Emitted.id,
        (Context.direct.exec e.emit.run s).2.2) := by
  simp only [generate, CassetteOptions.none, Script.run_run_bind, attempt, Context.run_lift_perform]
  cases (Context.direct.exec e.emit.run s).1 with
  | error fault => rfl
  | ok emitted => rfl

theorem after_openReplay {path : String} {c : Context} {s s' : Surroundings}
    (opened : (Context.openReplay path).run.run s = (.ok c, s')) : s' = s := by
  obtain ⟨cassette, between, loaded, ⟨⟩⟩ := Script.run_run_bind_eq_ok opened
  obtain ⟨text, after, read, last⟩ := Script.run_run_bind_eq_ok loaded
  exact (congrArg Prod.snd last).symm.trans (congrArg Prod.snd read).symm

theorem write_of_finish {session : RecordingSession} {path : String} {s s' : Surroundings}
    (finished : session.finish.run.run s = (.ok path, s')) :
    ∃ text, s.tree.write session.path (.text text) = .ok s'.tree := by
  obtain ⟨path', recorder⟩ := session
  cases recorder with
  | none => cases finished
  | some r =>
    rw [RecordingSession.finish_eq] at finished
    split at finished
    · next tree written =>
      obtain rfl := congrArg Prod.snd finished
      exact ⟨_, written⟩
    · cases finished

theorem path_afterClosing (session : RecordingSession) (c : Context) :
    (session.afterClosing c).path = session.path := by
  cases c <;> rfl

theorem ok_of_announce {result : Except Error Emission.Emitted} {u : Uuid} {s s' : Surroundings}
    (announced : (do announce (← Run.ofExcept result).id : Run Uuid).run.run s = (.ok u, s')) :
    ∃ emitted, result = .ok emitted ∧ emitted.id = u ∧ s' = s := by
  cases result with
  | error fault => cases announced
  | ok emitted =>
    obtain ⟨id, after⟩ := Prod.mk.inj announced
    exact ⟨emitted, rfl, Except.ok.inj id, after.symm⟩

/-- Generating succeeds with what an emission in some context has succeeded with. Nothing is stored
before the emission, and behind it at most a recording. -/
theorem emit_of_generate {options : CassetteOptions} {u : Uuid} {s s' : Surroundings}
    (generated : (generate e options).run.run s = (.ok u, s')) :
    ∃ c before result, before.tree = s.tree ∧ (Context.exec c e.emit.run before).1 = .ok result ∧
      result.id = u ∧ (s'.tree = (c.exec e.emit.run before).2.2.tree ∨
        ∃ path text, options.record = some path ∧
          (c.exec e.emit.run before).2.2.tree.write path (.text text) = .ok s'.tree) := by
  unfold generate at generated
  split at generated
  · obtain ⟨c, before, opened, emitted⟩ := Script.run_run_bind_eq_ok generated
    obtain rfl := after_openReplay opened
    rw [Script.run_run_bind, attempt, Context.run_lift_perform] at emitted
    obtain ⟨result, succeeded, id, rfl⟩ := ok_of_announce emitted
    exact ⟨c, before, result, rfl, succeeded, id, .inl rfl⟩
  · next path _ recorded =>
    obtain ⟨time, before, ⟨⟩, emitted⟩ := Script.run_run_bind_eq_ok generated
    dsimp only [RecordingSession.start] at emitted
    rw [Script.run_run_bind, attempt, Context.run_lift_perform] at emitted
    obtain ⟨path', between, finished, logged⟩ := Script.run_run_bind_eq_ok emitted
    obtain ⟨text, written⟩ := write_of_finish finished
    rw [path_afterClosing] at written
    obtain ⟨-, _, ⟨⟩, announced⟩ := Script.run_run_bind_eq_ok logged
    obtain ⟨result, succeeded, id, rfl⟩ := ok_of_announce announced
    exact ⟨_, s, result, rfl, succeeded, id, .inr ⟨path, text, recorded, written⟩⟩
  · rw [Script.run_run_bind, attempt, Context.run_lift_perform] at generated
    obtain ⟨result, succeeded, id, rfl⟩ := ok_of_announce generated
    exact ⟨_, s, result, rfl, succeeded, id, .inl rfl⟩

/-- The paths lead to different places, as far as they lead anywhere. -/
def LeadApart (tree : FileTree) (paths : List String) : Prop :=
  paths.Pairwise fun path other => tree.resolve .lookup path ≠ tree.resolve .lookup other

/-- The files that a command may write. -/
def outputs (e : Emission) : Command → List String
  | .generate options => [e.buildVarPath, e.headerPath] ++ options.record.toList
  | .verify => []

theorem read_of_generate {options : CassetteOptions} {u : Uuid} {s s' : Surroundings}
    (rooted : s.tree.Rooted) (generated : (generate e options).run.run s = (.ok u, s'))
    (apart : LeadApart s'.tree (outputs e (.generate options))) :
    s'.tree.read e.buildVarPath = .ok (BuildVar.render e.variableName u) ∧
      s'.tree.read e.headerPath = .ok (Header.render e.macroName u) := by
  obtain ⟨c, before, result, same, succeeded, rfl, after⟩ := emit_of_generate generated
  obtain ⟨-, u, -, stored⟩ := Emission.store_of_emit succeeded
  rw [Context.tree_draw, same] at stored
  obtain ⟨rfl, between, first, second, stores, stores'⟩ := Emission.store_eq_ok rooted stored
  -- What follows the emission is at most the recording, which spares files other than its own.
  have later : FileTree.ChangesOnly options.record.toList (c.exec e.emit.run before).2.2.tree
      s'.tree := by
    rcases after with same | ⟨path, text, recorded, written⟩
    · rw [same]
      exact .refl _ _
    · have rooted' := stores'.extends'.rooted (stores.extends'.rooted rooted)
      obtain ⟨third, stores''⟩ := rooted'.stores written
      exact stores''.changesOnly (by rw [recorded]; exact .head _)
  have led : s'.tree.resolve .lookup e.buildVarPath = .ok first :=
    (stores.extends'.trans (stores'.extends'.trans later.extends')).resolve stores.led (by decide)
  have led' : s'.tree.resolve .lookup e.headerPath = .ok second :=
    (stores'.extends'.trans later.extends').resolve stores'.led (by decide)
  obtain ⟨others, apart⟩ := List.pairwise_cons.mp apart
  obtain ⟨others', -⟩ := List.pairwise_cons.mp apart
  rw [led] at others
  rw [led'] at others'
  have different : first ≠ second := by
    rintro rfl
    exact others _ (.head _) led'.symm
  constructor
  · refine FileTree.read_of_resolve led ?_
    rw [later.kept fun path mem => (others path (.tail _ mem)).symm,
      stores'.elsewhere first different, stores.stored]
  · refine FileTree.read_of_resolve led' ?_
    rw [later.kept fun path mem => (others' path mem).symm, stores'.stored]

theorem writesTo_generate (options : CassetteOptions) :
    (generate e options).run.Within (Request.WritesTo (outputs e (.generate options))) := by
  have emits : e.emit.run.Within (Request.WritesTo (outputs e (.generate options))) :=
    Emission.writesTo_emit.mono fun _ => Request.WritesTo.mono (List.subset_append_left _ _)
  have announces {result : Except Error Emission.Emitted} :
      (do announce (← Run.ofExcept result).id : Run Uuid).run.Within
        (Request.WritesTo (outputs e (.generate options))) :=
    .run_bind (.ofExcept _) fun _ => .run_bind ⟨trivial, trivial⟩ fun _ => .run_pure _
  unfold generate
  split
  · refine .run_bind (within_openReplay trivial) fun c => ?_
    exact .run_bind (within_attempt emits c) fun _ => announces
  · next path _ recorded =>
    refine .run_bind (.now trivial) fun time => ?_
    refine .run_bind (within_attempt emits _) fun attempted => ?_
    refine .run_bind (within_finish trivial fun text => ?_) fun _ => ?_
    · rw [path_afterClosing]
      exact List.mem_append_right _ (by rw [recorded]; exact .head _)
    · exact .run_bind (.log trivial) fun _ => announces
  · exact .run_bind (within_attempt emits _) fun _ => announces

variable {home : String} {arguments : List String} {line : CommandLine} {s : Surroundings}

theorem run_of_refused {fault : UsageFault} (refused : CommandLine.read arguments = .error fault) :
    (run home arguments).run s = (.error (.usage fault), s) := by
  simp only [run, refused, Script.run]

theorem run_of_misplaced (accepted : CommandLine.read arguments = .ok line)
    (misplaced : (line.explicit.isSome && line.top.isSet) = true) :
    (run home arguments).run s = (.error .misplacedOptions, s) := by
  simp only [run, accepted, dispatch, misplaced, if_true, Script.run]

theorem run_of_read (accepted : CommandLine.read arguments = .ok line)
    (placed : (line.explicit.isSome && line.top.isSet) = false) :
    (run home arguments).run s =
      let carried := (carryOut (emission home line) line.command).run.run s
      (carried.1.mapError .run, carried.2) := by
  simp only [run, accepted, dispatch, placed, Bool.false_eq_true, if_false, Script.run_bind]
  rfl

/-- A run prints what its result asks for. -/
theorem printed_run (filter : LogFilter) : ((run home arguments).watch filter s).printed =
    output ((run home arguments).run s).1 := by
  unfold run
  split
  · rfl
  · unfold dispatch
    split
    · rfl
    · rw [Script.printed_bind, Script.run_bind, reports_carryOut]
      exact String.append_empty

theorem output_eq_iff {result : Except Failure Uuid} {u : Uuid} :
    output result = u.text ++ "\n" ↔ result = .ok u := by
  cases result with
  | error failure =>
    constructor
    · intro same
      have same := congrArg String.toList same
      rw [String.toList_append] at same
      exact absurd same.symm (List.append_ne_nil_of_right_ne_nil _ (by decide))
    · nofun
  | ok v =>
    constructor
    · intro same
      have same := congrArg String.toList same
      rw [output, String.toList_append, String.toList_append] at same
      exact congrArg Except.ok (Uuid.text_inj.mp (String.toList_inj.mp (List.append_cancel_right same)))
    · intro same
      rw [same]
      rfl

/-- What a run of the program comes to. -/
structure Delivers (home : String) (arguments : List String) (s : Surroundings)
    (o : Outcome (Except Failure Uuid)) : Prop where
  /-- Success is one identifier on a line of its own. -/
  printed_iff : ∀ u, o.printed = u.text ++ "\n" ↔ o.result = .ok u
  silent : ∀ failure, o.result = .error failure → o.printed = ""
  refused : ∀ fault, CommandLine.read arguments = .error fault →
    o.result = .error (.usage fault) ∧ o.after.tree = s.tree
  misplaced : ∀ line, CommandLine.read arguments = .ok line → line.explicit.isSome = true →
    line.top.isSet = true → o.result = .error .misplacedOptions ∧ o.after.tree = s.tree
  verified : ∀ line, CommandLine.read arguments = .ok line → line.command = .verify →
    o.after.tree = s.tree ∧ ∀ u, o.result = .ok u → ∃ buildVar header,
      s.tree.read (emission home line).buildVarPath = .ok buildVar ∧
      s.tree.read (emission home line).headerPath = .ok header ∧
      BuildVar.read buildVar = .ok (line.variableName, u) ∧
      Header.read header = .ok (line.macroName, u)
  generated : ∀ line options, CommandLine.read arguments = .ok line →
    line.command = .generate options → let e := emission home line
      FileTree.ChangesOnly (outputs e line.command) s.tree o.after.tree ∧
      ∀ u, o.result = .ok u → LeadApart o.after.tree (outputs e line.command) →
        o.after.tree.read e.buildVarPath = .ok (BuildVar.render e.variableName u) ∧
        o.after.tree.read e.headerPath = .ok (Header.render e.macroName u)

theorem process_eq (setting : Option String) (home : String) (arguments : List String)
    (s : Surroundings) :
    (process setting home arguments s).result = ((run home arguments).run s).1 ∧
      (process setting home arguments s).after = ((run home arguments).run s).2 ∧
      (process setting home arguments s).printed = output ((run home arguments).run s).1 :=
  ⟨Script.result_watch _ _ _, Script.after_watch _ _ _, printed_run _⟩

/-- Requests for more events do not change what is run. -/
theorem run_of_essential {arguments' : List String} {line' : CommandLine}
    (accepted : CommandLine.read arguments = .ok line)
    (accepted' : CommandLine.read arguments' = .ok line')
    (same : CommandLine.essential arguments' = CommandLine.essential arguments) :
    run home arguments' = run home arguments := by
  rw [run, run, accepted, accepted', CommandLine.eq_of_essential accepted accepted' same]
  rfl

theorem run_of_verify (accepted : CommandLine.read arguments = .ok line)
    (verifies : line.command = .verify) :
    ((run home arguments).run s).2.tree = s.tree ∧
      ∀ u, ((run home arguments).run s).1 = .ok u →
        (emission home line).verified s.tree = .ok u := by
  cases placed : line.explicit.isSome && line.top.isSet with
  | true =>
    rw [run_of_misplaced accepted placed]
    exact ⟨rfl, nofun⟩
  | false =>
    obtain ⟨events, effect⟩ := run_verify (emission home line) s
    rw [run_of_read accepted placed, verifies, effect]
    exact ⟨rfl, fun u succeeded => mapError_eq_ok_iff.mp succeeded⟩

theorem run_of_generate {options : CassetteOptions} (rooted : s.tree.Rooted)
    (accepted : CommandLine.read arguments = .ok line)
    (generates : line.command = .generate options) :
    let e := emission home line
    let final := ((run home arguments).run s).2.tree
    FileTree.ChangesOnly (outputs e line.command) s.tree final ∧
      ∀ u, ((run home arguments).run s).1 = .ok u → LeadApart final (outputs e line.command) →
        final.read e.buildVarPath = .ok (BuildVar.render e.variableName u) ∧
        final.read e.headerPath = .ok (Header.render e.macroName u) := by
  cases placed : line.explicit.isSome && line.top.isSet with
  | true =>
    rw [run_of_misplaced accepted placed]
    exact ⟨.refl _ _, nofun⟩
  | false =>
    rw [run_of_read accepted placed, generates]
    refine ⟨Script.changesOnly_run (writesTo_generate options) rooted, ?_⟩
    intro u succeeded
    exact read_of_generate rooted (Prod.ext (mapError_eq_ok_iff.mp succeeded) rfl)

theorem delivers_process (rooted : s.tree.Rooted) (setting : Option String) :
    Delivers home arguments s (process setting home arguments s) := by
  obtain ⟨result, after, printed⟩ := process_eq setting home arguments s
  constructor
  · intro u
    rw [printed, result]
    exact output_eq_iff
  · intro failure failed
    rw [printed, ← result, failed]
    rfl
  · intro fault refused
    rw [result, after, run_of_refused refused]
    exact ⟨rfl, rfl⟩
  · intro line accepted explicit top
    rw [result, after, run_of_misplaced accepted (by rw [explicit, top]; rfl)]
    exact ⟨rfl, rfl⟩
  · intro line accepted verifies
    rw [result, after]
    obtain ⟨same, verified⟩ := run_of_verify accepted verifies
    refine ⟨same, ?_⟩
    intro u succeeded
    exact (Emission.verified_eq_ok_iff.mp (verified u succeeded)).2
  · intro line options accepted generates
    rw [result, after]
    exact run_of_generate rooted accepted generates

/-- A run of the program comes to what it is said to come to, whatever is asked of its log. -/
theorem process_delivers {setting : Option String} (rooted : s.tree.Rooted) :
    Delivers home arguments s (process setting home arguments s) ∧
    ∀ setting' arguments' line line', CommandLine.read arguments = .ok line →
      CommandLine.read arguments' = .ok line' →
      CommandLine.essential arguments' = CommandLine.essential arguments →
      (process setting' home arguments' s).result = (process setting home arguments s).result ∧
      (process setting' home arguments' s).printed = (process setting home arguments s).printed ∧
      (process setting' home arguments' s).after.tree =
        (process setting home arguments s).after.tree := by
  refine ⟨delivers_process rooted setting, ?_⟩
  intro setting' arguments' line line' accepted accepted' same
  obtain ⟨result, after, printed⟩ := process_eq setting home arguments s
  obtain ⟨result', after', printed'⟩ := process_eq setting' home arguments' s
  rw [run_of_essential accepted accepted' same] at result' after' printed'
  rw [result, after, printed, result', after', printed']
  exact ⟨rfl, rfl, rfl⟩

/-- Without a cassette, a run that is to generate succeeds with the identifier that it draws, if that
is random and nothing is in the way of its artifacts. -/
theorem process_of_ready (rooted : s.tree.Rooted) (accepted : CommandLine.read arguments = .ok line)
    (placed : (line.explicit.isSome && line.top.isSet) = false)
    (generates : line.command = .generate .none) (names : (emission home line).checkNames = .ok ())
    {u : Uuid} (drawn : (Context.direct.draw s).1 = .ok u) (random : u.isRandom = true)
    (ready : (emission home line).Ready s.tree) (setting : Option String) :
    (process setting home arguments s).result = .ok u ∧
      (process setting home arguments s).after.tree = ((emission home line).store u s.tree).2 := by
  obtain ⟨result, after, -⟩ := process_eq setting home arguments s
  obtain ⟨emitted, tree⟩ := Emission.emit_eq_store names drawn
  rw [ready.store rooted random] at emitted
  rw [result, after, run_of_read accepted placed, generates, carryOut, run_generate, emitted]
  exact ⟨rfl, tree⟩

/-! Two artifacts of one identifier, verified quietly and with all events, and then replaced by those
of another one. -/

def paired : Surroundings :=
  { Emission.linked with
    tree := Emission.pairTree (BuildVar.render defaultName Emission.linkedId)
      (Header.render defaultName Emission.linkedId) }

def quietly : List String := ["verify", "--out-dir", "."]

def loudly : List String := ["-vv", "verify", "--out-dir", ".", "--verbose"]

def here : CommandLine where
  explicit := some .verify
  top := .none
  directory := some "."
  variableName := defaultName
  macroName := defaultName
  verbosity := 0

/-- The artifacts of one identifier, with another one to draw. -/
def renewable : Surroundings :=
  { paired with ids := .ofList [Emission.otherId] "no identifiers left" }

def renewing : List String := ["generate", "--out-dir", "."]

def renewal : CommandLine := { here with explicit := some (.generate .none) }

theorem process_quietly : (process none "" quietly paired).result = .ok Emission.linkedId := by
  have names : Identifier.isName defaultName.toList = true := by decide
  obtain ⟨first, second⟩ := Emission.holds_pairTree
    (BuildVar.render defaultName Emission.linkedId) (Header.render defaultName Emission.linkedId)
  have verified : (emission "" here).verified paired.tree = .ok Emission.linkedId :=
    Emission.verified_eq_ok_iff.mpr ⟨Emission.checkNames_eq_ok_iff.mpr ⟨names, names⟩, _, _,
      first, second, BuildVar.read_render names _, Header.read_render names _⟩
  obtain ⟨events, effect⟩ := run_verify (emission "" here) paired
  have accepted : CommandLine.read quietly = .ok here := rfl
  rw [(process_eq none "" quietly paired).1, run_of_read accepted rfl,
    show here.command = .verify from rfl, effect, verified]
  rfl

theorem process_renewing :
    (process none "" renewing renewable).result = .ok Emission.otherId ∧
      (process none "" renewing renewable).after.tree =
        Emission.pairTree (BuildVar.render defaultName Emission.otherId)
          (Header.render defaultName Emission.otherId) := by
  have names : Emission.linkedEmission.checkNames = .ok () :=
    Emission.checkNames_eq_ok_iff.mpr ⟨by decide, by decide⟩
  have rooted : renewable.tree.Rooted := FileTree.isDirectoryPath_nil _
  have random : Emission.otherId.isRandom = true := by decide
  have accepted : CommandLine.read renewing = .ok renewal := rfl
  obtain ⟨succeeded, after⟩ := @process_of_ready "" renewing renewal renewable rooted accepted rfl
    rfl names _ rfl random (Emission.ready_pairTree _ _) none
  exact ⟨succeeded, after.trans (congrArg Prod.snd (Emission.store_pairTree _ _ random))⟩

theorem leadApart_pairTree (buildVar header : String) :
    LeadApart (Emission.pairTree buildVar header)
      (outputs Emission.linkedEmission (.generate .none)) := by
  obtain ⟨first, second⟩ := Emission.resolve_pairTree buildVar header .lookup
  refine List.pairwise_pair.mpr ?_
  rw [first, second]
  exact fun same => absurd (Except.ok.inj same) (by decide)

theorem process_delivers_paired : paired.tree.Rooted ∧
    CommandLine.read quietly = .ok here ∧
    CommandLine.read loudly = .ok { here with verbosity := 1 } ∧
    CommandLine.essential loudly = CommandLine.essential quietly ∧
    (process none "" quietly paired).printed = Emission.linkedId.text ++ "\n" ∧
    (process none "" quietly paired).after.tree = paired.tree ∧
    (process (some "trace") "" loudly paired).printed = Emission.linkedId.text ++ "\n" ∧
    CommandLine.read renewing = .ok renewal ∧
    (process none "" renewing renewable).printed = Emission.otherId.text ++ "\n" ∧
    LeadApart (process none "" renewing renewable).after.tree
      (outputs (emission "" renewal) renewal.command) ∧
    FileTree.ChangesOnly (outputs (emission "" renewal) renewal.command) paired.tree
      (process none "" renewing renewable).after.tree ∧
    Emission.linkedEmission.Holds (BuildVar.render defaultName Emission.otherId)
      (Header.render defaultName Emission.otherId)
      (process none "" renewing renewable).after.tree := by
  have rooted : paired.tree.Rooted := FileTree.isDirectoryPath_nil _
  have accepted : CommandLine.read quietly = .ok here := rfl
  have accepted' : CommandLine.read loudly = .ok { here with verbosity := 1 } := rfl
  have renewed : CommandLine.read renewing = .ok renewal := rfl
  obtain ⟨delivers, loud⟩ := @process_delivers "" quietly paired none rooted
  obtain ⟨-, printed, -⟩ := loud (some "trace") loudly _ _ accepted accepted' rfl
  have quiet := (delivers.printed_iff _).mpr process_quietly
  obtain ⟨delivers', -⟩ := @process_delivers "" renewing renewable none rooted
  obtain ⟨succeeded, after⟩ := process_renewing
  have apart : LeadApart (process none "" renewing renewable).after.tree
      (outputs (emission "" renewal) renewal.command) := by
    rw [after]
    exact leadApart_pairTree _ _
  obtain ⟨changes, held⟩ := delivers'.generated _ _ renewed rfl
  obtain ⟨buildVar, header⟩ := held _ succeeded apart
  exact ⟨rooted, accepted, accepted', rfl, quiet, (delivers.verified _ accepted rfl).1,
    printed.trans quiet, renewed, (delivers'.printed_iff _).mpr succeeded, apart, changes,
    buildVar, header⟩

end Program

end TrustedAppId
