import TrustedAppId.Proofs.Emission.Frame
import TrustedAppId.Proofs.Emission.Ready
import TrustedAppId.Proofs.Script.Processes
/-! Several emissions into one directory, request by request in any order. Either artifact is that of
the process that was the last one to store it; verifying succeeds if these two have the same
identifier, and tells them apart otherwise. -/
namespace TrustedAppId

namespace Emission

/-- How an emission ends with the texts `todo` not stored. -/
structure Ends (e : Emission) (original : FileTree) (result : Except Error Emitted)
    (todo : List Stored) : Prop where
  all : result.isOk = true → todo = []
  succeeds : e.Ready original → result.isOk = true

variable {e : Emission} {original : FileTree}

theorem Ends.of_fault {fault : Error} {todo : List Stored} (blocked : ¬ e.Ready original) :
    e.Ends original (.error fault) todo :=
  ⟨nofun, fun ready => absurd ready blocked⟩

theorem plans_putFile {path text : String} {rest : List Stored}
    (writable : e.Ready original → original.Writable path) :
    (Run.putFile path text).run.Plans original (fun result todo => match result with
      | .ok _ => todo = rest
      | .error fault => e.Ends original (.error fault) todo) ((path, text) :: rest) := by
  refine ⟨rest, rfl, ?_⟩
  intro tree extends'
  cases written : tree.write path (.text text) with
  | ok new => exact rfl
  | error fault =>
    apply Ends.of_fault
    intro ready
    obtain ⟨new, stored⟩ := extends'.write (writable ready) (.text text)
    rw [written] at stored
    cases stored

theorem plans_putArtifacts (e : Emission) (original : FileTree) (u : Uuid) :
    (e.putArtifacts u).run.Plans original (e.Ends original) (e.writes u) := by
  refine .run_bind (fun found todo => todo = e.writes u ∧ (e.Ready original → found = true)) ?_ ?_
  · intro tree extends'
    exact ⟨rfl, fun ready => extends'.isDirectory ready.directory⟩
  · rintro found _ ⟨rfl, here⟩
    dsimp only
    split
    · next missing =>
      apply Ends.of_fault
      intro ready
      rw [here ready] at missing
      contradiction
    · refine .run_bind (fun _ todo => todo = [(e.headerPath, Header.render e.macroName u)])
        (plans_putFile Ready.buildVar) ?_
      rintro - _ rfl
      refine .run_bind (fun _ todo => todo = [(e.headerPath, Header.render e.macroName u)]) rfl ?_
      rintro - _ rfl
      refine .run_bind (fun _ todo => todo = []) (plans_putFile Ready.header) ?_
      rintro - _ rfl
      refine .run_bind (fun _ todo => todo = []) rfl ?_
      rintro - _ rfl
      refine .run_bind (fun _ todo => todo = []) rfl ?_
      rintro - _ rfl
      exact ⟨fun _ => rfl, fun _ => rfl⟩

theorem plans_checkRandom {u : Uuid} (random : u.isRandom = true)
    {after : Except Error Uuid → List Stored → Prop} {todo : List Stored} (ends : after (.ok u) todo) :
    (checkRandom u).run.Plans original after todo := by
  refine .run_bind (fun _ todo => after (.ok u) todo) ends ?_
  intro _ todo held
  dsimp only
  split
  · next other =>
    rw [random] at other
    contradiction
  · exact held

/-- The plan behind the draw of a random identifier. -/
theorem plans_drawn (names : e.checkNames = .ok ()) (original : FileTree) : ∃ next,
    e.emit.run = .draw next ∧ ∀ u, u.isRandom = true →
      (next (.ok u)).Plans original (e.Ends original) (e.writes u) := by
  refine ⟨fun answer => (Run.ofExcept answer >>= checkRandom >>= e.putArtifacts).run, ?_, ?_⟩
  · rw [emit, names]
    rfl
  · intro u random
    change (checkRandom u >>= e.putArtifacts).run.Plans original _ _
    refine .run_bind (fun v todo => v = u ∧ todo = e.writes u)
      (plans_checkRandom random ⟨rfl, rfl⟩) ?_
    rintro _ _ ⟨rfl, rfl⟩
    exact plans_putArtifacts e original _

/-- One of those that emit into the same directory, with its own random identifier. -/
structure Emitter where
  context : Context
  ids : IdStream
  time : Timestamp
  events : List Event
  id : Uuid
  drawn : ∀ tree, (context.draw ⟨tree, ids, time, events⟩).1 = .ok id
  random : id.isRandom = true

def Emitter.process (w : Emitter) (e : Emission) : Process (Except Error Emitted) :=
  ⟨w.context, e.emit.run, w.ids, w.time, w.events⟩

/-- All emitters before their first request. -/
def begin (e : Emission) (tree : FileTree) (emitters : List Emitter) :
    System (Except Error Emitted) :=
  ⟨emitters.map fun w => w.process e, tree, []⟩

/-- How far an emitter has come, with the texts that it has still to store. -/
inductive Stage (e : Emission) (original : FileTree) (w : Emitter) :
    Process (Except Error Emitted) → List Stored → Prop where
  | drawing : Stage e original w (w.process e) (e.writes w.id)
  | storing {p : Process (Except Error Emitted)} {todo : List Stored} :
      p.script.Plans original (e.Ends original) todo → Stage e original w p todo

theorem Stage.step {w : Emitter} {p : Process (Except Error Emitted)} {todo : List Stored}
    {tree : FileTree} (names : e.checkNames = .ok ()) (stage : e.Stage original w p todo)
    (extends' : FileTree.Extends original tree) :
    ∃ rest, p.Does tree todo rest ∧ e.Stage original w (p.step tree).1 rest := by
  cases stage with
  | drawing =>
    obtain ⟨next, drawing, plans⟩ := plans_drawn names original
    have script : (w.process e).script = .draw next := drawing
    refine ⟨e.writes w.id, .nothing ?_ ?_, .storing ?_⟩
    · simp only [Process.stores?, script]
    · simp only [Process.step, script]
    · have answer : ((w.process e).context.draw ((w.process e).surroundings tree)).1 = .ok w.id :=
        w.drawn tree
      have plans := plans w.id w.random
      rw [← answer] at plans
      simpa only [Process.step, script] using plans
  | storing plans =>
    obtain ⟨rest, does, plans⟩ := Process.does_step plans extends'
    exact ⟨rest, does, .storing plans⟩

/-- What holds among the emitters at all times. -/
structure Among (e : Emission) (original : FileTree) (emitters : List Emitter)
    (sys : System (Except Error Emitted)) : Prop where
  extends' : FileTree.Extends original sys.tree
  count : sys.processes.length = emitters.length
  /-- Each has stored a front part of its texts. -/
  stage : ∀ i w p, emitters[i]? = some w → sys.processes[i]? = some p → ∃ done todo,
    e.writes w.id = done ++ todo ∧ e.Stage original w p todo ∧
      ∀ entry ∈ done, (i, entry.1) ∈ sys.stored
  /-- Each place has the text of the last one to store there. -/
  held : ∀ path i, sys.lastWriter? path = some i → ∃ w text place, emitters[i]? = some w ∧
    (path, text) ∈ e.writes w.id ∧ original.resolve .create path = .ok place ∧
      sys.tree.get? place = some (.file (.text text))

theorem among_begin (e : Emission) (tree : FileTree) (emitters : List Emitter) :
    e.Among tree emitters (begin e tree emitters) where
  extends' := .refl tree
  count := List.length_map ..
  stage i w p there found := by
    rw [begin, List.getElem?_map, there] at found
    obtain rfl := Option.some.inj found
    exact ⟨[], e.writes w.id, rfl, .drawing, nofun⟩
  held path i last := by cases last

theorem path_of_writes {u : Uuid} {entry : Stored} (mem : entry ∈ e.writes u) :
    entry.1 = e.buildVarPath ∨ entry.1 = e.headerPath := by
  rw [writes, List.mem_cons, List.mem_singleton] at mem
  rcases mem with rfl | rfl
  · exact .inl rfl
  · exact .inr rfl

/-- Different artifacts are stored in different places. -/
theorem place_ne (apart : ∀ place, original.resolve .create e.buildVarPath = .ok place →
      original.resolve .create e.headerPath ≠ .ok place) {u v : Uuid} {entry other : Stored}
    (mem : entry ∈ e.writes u) (mem' : other ∈ e.writes v) (different : entry.1 ≠ other.1)
    {place place' : Location} (led : original.resolve .create entry.1 = .ok place)
    (led' : original.resolve .create other.1 = .ok place') : place ≠ place' := by
  rintro rfl
  rcases path_of_writes mem with first | first
  · rcases path_of_writes mem' with second | second
    · exact different (first.trans second.symm)
    · rw [first] at led
      rw [second] at led'
      exact apart place led led'
  · rcases path_of_writes mem' with second | second
    · rw [first] at led
      rw [second] at led'
      exact apart place led' led
    · exact different (first.trans second.symm)

variable {emitters : List Emitter} {sys : System (Except Error Emitted)}

theorem Among.stage_set (h : e.Among original emitters sys) {i : Nat} {w : Emitter}
    {p : Process (Except Error Emitted)} (there : emitters[i]? = some w) {done todo : List Stored}
    {stored : List (Nat × String)} (more : sys.stored ⊆ stored)
    (split : e.writes w.id = done ++ todo) (stage : e.Stage original w p todo)
    (kept : ∀ entry ∈ done, (i, entry.1) ∈ stored) (j : Nat) (v : Emitter)
    (q : Process (Except Error Emitted)) (there' : emitters[j]? = some v)
    (found : (sys.processes.set i p)[j]? = some q) : ∃ done todo, e.writes v.id = done ++ todo ∧
      e.Stage original v q todo ∧ ∀ entry ∈ done, (j, entry.1) ∈ stored := by
  rw [List.getElem?_set] at found
  by_cases same : i = j
  · subst same
    rw [there] at there'
    obtain rfl := Option.some.inj there'
    rw [if_pos rfl] at found
    split at found
    · obtain rfl := Option.some.inj found
      exact ⟨done, todo, split, stage, kept⟩
    · cases found
  · rw [if_neg same] at found
    obtain ⟨done, todo, split, stage, kept⟩ := h.stage j v q there' found
    exact ⟨done, todo, split, stage, fun entry mem => more (kept entry mem)⟩

theorem among_step (names : e.checkNames = .ok ()) (rooted : original.Rooted)
    (apart : ∀ place, original.resolve .create e.buildVarPath = .ok place →
      original.resolve .create e.headerPath ≠ .ok place)
    (h : e.Among original emitters sys) (i : Nat) : e.Among original emitters (sys.step i) := by
  cases found : sys.processes[i]? with
  | none =>
    rw [System.step, found]
    exact h
  | some p =>
    have inside : i < emitters.length := h.count ▸ (List.getElem?_eq_some_iff.mp found).1
    have there : emitters[i]? = some emitters[i] := List.getElem?_eq_getElem inside
    obtain ⟨done, todo, split, stage, kept⟩ := h.stage i _ p there found
    obtain ⟨rest, does, stage'⟩ := stage.step names h.extends'
    rw [System.step_eq found]
    cases does with
    | nothing silent same =>
      rw [silent, same]
      refine ⟨h.extends', ?_, ?_, h.held⟩
      · rw [List.length_set, h.count]
      · exact h.stage_set there (List.Subset.refl _) split stage' kept
    | @stores path text rest stores written =>
      obtain ⟨place, stored⟩ := (h.extends'.rooted rooted).stores written
      have led := h.extends'.resolve_back stored.led
      have here : (path, text) ∈ e.writes emitters[i].id := by
        rw [split]
        exact List.mem_append_right _ (.head _)
      rw [stores]
      refine ⟨h.extends'.trans stored.extends', ?_, ?_, ?_⟩
      · rw [List.length_set, h.count]
      · refine h.stage_set there (List.subset_append_right _ _)
          (split.trans (List.append_cons _ _ _)) stage' ?_
        intro entry mem
        rcases List.mem_append.mp mem with before | now
        · exact List.mem_append_right _ (kept entry before)
        · obtain rfl := List.mem_singleton.mp now
          exact .head _
      · intro path' j last
        change System.lastWriter? ⟨_, _, (i, path) :: sys.stored⟩ path' = some j at last
        rw [System.lastWriter?_cons] at last
        by_cases same : path = path'
        · subst same
          rw [if_pos rfl, Option.some.injEq] at last
          subst last
          exact ⟨_, text, place, there, here, led, stored.stored⟩
        · rw [if_neg same] at last
          obtain ⟨w, text', place', there', mem, led', held⟩ := h.held path' j last
          have elsewhere := place_ne apart here mem same led led'
          exact ⟨w, text', place', there', mem, led',
            (stored.elsewhere place' elsewhere.symm).trans held⟩

theorem among_run (names : e.checkNames = .ok ()) (rooted : original.Rooted)
    (apart : ∀ place, original.resolve .create e.buildVarPath = .ok place →
      original.resolve .create e.headerPath ≠ .ok place)
    (h : e.Among original emitters sys) (schedule : List Nat) :
    e.Among original emitters (sys.run schedule) := by
  induction schedule generalizing sys with
  | nil => exact h
  | cons i rest ih => exact ih (among_step names rooted apart h i)

/-- Either path leads to the artifact of the last one to store by it. -/
theorem Among.read (h : e.Among original emitters sys) {path : String} {i : Nat}
    (last : sys.lastWriter? path = some i) : ∃ w text, emitters[i]? = some w ∧
      (path, text) ∈ e.writes w.id ∧ sys.tree.read path = .ok text := by
  obtain ⟨w, text, place, there, mem, led, held⟩ := h.held path i last
  exact ⟨w, text, there, mem, FileTree.read_of_resolve (h.extends'.resolve led (by decide)) held⟩

theorem text_of_writes {u : Uuid} {text : String} :
    ((e.buildVarPath, text) ∈ e.writes u → text = BuildVar.render e.variableName u) ∧
      ((e.headerPath, text) ∈ e.writes u → text = Header.render e.macroName u) := by
  have different := e.buildVarPath_ne_headerPath
  simp only [writes, List.mem_cons, Prod.mk.injEq, List.not_mem_nil, or_false, true_and, different,
    different.symm, false_and, or_false, false_or, imp_self, and_self]

/-- Artifacts of two emitters are told apart by their identifiers. -/
theorem Among.verified (names : e.checkNames = .ok ()) (h : e.Among original emitters sys)
    {i j : Nat} (last : sys.lastWriter? e.buildVarPath = some i)
    (last' : sys.lastWriter? e.headerPath = some j) : ∃ first second,
      emitters[i]? = some first ∧ emitters[j]? = some second ∧
      e.verified sys.tree = if first.id = second.id then .ok first.id
        else .error (.differentIds first.id second.id) := by
  obtain ⟨validVariable, validMacro⟩ := checkNames_eq_ok_iff.mp names
  obtain ⟨first, text, there, mem, read⟩ := h.read last
  obtain ⟨second, text', there', mem', read'⟩ := h.read last'
  obtain rfl := text_of_writes.1 mem
  obtain rfl := text_of_writes.2 mem'
  refine ⟨first, second, there, there', ?_⟩
  rw [verified_of_read names read read', BuildVar.read_render validVariable,
    Header.read_render validMacro]
  by_cases same : first.id = second.id
  · simp [agree, same, bind, Except.bind]
  · simp [agree, same, bind, Except.bind]

/-- With nothing in their way, emitters that have finished have stored all their texts. -/
theorem Among.finished (names : e.checkNames = .ok ()) (h : e.Among original emitters sys)
    (ready : e.Ready original) {i : Nat} {w : Emitter} {p : Process (Except Error Emitted)}
    (there : emitters[i]? = some w) (found : sys.processes[i]? = some p)
    {result : Except Error Emitted} (done : p.script = .done result) : result.isOk = true ∧
      (i, e.buildVarPath) ∈ sys.stored ∧ (i, e.headerPath) ∈ sys.stored := by
  obtain ⟨before, todo, split, stage, kept⟩ := h.stage i w p there found
  cases stage with
  | drawing =>
    obtain ⟨next, drawing, -⟩ := plans_drawn names original
    have script : (w.process e).script = .draw next := drawing
    rw [script] at done
    cases done
  | storing plans =>
    rw [done] at plans
    obtain ⟨all, succeeds⟩ : e.Ends original result todo := plans
    obtain rfl := all (succeeds ready)
    rw [List.append_nil] at split
    subst split
    exact ⟨succeeds ready, kept _ (.head _), kept _ (.tail _ (.head _))⟩

/-- Whatever the order of their requests, verifying behind several emissions comes to the identifier
of those that were the last ones to store either artifact, if that is one identifier, and tells
both of them otherwise. If nothing is in their way, all emissions succeed. -/
theorem verify_interleaved {tree : FileTree} (names : e.checkNames = .ok ()) (rooted : tree.Rooted)
    (apart : ∀ place, tree.resolve .create e.buildVarPath = .ok place →
      tree.resolve .create e.headerPath ≠ .ok place)
    (emitters : List Emitter) (schedule : List Nat) :
    let sys := (begin e tree emitters).run schedule
    (∀ i j, sys.lastWriter? e.buildVarPath = some i → sys.lastWriter? e.headerPath = some j →
      ∃ first second, emitters[i]? = some first ∧ emitters[j]? = some second ∧
        ∀ (c : Context) (s : Surroundings), s.tree = sys.tree → (c.exec e.verify.run s).1 =
          if first.id = second.id then .ok first.id
          else .error (.differentIds first.id second.id)) ∧
    (sys.Finished → e.Ready tree → emitters ≠ [] →
      (∀ p ∈ sys.processes, ∃ emitted, p.script = .done (.ok emitted)) ∧
      ∃ i j, sys.lastWriter? e.buildVarPath = some i ∧ sys.lastWriter? e.headerPath = some j) := by
  intro sys
  have among : e.Among tree emitters sys :=
    among_run names rooted apart (among_begin e tree emitters) schedule
  constructor
  · intro i j last last'
    obtain ⟨first, second, there, there', verified⟩ := among.verified names last last'
    refine ⟨first, second, there, there', ?_⟩
    intro c s same
    obtain ⟨events, effect⟩ := e.exec_verify c s
    rw [effect, same]
    exact verified
  · intro finished ready occupied
    have each {i : Nat} {p : Process (Except Error Emitted)} (found : sys.processes[i]? = some p) :
        (∃ emitted, p.script = .done (.ok emitted)) ∧
          (i, e.buildVarPath) ∈ sys.stored ∧ (i, e.headerPath) ∈ sys.stored := by
      have inside : i < emitters.length := among.count ▸ (List.getElem?_eq_some_iff.mp found).1
      obtain ⟨result, done⟩ := finished p (List.mem_of_getElem? found)
      obtain ⟨succeeded, stored⟩ :=
        among.finished names ready (List.getElem?_eq_getElem inside) found done
      cases result with
      | ok emitted => exact ⟨⟨emitted, done⟩, stored⟩
      | error fault => cases succeeded
    constructor
    · intro p mem
      obtain ⟨i, found⟩ := List.mem_iff_getElem?.mp mem
      exact (each found).1
    · have inside : 0 < sys.processes.length := among.count ▸ List.length_pos_of_ne_nil occupied
      obtain ⟨-, stored, stored'⟩ := each (List.getElem?_eq_getElem inside)
      obtain ⟨i, last⟩ := System.exists_lastWriter? stored
      obtain ⟨j, last'⟩ := System.exists_lastWriter? stored'
      exact ⟨i, j, last, last'⟩

/-! Two emitters into one directory: the second one is the last to store the build variable, the
first one the last to store the header. -/

def rivals : List Emitter :=
  [⟨.direct, ⟨fun _ => .ok linkedId, 0⟩, linked.time, [], linkedId, fun _ => rfl, by decide⟩,
    ⟨.direct, ⟨fun _ => .ok otherId, 0⟩, linked.time, [], otherId, fun _ => rfl, by decide⟩]

def blank : FileTree := pairTree "" ""

/-- Both draw their identifiers. -/
def drawing : List Nat := [0, 0, 1, 1]

/-- Both store their texts. -/
def storing : List Nat := [0, 1, 0, 1, 1, 1, 0, 0, 0, 0, 1, 1]

/-- What is left of an emission behind its draw and the check of what it has drawn. -/
def putting (u : Uuid) : Script (Except Error Emitted) :=
  .isDirectory linkedEmission.directory fun found =>
    if found then
      .write linkedEmission.buildVarPath (BuildVar.render linkedEmission.variableName u) fun
        | .ok () =>
          .log (event .debug "wrote build variable" [("path", linkedEmission.buildVarPath)])
            (.write linkedEmission.headerPath (Header.render linkedEmission.macroName u) fun
              | .ok () =>
                .log (event .debug "wrote header" [("path", linkedEmission.headerPath)])
                  (.log (event .info "emitted TA identifier"
                    [("uuid", u.text), ("out_dir", linkedEmission.directory)])
                    (.done (.ok ⟨u, linkedEmission.buildVarPath, linkedEmission.headerPath⟩)))
              | .error fault => .done (.error (.file linkedEmission.headerPath fault)))
        | .error fault => .done (.error (.file linkedEmission.buildVarPath fault))
    else .done (.error (.missingOutputDirectory linkedEmission.directory))

theorem run_putArtifacts (u : Uuid) : (linkedEmission.putArtifacts u).run = putting u := by
  refine congrArg (Script.isDirectory _) (funext fun found => ?_)
  cases found with
  | false => rfl
  | true =>
    refine congrArg (Script.write _ _) (funext fun result => ?_)
    cases result with
    | error fault => rfl
    | ok =>
      refine congrArg (Script.log _) (congrArg (Script.write _ _) (funext fun result => ?_))
      cases result with
      | error fault => rfl
      | ok => rfl

theorem run_rivals : ((begin linkedEmission blank rivals).run (drawing ++ storing)).stored =
      [(0, linkedEmission.headerPath), (1, linkedEmission.headerPath),
        (1, linkedEmission.buildVarPath), (0, linkedEmission.buildVarPath)] ∧
    ((begin linkedEmission blank rivals).run (drawing ++ storing)).Finished := by
  have drawn : (begin linkedEmission blank rivals).run drawing =
      ⟨[⟨.direct, (linkedEmission.putArtifacts linkedId).run, _, _, _⟩,
        ⟨.direct, (linkedEmission.putArtifacts otherId).run, _, _, _⟩], blank, []⟩ := rfl
  rw [System.run_append, drawn, run_putArtifacts, run_putArtifacts]
  simp only [System.run, System.Finished, System.step, Process.step, Process.stores?, putting, blank,
    storing, isDirectory_pairTree, write_pairTree, List.foldl_cons, List.foldl_nil,
    List.getElem?_cons_zero, List.getElem?_cons_succ, List.set_cons_zero, List.set_cons_succ, if_true]
  refine ⟨rfl, ?_⟩
  simp

theorem verify_interleaved_rivals : linkedEmission.checkNames = .ok () ∧ blank.Rooted ∧
    (∀ place, blank.resolve .create linkedEmission.buildVarPath = .ok place →
      blank.resolve .create linkedEmission.headerPath ≠ .ok place) ∧
    let sys := (begin linkedEmission blank rivals).run (drawing ++ storing)
    sys.Finished ∧ (∀ p ∈ sys.processes, ∃ emitted, p.script = .done (.ok emitted)) ∧
      ∀ s : Surroundings, s.tree = sys.tree → (Context.direct.exec linkedEmission.verify.run s).1 =
        .error (.differentIds otherId linkedId) := by
  have names : linkedEmission.checkNames = .ok () :=
    checkNames_eq_ok_iff.mpr ⟨by decide, by decide⟩
  have rooted : blank.Rooted := FileTree.isDirectoryPath_nil _
  obtain ⟨led, led'⟩ := resolve_pairTree "" "" .create
  have apart (place : Location)
      (first : blank.resolve .create linkedEmission.buildVarPath = .ok place) :
      blank.resolve .create linkedEmission.headerPath ≠ .ok place := by
    obtain rfl := Except.ok.inj (led.symm.trans first)
    rw [show blank.resolve .create _ = _ from led']
    exact fun same => absurd (Except.ok.inj same) (by decide)
  have ready : linkedEmission.Ready blank := ready_pairTree "" ""
  obtain ⟨stored, finished⟩ := run_rivals
  obtain ⟨verified, succeeded⟩ :=
    verify_interleaved names rooted apart rivals (drawing ++ storing)
  refine ⟨names, rooted, apart, finished, (succeeded finished ready (List.cons_ne_nil _ _)).1, ?_⟩
  intro s same
  have last : ((begin linkedEmission blank rivals).run (drawing ++ storing)).lastWriter?
      linkedEmission.buildVarPath = some 1 := by
    rw [System.lastWriter?, stored]
    decide
  have last' : ((begin linkedEmission blank rivals).run (drawing ++ storing)).lastWriter?
      linkedEmission.headerPath = some 0 := by
    rw [System.lastWriter?, stored]
    decide
  obtain ⟨_, _, ⟨⟩, ⟨⟩, mismatch⟩ := verified 1 0 last last'
  exact (mismatch .direct s same).trans (if_neg (by decide))

end Emission

end TrustedAppId
