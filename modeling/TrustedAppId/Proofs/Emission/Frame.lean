import TrustedAppId.Proofs.Cassette.Replaying
import TrustedAppId.Proofs.Emission.EmitVerify
import TrustedAppId.Proofs.Script.Frame
/-! What emitting asks for and what it changes. An identifier is drawn once, if the names are good;
the tree is as before until the first artifact is stored, and from then on only the second write can
fail. -/
namespace TrustedAppId.Emission

/-! Requests. -/

/-- What is asked for behind the draw. -/
def Storing (e : Emission) : Request → Prop
  | .isDirectory path => path = e.directory
  | .write path text => ∃ u, (path, text) ∈ e.writes u
  | .log _ => True
  | _ => False

variable {e : Emission} {allowed : Request → Prop}

theorem within_checkRandom (u : Uuid) : (checkRandom u).run.Within e.Storing := by
  refine .run_bind (.log trivial) fun _ => ?_
  dsimp only
  split
  · exact .run_bind (.log trivial) fun _ => .run_throw _
  · exact .run_pure u

theorem within_putArtifacts (u : Uuid) : (e.putArtifacts u).run.Within e.Storing := by
  refine .run_bind (.isDirectory rfl) fun found => ?_
  dsimp only
  split
  · exact .run_throw _
  · refine .run_bind (.putFile ⟨u, .head _⟩) fun _ => ?_
    refine .run_bind (.log trivial) fun _ => ?_
    refine .run_bind (.putFile ⟨u, .tail _ (.head _)⟩) fun _ => ?_
    refine .run_bind (.log trivial) fun _ => ?_
    exact .run_bind (.log trivial) fun _ => .run_pure _

theorem within_emit (draw : allowed .draw)
    (storing : ∀ request, e.Storing request → allowed request) : e.emit.run.Within allowed := by
  have checks (u : Uuid) := (within_checkRandom u).mono storing
  have puts (u : Uuid) := (within_putArtifacts u).mono storing
  exact .run_bind (.ofExcept _) fun _ => .run_bind (.run_bind (.draw draw) checks) puts

/-- The files that emitting writes. -/
theorem writesTo_emit :
    e.emit.run.Within (Request.WritesTo [e.buildVarPath, e.headerPath]) := by
  apply within_emit
  · trivial
  · intro request storing
    cases request with
    | write path text =>
      obtain ⟨u, mem⟩ := storing
      exact List.mem_map_of_mem (f := Prod.fst) mem
    | _ => trivial

variable {c : Context} {s : Surroundings}

theorem draws_emit : c.draws s e.emit.run = if e.checkNames.isOk then 1 else 0 := by
  have none (request : Request) (storing : e.Storing request) : request ≠ .draw := by
    rintro rfl
    exact storing
  have checks (u : Uuid) := (within_checkRandom u).mono none
  have puts (u : Uuid) := (within_putArtifacts u).mono none
  rw [emit, Context.draws_run_bind, Context.draws_eq_zero _ _ (.ofExcept _),
    Context.exec_ofExcept, Nat.zero_add]
  cases e.checkNames with
  | error fault => rfl
  | ok =>
    exact (Context.draws_run_bind_of_within c s _ puts).trans
      (Context.draws_run_bind_of_within c s Run.draw checks)

/-! Changes. -/

theorem buildVarPath_ne_headerPath (e : Emission) : e.buildVarPath ≠ e.headerPath := by
  intro same
  exact absurd (FileTree.join_inj.mp same) (by decide)

theorem invalidName_of_checkNames {fault : Error} (refused : e.checkNames = .error fault) :
    ∃ name, fault = .invalidName name := by
  unfold checkNames checkName at refused
  split at refused
  · split at refused
    · cases refused
    · exact ⟨_, (Except.error.inj refused).symm⟩
  · exact ⟨_, (Except.error.inj refused).symm⟩

/-- Storing both artifacts succeeds, or fails with the tree as it was, or fails at the header. -/
theorem store_cases {tree : FileTree} (rooted : tree.Rooted) (u : Uuid) :
    (∃ result, (e.store u tree).1 = .ok result) ∨
    (∃ fault, e.store u tree = (.error fault, tree) ∧
      ∀ cause, fault ≠ .file e.headerPath cause) ∨
    ∃ cause place, (e.store u tree).1 = .error (.file e.headerPath cause) ∧
      FileTree.Stores tree e.buildVarPath (.text (BuildVar.render e.variableName u))
        (e.store u tree).2 place := by
  unfold store
  split
  · exact .inr (.inl ⟨_, rfl, nofun⟩)
  split
  · exact .inr (.inl ⟨_, rfl, nofun⟩)
  split
  · refine .inr (.inl ⟨_, rfl, ?_⟩)
    intro cause same
    exact e.buildVarPath_ne_headerPath (Error.file.inj same).1
  next between written =>
  obtain ⟨place, stores⟩ := rooted.stores written
  split
  · exact .inr (.inr ⟨_, place, rfl, stores⟩)
  · exact .inl ⟨_, rfl⟩

/-- An emission succeeds, or fails with the tree as it was, or fails at the header. -/
theorem emit_cases (rooted : s.tree.Rooted)
    (source : ∀ fault, (c.draw s).1 = .error fault → ∃ cause, fault = .cassette cause) :
    (∃ result, (c.exec e.emit.run s).1 = .ok result) ∨
    (∃ fault, (c.exec e.emit.run s).1 = .error fault ∧ (c.exec e.emit.run s).2.2.tree = s.tree ∧
      ∀ cause, fault ≠ .file e.headerPath cause) ∨
    ∃ u cause place, (c.draw s).1 = .ok u ∧
      (c.exec e.emit.run s).1 = .error (.file e.headerPath cause) ∧
      FileTree.Stores s.tree e.buildVarPath (.text (BuildVar.render e.variableName u))
        (c.exec e.emit.run s).2.2.tree place := by
  obtain ⟨events, effect⟩ := exec_emit e c s
  rw [effect]
  cases names : e.checkNames with
  | error fault =>
    obtain ⟨name, rfl⟩ := invalidName_of_checkNames names
    exact .inr (.inl ⟨_, rfl, rfl, nofun⟩)
  | ok =>
    simp only [Context.tree_draw]
    cases drawn : (c.draw s).1 with
    | error fault =>
      obtain ⟨cause, rfl⟩ := source fault drawn
      exact .inr (.inl ⟨_, rfl, rfl, nofun⟩)
    | ok u =>
      rcases store_cases (e := e) rooted u with
        ⟨result, stored⟩ | ⟨fault, failed, other⟩ | ⟨cause, place, failed, stores⟩
      · exact .inl ⟨result, stored⟩
      · exact .inr (.inl ⟨fault, congrArg Prod.fst failed, congrArg Prod.snd failed, other⟩)
      · exact .inr (.inr ⟨u, cause, place, rfl, failed, stores⟩)

/-- An emission draws one identifier if its names are good, and none otherwise. It makes no
directory. If it succeeds, nothing but its two files has changed; if it fails on account of the
header's file, nothing but the other one, which holds the build variable of the identifier drawn;
and if it fails in any other way, nothing at all. -/
theorem emit_frame (rooted : s.tree.Rooted)
    (source : ∀ fault, (c.draw s).1 = .error fault → ∃ cause, fault = .cassette cause) :
    c.draws s e.emit.run = (if e.checkNames.isOk then 1 else 0) ∧
    (∀ place, (c.exec e.emit.run s).2.2.tree.get? place = some .directory ↔
      s.tree.get? place = some .directory) ∧
    match (c.exec e.emit.run s).1 with
    | .ok _ =>
      FileTree.ChangesOnly [e.buildVarPath, e.headerPath] s.tree (c.exec e.emit.run s).2.2.tree
    | .error fault =>
      ((∀ cause, fault ≠ .file e.headerPath cause) → (c.exec e.emit.run s).2.2.tree = s.tree) ∧
      ∀ cause, fault = .file e.headerPath cause → ∃ u place, (c.draw s).1 = .ok u ∧
        FileTree.Stores s.tree e.buildVarPath (.text (BuildVar.render e.variableName u))
          (c.exec e.emit.run s).2.2.tree place := by
  have changes := c.changesOnly_exec (writesTo_emit (e := e)) rooted
  refine ⟨draws_emit, changes.directory_iff, ?_⟩
  rcases emit_cases rooted source with
    ⟨result, succeeded⟩ | ⟨fault, failed, same, other⟩ | ⟨u, cause, place, drawn, failed, stores⟩
  · rw [succeeded]
    exact changes
  · rw [failed]
    refine ⟨fun _ => same, ?_⟩
    intro cause header
    exact absurd header (other cause)
  · rw [failed]
    refine ⟨fun other => absurd rfl (other cause), ?_⟩
    intro _ _
    exact ⟨u, place, drawn, stores⟩

/-! A directory in which `uuid.h` is a directory itself: a replayed identifier comes as far as the
build variable. -/

def blockedTree (file : Option Contents) : FileTree where
  entries := (["uuid.h"], .directory) ::
    file.toList.map fun contents => (["uuid.mk"], .file contents)
  workingDirectory := []

def blocked : Surroundings := { linked with tree := blockedTree none }

def taped : Context :=
  .replaying (.ofCassette (((Recorder.start "").recordIds [linkedId]).cassette linked.time))

open FileTree in
theorem write_blockedTree (file : Option Contents) (contents : Contents) :
    (blockedTree file).write linkedEmission.buildVarPath contents =
        .ok (blockedTree (some contents)) ∧
      (blockedTree file).write linkedEmission.headerPath contents = .error .isDirectory := by
  have buildVar : Path.ofString linkedEmission.buildVarPath =
      ⟨false, [".", "uuid.mk"], false⟩ := by decide
  have header : Path.ofString linkedEmission.headerPath =
      ⟨false, [".", "uuid.h"], false⟩ := by decide
  have led : (blockedTree file).resolve .create linkedEmission.buildVarPath = .ok ["uuid.mk"] ∧
      (blockedTree file).resolve .create linkedEmission.headerPath = .ok ["uuid.h"] := by
    unfold resolve
    rw [buildVar, header]
    cases file <;> simp +decide [walk, blockedTree, get?, List.lookup_cons]
  unfold FileTree.write
  rw [led.1, led.2]
  cases file <;> exact ⟨rfl, rfl⟩

theorem emit_blocked : (taped.exec linkedEmission.emit.run blocked).1 =
    .error (.file linkedEmission.headerPath .isDirectory) := by
  have here : (blockedTree none).isDirectory linkedEmission.directory = true := by
    have dot : FileTree.Path.ofString "." = ⟨false, ["."], false⟩ := by decide
    simp +decide [FileTree.isDirectory, FileTree.resolve, blockedTree, linkedEmission, dot,
      FileTree.walk]
  have drawn : (taped.draw blocked).1 = .ok linkedId :=
    (Replayer.nextId_of_serves (Replayer.serves_ofCassette rfl)).1
  have failed : (linkedEmission.store linkedId (blockedTree none)).1 =
      .error (.file linkedEmission.headerPath .isDirectory) := by
    simp only [store, (write_blockedTree _ _).1, (write_blockedTree _ _).2, here]
    rfl
  obtain ⟨events, effect⟩ := exec_emit linkedEmission taped blocked
  rw [effect, drawn]
  exact failed

theorem emit_frame_blocked : blocked.tree.Rooted ∧
    (∀ fault, (taped.draw blocked).1 = .error fault → ∃ cause, fault = .cassette cause) ∧
    taped.draws blocked linkedEmission.emit.run = 1 ∧
    ∃ u place, (taped.draw blocked).1 = .ok u ∧
      FileTree.Stores blocked.tree linkedEmission.buildVarPath
        (.text (BuildVar.render linkedEmission.variableName u))
        (taped.exec linkedEmission.emit.run blocked).2.2.tree place := by
  have rooted : blocked.tree.Rooted := FileTree.isDirectoryPath_nil _
  have source (fault : Error) (failed : (taped.draw blocked).1 = .error fault) :
      ∃ cause, fault = .cassette cause :=
    Replayer.cassette_of_nextId failed
  obtain ⟨draws, -, frame⟩ := emit_frame (e := linkedEmission) rooted source
  rw [emit_blocked] at frame
  exact ⟨rooted, source, draws, frame.2 _ rfl⟩

end TrustedAppId.Emission
