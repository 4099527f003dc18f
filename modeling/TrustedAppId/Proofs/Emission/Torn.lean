import TrustedAppId.Proofs.Artifact.Cut
import TrustedAppId.Proofs.Emission.EmitVerify
import TrustedAppId.Proofs.FileTree.Apart
import TrustedAppId.Proofs.Script.Crash
/-! Interrupted emissions, and verifying what they have left behind. Either artifact may have been
cut off while it was written; the pair is verified only if nothing but line feeds at the end is
missing. -/
namespace TrustedAppId.Emission

/-- The files of the artifacts have these texts. -/
structure Holds (e : Emission) (buildVar header : String) (tree : FileTree) : Prop where
  buildVar : tree.read e.buildVarPath = .ok buildVar
  header : tree.read e.headerPath = .ok header

/-- The texts of the artifacts when emitting `new` over the artifacts of `old` has been interrupted,
before or while the header was written. -/
inductive Torn (e : Emission) (old new : Uuid) : String → String → Prop where
  | buildVar {part : String} : part.toList <+: (BuildVar.render e.variableName new).toList →
      Torn e old new part (Header.render e.macroName old)
  | header {part : String} : part.toList <+: (Header.render e.macroName new).toList →
      Torn e old new (BuildVar.render e.variableName new) part

variable {e : Emission} {old new : Uuid} {buildVar header : String}

theorem read_torn_iff (names : e.checkNames = .ok ()) (torn : Torn e old new buildVar header)
    {v : Uuid} :
    BuildVar.read buildVar = .ok (e.variableName, v) ∧ Header.read header = .ok (e.macroName, v) ↔
      (Artifact.Complete (BuildVar.render e.variableName new) buildVar ∧
        Artifact.Complete (Header.render e.macroName new) header) ∧ v = new := by
  obtain ⟨validVariable, validMacro⟩ := checkNames_eq_ok_iff.mp names
  cases torn with
  | buildVar front =>
    rw [BuildVar.read_front_iff validVariable front, Header.read_render validMacro,
      Header.complete_render_iff validMacro]
    simp only [Except.ok.injEq, Prod.mk.injEq, true_and]
    constructor
    · rintro ⟨⟨complete, rfl⟩, rfl⟩
      exact ⟨⟨complete, rfl⟩, rfl⟩
    · rintro ⟨⟨complete, rfl⟩, rfl⟩
      exact ⟨⟨complete, rfl⟩, rfl⟩
  | header front =>
    rw [BuildVar.read_render validVariable, Header.read_front_iff validMacro front]
    simp only [Except.ok.injEq, Prod.mk.injEq, true_and]
    constructor
    · rintro ⟨rfl, complete, -⟩
      exact ⟨⟨.inl rfl, complete⟩, rfl⟩
    · rintro ⟨⟨-, complete⟩, rfl⟩
      exact ⟨rfl, complete, rfl⟩

/-- A torn pair is verified only if both of its texts are complete, and then as the pair of the new
identifier; a header that is still the old one is complete if it is of the same identifier. -/
theorem verify_torn {c : Context} {s : Surroundings} (names : e.checkNames = .ok ())
    (torn : Torn e old new buildVar header) (holds : e.Holds buildVar header s.tree) :
    (∀ v, (c.exec e.verify.run s).1 = .ok v ↔
      (Artifact.Complete (BuildVar.render e.variableName new) buildVar ∧
        Artifact.Complete (Header.render e.macroName new) header) ∧ v = new) ∧
    (Artifact.Complete (Header.render e.macroName new) (Header.render e.macroName old) ↔
      old = new) := by
  refine ⟨?_, Header.complete_render_iff (checkNames_eq_ok_iff.mp names).2⟩
  intro v
  obtain ⟨events, effect⟩ := exec_verify e c s
  rw [effect, verified_eq_ok_iff, ← read_torn_iff names torn]
  simp only [names, holds.buildVar, holds.header, true_and, Except.ok.injEq]
  constructor
  · rintro ⟨_, _, rfl, rfl, read⟩
    exact read
  · intro read
    exact ⟨_, _, rfl, rfl, read⟩

/-! Two artifacts of which only the first one has been renewed. -/

def pairTree (buildVar header : String) : FileTree where
  entries := [(["uuid.mk"], .file (.text buildVar)), (["uuid.h"], .file (.text header))]
  workingDirectory := []

open FileTree in
theorem resolve_pairTree (buildVar header : String) (purpose : Purpose) :
    (pairTree buildVar header).resolve purpose linkedEmission.buildVarPath = .ok ["uuid.mk"] ∧
      (pairTree buildVar header).resolve purpose linkedEmission.headerPath = .ok ["uuid.h"] := by
  have first : Path.ofString linkedEmission.buildVarPath =
      ⟨false, [".", "uuid.mk"], false⟩ := by decide
  have second : Path.ofString linkedEmission.headerPath =
      ⟨false, [".", "uuid.h"], false⟩ := by decide
  unfold resolve
  rw [first, second]
  simp +decide [walk, pairTree, get?, List.lookup_cons]

theorem holds_pairTree (buildVar header : String) :
    linkedEmission.Holds buildVar header (pairTree buildVar header) := by
  obtain ⟨first, second⟩ := resolve_pairTree buildVar header .lookup
  exact ⟨FileTree.read_of_resolve first rfl, FileTree.read_of_resolve second rfl⟩

def otherId : Uuid := ⟨0x8aaaf200245041e4abe20002a5d5c51b⟩

def halfRenewed : Surroundings where
  tree := pairTree (BuildVar.render linkedEmission.variableName otherId)
    (Header.render linkedEmission.macroName linkedId)
  ids := linked.ids
  time := linked.time
  events := []

theorem verify_torn_halfRenewed : linkedEmission.checkNames = .ok () ∧
    Torn linkedEmission linkedId otherId (BuildVar.render linkedEmission.variableName otherId)
      (Header.render linkedEmission.macroName linkedId) ∧
    linkedEmission.Holds (BuildVar.render linkedEmission.variableName otherId)
      (Header.render linkedEmission.macroName linkedId) halfRenewed.tree ∧
    ∀ v, (Context.direct.exec linkedEmission.verify.run halfRenewed).1 ≠ .ok v := by
  have names : linkedEmission.checkNames = .ok () :=
    checkNames_eq_ok_iff.mpr ⟨by decide, by decide⟩
  have torn : Torn linkedEmission linkedId otherId _ _ := .buildVar (List.prefix_refl _)
  have holds := holds_pairTree (BuildVar.render linkedEmission.variableName otherId)
    (Header.render linkedEmission.macroName linkedId)
  obtain ⟨verified, complete⟩ := verify_torn (c := .direct) (s := halfRenewed) names torn holds
  refine ⟨names, torn, holds, ?_⟩
  intro v succeeded
  exact absurd (complete.mp ((verified v).mp succeeded).1.2) (by decide)

/-! An emission that is interrupted leaves such a pair, unless it has stored nothing yet. -/

/-- The artifacts of an identifier. -/
def Paired (e : Emission) (u : Uuid) : FileTree → Prop :=
  e.Holds (BuildVar.render e.variableName u) (Header.render e.macroName u)

/-- The build variable is already new, the header is still old. -/
structure Halfway (e : Emission) (old new : Uuid) (tree : FileTree) : Prop where
  rooted : tree.Rooted
  holds : e.Holds (BuildVar.render e.variableName new) (Header.render e.macroName old) tree

/-- What is left of the tree `before` when emitting `new` over the artifacts of `old` is
interrupted. -/
def Interrupted (e : Emission) (old new : Uuid) (before left : FileTree) : Prop :=
  left = before ∨ ∃ buildVar header, e.Torn old new buildVar header ∧ e.Holds buildVar header left

theorem Halfway.interrupted {before tree : FileTree} (h : e.Halfway old new tree) :
    e.Interrupted old new before tree :=
  .inr ⟨_, _, .buildVar (List.prefix_refl _), h.holds⟩

theorem Paired.interrupted {before tree : FileTree} (h : e.Paired new tree) :
    e.Interrupted old new before tree :=
  .inr ⟨_, _, .header (List.prefix_refl _), h⟩

section

variable (names : e.checkNames = .ok ())

include names

theorem putHeader_triple (old new : Uuid) (before : FileTree) :
    CrashTriple (e.Interrupted old new before) (e.Halfway old new)
      (Run.putFile e.headerPath (Header.render e.macroName new)) fun _ => e.Paired new := by
  obtain ⟨validVariable, validMacro⟩ := checkNames_eq_ok_iff.mp names
  have written {tree left : FileTree} {text : String} (h : e.Halfway old new tree)
      (written : tree.write e.headerPath (.text text) = .ok left) :
      e.Holds (BuildVar.render e.variableName new) text left := by
    obtain ⟨second, first⟩ := FileTree.read_write h.rooted h.holds.header h.holds.buildVar
      (Artifact.render_ne validVariable validMacro _ _).symm written
    exact ⟨first, second⟩
  apply CrashTriple.putFile
  · intro tree h
    exact h.interrupted
  · intro tree part left h front stored
    exact .inr ⟨_, _, .header front, written h stored⟩
  · intro tree left h stored
    exact written h stored

variable {before : FileTree} (rooted : before.Rooted) (paired : e.Paired old before)

include rooted paired

theorem putBuildVar_triple (new : Uuid) : CrashTriple (e.Interrupted old new before) (· = before)
    (Run.putFile e.buildVarPath (BuildVar.render e.variableName new))
    fun _ => e.Halfway old new := by
  obtain ⟨validVariable, validMacro⟩ := checkNames_eq_ok_iff.mp names
  have written {left : FileTree} {text : String}
      (written : before.write e.buildVarPath (.text text) = .ok left) :
      e.Holds text (Header.render e.macroName old) left := by
    obtain ⟨first, second⟩ := FileTree.read_write rooted paired.buildVar paired.header
      (Artifact.render_ne validVariable validMacro _ _) written
    exact ⟨first, second⟩
  apply CrashTriple.putFile
  · intro tree same
    exact .inl same
  · rintro tree part left rfl front stored
    exact .inr ⟨_, _, .buildVar front, written stored⟩
  · rintro tree left rfl stored
    obtain ⟨place, stores⟩ := rooted.stores stored
    exact ⟨stores.extends'.rooted rooted, written stored⟩

/-- Each of the two writes leads on to the next state of the pair. -/
theorem putArtifacts_triple (new : Uuid) : CrashTriple (e.Interrupted old new before) (· = before)
    (e.putArtifacts new) fun _ => e.Paired new := by
  refine (CrashTriple.isDirectory (fun _ same => .inl same) _).bind fun found => ?_
  dsimp only
  split
  · exact .run_throw _
  · refine (putBuildVar_triple names rooted paired new).bind fun _ => ?_
    refine (CrashTriple.log (fun _ h => h.interrupted) _).bind fun _ => ?_
    refine (putHeader_triple names old new before).bind fun _ => ?_
    refine (CrashTriple.log (fun _ h => h.interrupted) _).bind fun _ => ?_
    exact (CrashTriple.log (fun _ h => h.interrupted) _).bind fun _ => .run_pure _

end

/-- Drawing touches no file. -/
theorem drawRandom_triple (before : FileTree) :
    CrashTriple (· = before) (· = before) drawRandom fun _ => (· = before) := by
  refine (CrashTriple.draw fun _ => id).bind fun u => ?_
  refine (CrashTriple.log (fun _ => id) _).bind fun _ => ?_
  dsimp only
  split
  · exact (CrashTriple.log (fun _ => id) _).bind fun _ => .run_throw _
  · exact .run_pure u

theorem draw_of_drawRandom {c c' : Context} {s s' : Surroundings} {u : Uuid}
    (drawn : c.exec drawRandom.run s = (.ok u, c', s')) : (c.draw s).1 = .ok u := by
  rw [drawRandom, Context.exec_run_bind, Context.exec_run_draw] at drawn
  split at drawn
  · next v c₁ s₁ answered =>
    obtain ⟨events, checked⟩ := exec_checkRandom c₁ s₁ v
    rw [checked, Prod.mk.injEq] at drawn
    obtain ⟨same, -⟩ := drawn
    split at same
    · rw [answered, same]
    · cases same
  · cases drawn

/-- An emission over the artifacts of another identifier that is interrupted leaves the tree as it
was, or a torn pair of the identifier it has drawn. -/
theorem interrupted_emit {c : Context} {s : Surroundings} {left : FileTree}
    (names : e.checkNames = .ok ()) (rooted : s.tree.Rooted) (paired : e.Paired old s.tree)
    (cut : c.MayLeave e.emit.run s left) : left = s.tree ∨
      ∃ new buildVar header, (c.draw s).1 = .ok new ∧ e.Torn old new buildVar header ∧
        e.Holds buildVar header left := by
  -- Checking the names asks for nothing, so the crash falls into the draw or behind it.
  rcases Context.mayLeave_run_bind cut with ⟨_, mem, _⟩ | ⟨_, c', s', executed, cut⟩
  · contradiction
  rw [Context.exec_ofExcept, Prod.mk.injEq, Prod.mk.injEq] at executed
  obtain ⟨-, rfl, rfl⟩ := executed
  have drawing := drawRandom_triple s.tree
  rcases Context.mayLeave_run_bind cut with cut | ⟨new, c', s', drawn, cut⟩
  · exact .inl (drawing.cut rfl cut)
  · rcases (putArtifacts_triple names rooted paired new).cut
        (drawing.done rfl drawn) cut with same | ⟨_, _, torn, holds⟩
    · exact .inl same
    · exact .inr ⟨new, _, _, draw_of_drawRandom drawn, torn, holds⟩

/-- Whatever an interrupted emission has left, verifying it comes to the old identifier or to the
one drawn, if to any. -/
theorem verified_interrupted {c : Context} {s : Surroundings} {left : FileTree} {v : Uuid}
    (names : e.checkNames = .ok ()) (rooted : s.tree.Rooted) (paired : e.Paired old s.tree)
    (cut : c.MayLeave e.emit.run s left) (verified : e.verified left = .ok v) :
    v = old ∨ (c.draw s).1 = .ok v := by
  obtain ⟨-, _, _, first, second, read, read'⟩ := verified_eq_ok_iff.mp verified
  rcases interrupted_emit names rooted paired cut with rfl | ⟨new, _, _, drawn, torn, holds⟩
  · obtain ⟨validVariable, -⟩ := checkNames_eq_ok_iff.mp names
    rw [paired.buildVar] at first
    obtain rfl := Except.ok.inj first
    rw [BuildVar.read_render validVariable] at read
    exact .inl (congrArg Prod.snd (Except.ok.inj read)).symm
  · rw [holds.buildVar] at first
    rw [holds.header] at second
    obtain rfl := Except.ok.inj first
    obtain rfl := Except.ok.inj second
    obtain ⟨-, rfl⟩ := (read_torn_iff names torn).mp ⟨read, read'⟩
    exact .inr drawn

end TrustedAppId.Emission
