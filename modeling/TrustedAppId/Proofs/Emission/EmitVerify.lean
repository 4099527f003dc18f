import TrustedAppId.Proofs.Artifact.RoundTrip
import TrustedAppId.Proofs.Emission.Effect
import TrustedAppId.Proofs.FileTree.Storing
/-! Verifying after emitting. Both paths still lead where the artifacts were stored. If that is one
place for both of them, by way of links, the header has replaced the build variable there. -/
namespace TrustedAppId.Emission

variable {e : Emission} {u : Uuid} {tree final : FileTree} {result : Emitted}

theorem checkNames_eq_ok_iff : e.checkNames = .ok () ↔
    Identifier.isName e.variableName.toList = true ∧
      Identifier.isName e.macroName.toList = true := by
  rw [← checkName_eq_ok_iff, ← checkName_eq_ok_iff, checkNames]
  cases checkName e.variableName with
  | error fault => exact ⟨nofun, nofun⟩
  | ok =>
    constructor
    · intro valid
      exact ⟨rfl, valid⟩
    · rintro ⟨-, valid⟩
      exact valid

/-- Both artifacts have been stored, one after the other. -/
theorem store_eq_ok (rooted : tree.Rooted) (stored : e.store u tree = (.ok result, final)) :
    result.id = u ∧ ∃ between first second,
      FileTree.Stores tree e.buildVarPath (.text (BuildVar.render e.variableName u)) between first ∧
      FileTree.Stores between e.headerPath (.text (Header.render e.macroName u)) final second := by
  unfold store at stored
  split at stored
  · simp only [Prod.mk.injEq, reduceCtorEq, false_and] at stored
  split at stored
  · simp only [Prod.mk.injEq, reduceCtorEq, false_and] at stored
  split at stored
  · simp only [Prod.mk.injEq, reduceCtorEq, false_and] at stored
  · next between written =>
    obtain ⟨first, stores⟩ := rooted.stores written
    split at stored
    · simp only [Prod.mk.injEq, reduceCtorEq, false_and] at stored
    · next final' written' =>
      obtain ⟨second, stores'⟩ := (stores.extends'.rooted rooted).stores written'
      simp only [Prod.mk.injEq, Except.ok.injEq] at stored
      obtain ⟨rfl, rfl⟩ := stored
      exact ⟨rfl, between, first, second, stores, stores'⟩

/-- What the artifacts of a tree come to when their texts are known. -/
theorem verified_of_read {buildVar header : String} (names : e.checkNames = .ok ())
    (first : tree.read e.buildVarPath = .ok buildVar)
    (second : tree.read e.headerPath = .ok header) :
    e.verified tree =
      BuildVar.read buildVar >>= fun found => Header.read header >>= e.agree found := by
  have read (fault : FileFault → Error) (text : String) :
      (Except.ok text).mapError fault = .ok text := rfl
  simp only [verified, names, first, second, read, bind, Except.bind]

theorem agree_eq_ok_iff {buildVar header : String × Uuid} : e.agree buildVar header = .ok u ↔
    buildVar = (e.variableName, u) ∧ header = (e.macroName, u) := by
  obtain ⟨variableName, first⟩ := buildVar
  obtain ⟨macroName, second⟩ := header
  unfold agree
  split
  · next other => simp [other]
  split
  · next other => simp [other]
  next sameVariable sameMacro =>
  rw [Decidable.not_not] at sameVariable sameMacro
  subst sameVariable sameMacro
  split
  · next different =>
    constructor
    · exact nofun
    · rintro ⟨⟨rfl⟩, ⟨rfl⟩⟩
      exact absurd rfl different
  · next same =>
    obtain rfl : first = second := Decidable.not_not.mp same
    simp only [Except.ok.injEq, Prod.mk.injEq, true_and, and_self]

/-- A tree is verified if both artifacts are read with the expected names and one identifier. -/
theorem verified_eq_ok_iff : e.verified tree = .ok u ↔ e.checkNames = .ok () ∧
    ∃ buildVar header, tree.read e.buildVarPath = .ok buildVar ∧
      tree.read e.headerPath = .ok header ∧
      BuildVar.read buildVar = .ok (e.variableName, u) ∧
      Header.read header = .ok (e.macroName, u) := by
  constructor
  · intro verified
    simp only [Emission.verified, bind, Except.bind] at verified
    split at verified
    · contradiction
    next names =>
    split at verified
    · contradiction
    next buildVar first =>
    split at verified
    · contradiction
    next found firstRead =>
    split at verified
    · contradiction
    next header second =>
    split at verified
    · contradiction
    next found' secondRead =>
    obtain ⟨rfl, rfl⟩ := agree_eq_ok_iff.mp verified
    exact ⟨names, buildVar, header, mapError_eq_ok_iff.mp first, mapError_eq_ok_iff.mp second,
      firstRead, secondRead⟩
  · rintro ⟨names, buildVar, header, first, second, firstRead, secondRead⟩
    rw [verified_of_read names first second, firstRead]
    exact (congrArg (· >>= _) secondRead).trans (agree_eq_ok_iff.mpr ⟨rfl, rfl⟩)

theorem verified_store (rooted : tree.Rooted) (names : e.checkNames = .ok ())
    (stored : e.store u tree = (.ok result, final)) : ∃ first second,
      final.resolve .lookup e.buildVarPath = .ok first ∧
      final.resolve .lookup e.headerPath = .ok second ∧
      e.verified final =
        if first = second then .error (.buildVar .severalLines) else .ok u := by
  obtain ⟨-, between, first, second, stores, stores'⟩ := store_eq_ok rooted stored
  obtain ⟨validVariable, validMacro⟩ := checkNames_eq_ok_iff.mp names
  have found : final.get? first = some (.file (.text
      (if first = second then Header.render e.macroName u
        else BuildVar.render e.variableName u))) := by
    split
    · next same => rw [same, stores'.stored]
    · next different => rw [stores'.elsewhere first different, stores.stored]
  have led : final.resolve .lookup e.buildVarPath = .ok first :=
    (stores.extends'.trans stores'.extends').resolve stores.led (by decide)
  have led' : final.resolve .lookup e.headerPath = .ok second :=
    stores'.extends'.resolve stores'.led (by decide)
  refine ⟨first, second, led, led', ?_⟩
  rw [verified_of_read names (FileTree.read_of_resolve led found)
    (FileTree.read_of_resolve led' stores'.stored)]
  split
  · rw [Artifact.buildVar_read_header validMacro u]
    rfl
  · rw [BuildVar.read_render validVariable u, Header.read_render validMacro u]
    simp [agree, bind, Except.bind]

variable {c : Context} {s : Surroundings}

theorem emit_eq_store (names : e.checkNames = .ok ()) (drawn : (c.draw s).1 = .ok u) :
    (c.exec e.emit.run s).1 = (e.store u s.tree).1 ∧
      (c.exec e.emit.run s).2.2.tree = (e.store u s.tree).2 := by
  obtain ⟨events, effect⟩ := exec_emit e c s
  rw [names, drawn, Context.tree_draw] at effect
  rw [effect]
  exact ⟨rfl, rfl⟩

/-- An emission that succeeds has stored both artifacts of the identifier it drew. -/
theorem store_of_emit (succeeded : (c.exec e.emit.run s).1 = .ok result) :
    e.checkNames = .ok () ∧ ∃ u, (c.draw s).1 = .ok u ∧
      e.store u (c.draw s).2.2.tree = (.ok result, (c.exec e.emit.run s).2.2.tree) := by
  obtain ⟨events, effect⟩ := exec_emit e c s
  rw [effect] at succeeded ⊢
  cases names : e.checkNames with
  | error fault => simp only [names, reduceCtorEq] at succeeded
  | ok =>
    simp only [names] at succeeded ⊢
    cases answer : (c.draw s).1 with
    | error fault => simp only [emitted, answer, reduceCtorEq] at succeeded
    | ok u =>
      simp only [emitted, answer] at succeeded ⊢
      exact ⟨trivial, u, rfl, Prod.ext succeeded rfl⟩

/-- A successful emission is of the identifier that was drawn. Verifying it, in any context, depends
on whether the two paths lead to different places of the tree that the emission leaves behind. -/
theorem verify_emit (rooted : s.tree.Rooted) (succeeded : (c.exec e.emit.run s).1 = .ok result) :
    (c.draw s).1 = .ok result.id ∧ ∃ first second,
      (c.exec e.emit.run s).2.2.tree.resolve .lookup e.buildVarPath = .ok first ∧
      (c.exec e.emit.run s).2.2.tree.resolve .lookup e.headerPath = .ok second ∧
      ∀ (c' : Context) (s' : Surroundings), s'.tree = (c.exec e.emit.run s).2.2.tree →
        (c'.exec e.verify.run s').1 =
          if first = second then .error (.buildVar .severalLines) else .ok result.id := by
  obtain ⟨names, u, drawn, stored⟩ := store_of_emit succeeded
  rw [Context.tree_draw] at stored
  obtain ⟨rfl, -⟩ := store_eq_ok rooted stored
  obtain ⟨first, second, led, led', verified⟩ := verified_store rooted names stored
  refine ⟨drawn, first, second, led, led', ?_⟩
  intro c' s' same
  obtain ⟨events, effect⟩ := exec_verify e c' s'
  rw [effect, same]
  exact verified

/-! A directory whose `uuid.h` is a link to `uuid.mk`, which is free or a file: both artifacts are
stored in one place. -/

def linkedTree (file : Option Contents) : FileTree where
  entries := (["uuid.h"], .link "uuid.mk") ::
    file.toList.map fun contents => (["uuid.mk"], .file contents)
  workingDirectory := []

def linkedId : Uuid := ⟨0x6ba7b8109dad41d180b400c04fd430c8⟩

def linked : Surroundings where
  tree := linkedTree none
  ids := .ofList [linkedId] "no identifiers left"
  time := ⟨⟨2024, 1, 1, by decide, by decide, by decide⟩,
    ⟨0, 0, 0, 0, by decide, by decide, by decide, by decide⟩⟩
  events := []

def linkedEmission : Emission := ⟨".", "TA_UUID", "TA_UUID"⟩

open FileTree in
theorem resolve_linkedTree (file : Option Contents) {purpose : Purpose}
    (follows : purpose ≠ .entry) :
    (linkedTree file).resolve purpose linkedEmission.buildVarPath = .ok ["uuid.mk"] ∧
      (linkedTree file).resolve purpose linkedEmission.headerPath = .ok ["uuid.mk"] := by
  have target : Path.ofString "uuid.mk" = ⟨false, ["uuid.mk"], false⟩ := by decide
  have buildVar : Path.ofString linkedEmission.buildVarPath =
      ⟨false, [".", "uuid.mk"], false⟩ := by decide
  have header : Path.ofString linkedEmission.headerPath =
      ⟨false, [".", "uuid.h"], false⟩ := by decide
  unfold resolve
  rw [buildVar, header]
  cases file <;>
    simp +decide [follows, walk, linkedTree, target, get?, List.lookup_cons, linkLimit]

theorem write_linkedTree (file : Option Contents) (contents : Contents) :
    (linkedTree file).write linkedEmission.buildVarPath contents =
        .ok (linkedTree (some contents)) ∧
      (linkedTree file).write linkedEmission.headerPath contents =
        .ok (linkedTree (some contents)) := by
  obtain ⟨first, second⟩ := @resolve_linkedTree file .create (by decide)
  unfold FileTree.write
  rw [first, second]
  cases file <;> exact ⟨rfl, rfl⟩

theorem emit_linked :
    (Context.direct.exec linkedEmission.emit.run linked).1 =
        .ok ⟨linkedId, linkedEmission.buildVarPath, linkedEmission.headerPath⟩ ∧
      (Context.direct.exec linkedEmission.emit.run linked).2.2.tree =
        linkedTree (some (.text (Header.render linkedEmission.macroName linkedId))) := by
  have here : (linkedTree none).isDirectory linkedEmission.directory = true := by
    have dot : FileTree.Path.ofString "." = ⟨false, ["."], false⟩ := by decide
    simp +decide [FileTree.isDirectory, FileTree.resolve, linkedTree, linkedEmission, dot,
      FileTree.walk]
  have stored : linkedEmission.store linkedId (linkedTree none) =
      (.ok ⟨linkedId, linkedEmission.buildVarPath, linkedEmission.headerPath⟩,
        linkedTree (some (.text (Header.render linkedEmission.macroName linkedId)))) := by
    simp only [store, (write_linkedTree _ _).1, (write_linkedTree _ _).2, here]
    rfl
  obtain ⟨events, effect⟩ := exec_emit linkedEmission .direct linked
  rw [effect]
  exact ⟨congrArg Prod.fst stored, congrArg Prod.snd stored⟩

theorem verify_emit_linked : linked.tree.Rooted ∧
    (Context.direct.draw linked).1 = .ok linkedId ∧
      (Context.direct.exec linkedEmission.verify.run
        (Context.direct.exec linkedEmission.emit.run linked).2.2).1 =
          .error (.buildVar .severalLines) := by
  have rooted : linked.tree.Rooted := FileTree.isDirectoryPath_nil _
  obtain ⟨drawn, first, second, led, led', verified⟩ := verify_emit rooted emit_linked.1
  obtain ⟨here, here'⟩ := @resolve_linkedTree
    (some (.text (Header.render linkedEmission.macroName linkedId))) .lookup (by decide)
  rw [emit_linked.2] at led led'
  have same : first = second :=
    (Except.ok.inj (led.symm.trans here)).trans (Except.ok.inj (here'.symm.trans led'))
  exact ⟨rooted, drawn, (verified _ _ rfl).trans (if_pos same)⟩

end TrustedAppId.Emission
