import TrustedAppId.Proofs.Artifact.Block
import TrustedAppId.Proofs.Emission.Interleaving
import TrustedAppId.Proofs.Uuid.Groups
/-! Only random identifiers are emitted, and all of them are. The check is on bits; what it means
for the characters of one artifact and for the literals of the other is read off them. -/
namespace TrustedAppId

namespace Header

/-- The third literal in front of the inner list is one of version 4, and the first literal within
that list is one of the variant of RFC 4122. -/
def InRandomRange (text name : String) : Prop :=
  ∃ outer inner tail low mid third first rest, Cut text name outer inner tail ∧
    (literals outer).map Literal.number = [low, mid, third] ∧
    (literals inner).map Literal.number = first :: rest ∧
    0x4000 ≤ third ∧ third ≤ 0x4fff ∧ 0x80 ≤ first ∧ first ≤ 0xbf

theorem inRandomRange_render {name : String} (valid : Identifier.isName name.toList = true)
    {u : Uuid} (random : u.isRandom = true) : InRandomRange (render name u) name := by
  obtain ⟨outer, inner, tail, cut, ⟨outer_numbers, inner_numbers⟩, -⟩ :=
    read_cut (read_render valid u)
  rw [Uuid.isRandom, Bool.and_eq_true, beq_iff_eq, beq_iff_eq] at random
  obtain ⟨version, variant⟩ := random
  have third : (Fields.ofUuid u).timeHiAndVersion.toNat =
      4 * 4096 + (u.value.extractLsb' 64 12).toNat := by
    rw [Uuid.timeHiAndVersion_ofUuid, version]
    exact Hex.toNat_append _ _
  have first : (Fields.ofUuid u).clockSeqHiAndReserved.toNat =
      2 * 64 + (u.value.extractLsb' 56 6).toNat := by
    rw [Uuid.clockSeqHiAndReserved_ofUuid, variant]
    exact Hex.toNat_append _ _
  obtain ⟨a, b, c, d, e, g, h, i, same, hi, -, -⟩ := (Fields.ofUuid u).exists_octets
  rw [same] at inner_numbers
  rw [hi] at first
  have third_bits := (u.value.extractLsb' 64 12).isLt
  have first_bits := (u.value.extractLsb' 56 6).isLt
  refine ⟨outer, inner, tail, _, _, _, _, _, cut, outer_numbers, inner_numbers, ?_, ?_, ?_, ?_⟩ <;>
    omega

end Header

namespace Emission

variable {e : Emission} {c : Context} {s : Surroundings} {u : Uuid}

/-! The check. -/

theorem exec_drawRandom (drawn : (c.draw s).1 = .ok u) : ∃ events, c.exec drawRandom.run s =
    (if u.isRandom then .ok u else .error (.notRandom u), (c.draw s).2.1,
      { (c.draw s).2.2 with events }) := by
  rw [drawRandom, Context.exec_run_bind, Context.exec_run_draw]
  rcases answered : c.draw s with ⟨answer, c', s'⟩
  rw [answered] at drawn
  obtain rfl : answer = .ok u := drawn
  exact exec_checkRandom c' s' u

/-- No directory is asked for before an identifier has been found random. -/
theorem within_drawRandom :
    drawRandom.run.Within fun request => ∀ path, request ≠ .isDirectory path := by
  refine .run_bind (.draw nofun) fun u => .run_bind (.log nofun) fun _ => ?_
  dsimp only
  split
  · exact .run_bind (.log nofun) fun _ => .run_throw _
  · exact .run_pure u

theorem trace_emit (names : e.checkNames = .ok ()) :
    c.trace e.emit.run s = c.trace (drawRandom >>= e.putArtifacts).run s := by
  rw [emit, Context.trace_run_bind, Context.exec_ofExcept, names]
  rfl

/-- The directory is asked for once the identifier has passed the check. -/
theorem asks_directory_iff (names : e.checkNames = .ok ()) (drawn : (c.draw s).1 = .ok u) :
    (∃ tree, (tree, Request.isDirectory e.directory) ∈ c.trace e.emit.run s) ↔
      u.isRandom = true := by
  obtain ⟨events, checked⟩ := exec_drawRandom drawn
  have before (tree : FileTree) : (tree, .isDirectory e.directory) ∉ c.trace drawRandom.run s :=
    fun mem => Context.trace_allowed c s within_drawRandom _ mem _ rfl
  rw [trace_emit names, Context.trace_run_bind, checked]
  cases u.isRandom with
  | false =>
    refine iff_of_false ?_ Bool.false_ne_true
    rintro ⟨tree, mem⟩
    rw [if_neg Bool.false_ne_true, List.append_nil] at mem
    exact before tree mem
  | true =>
    exact iff_of_true ⟨_, List.mem_append_right _ (.head _)⟩ rfl

/-! What is emitted. -/

theorem store_of_not_random {tree : FileTree} (other : u.isRandom = false) :
    e.store u tree = (.error (.notRandom u), tree) := by
  rw [store, other]
  rfl

theorem store_ne_notRandom {tree : FileTree} (random : u.isRandom = true) (v : Uuid) :
    (e.store u tree).1 ≠ .error (.notRandom v) := by
  rw [store, random, Bool.not_true, if_neg Bool.false_ne_true]
  intro same
  split at same
  · cases same
  split at same
  · cases same
  split at same
  · cases same
  · cases same

/-- Paths that lead to different places once both artifacts are stored have done so before. -/
theorem separate_of_store {tree final : FileTree} {result : Emitted} (rooted : tree.Rooted)
    (stored : e.store u tree = (.ok result, final))
    (apart : ∀ place, final.resolve .lookup e.buildVarPath = .ok place →
      final.resolve .lookup e.headerPath ≠ .ok place) :
    tree.Separate e.buildVarPath e.headerPath := by
  obtain ⟨-, between, first, second, stores, stores'⟩ := store_eq_ok rooted stored
  have grown := stores.extends'.trans stores'.extends'
  intro place led led'
  exact apart place (grown.resolve led (by decide)) (grown.resolve led' (by decide))

theorem isRandom_of_store {tree final : FileTree} {result : Emitted}
    (stored : e.store u tree = (.ok result, final)) : u.isRandom = true := by
  cases random : u.isRandom with
  | true => rfl
  | false =>
    rw [store_of_not_random random] at stored
    cases stored

/-- An emission with good names gets past the check of its identifier if and only if that is spelt
like a random one. If not, this is what it fails with, and the tree is as it was. If it succeeds
with two files, what they hold can be seen to be random. -/
theorem emit_random (names : e.checkNames = .ok ()) (drawn : (c.draw s).1 = .ok u) :
    ((∃ tree, (tree, Request.isDirectory e.directory) ∈ c.trace e.emit.run s) ↔
      Uuid.LooksRandom u.chars) ∧
    (¬ Uuid.LooksRandom u.chars → (c.exec e.emit.run s).1 = .error (.notRandom u) ∧
      (c.exec e.emit.run s).2.2.tree = s.tree) ∧
    (Uuid.LooksRandom u.chars → (∀ v, (c.exec e.emit.run s).1 ≠ .error (.notRandom v)) ∧
      (s.tree.Rooted → e.Ready s.tree →
        (c.exec e.emit.run s).1 = .ok ⟨u, e.buildVarPath, e.headerPath⟩)) ∧
    ∀ result, s.tree.Rooted → (c.exec e.emit.run s).1 = .ok result →
      (∀ place, (c.exec e.emit.run s).2.2.tree.resolve .lookup e.buildVarPath = .ok place →
        (c.exec e.emit.run s).2.2.tree.resolve .lookup e.headerPath ≠ .ok place) →
      ∃ value header,
        (c.exec e.emit.run s).2.2.tree.read e.buildVarPath =
          .ok (e.variableName ++ "=" ++ value ++ "\n") ∧
        Uuid.LooksRandom value.toList ∧
        (c.exec e.emit.run s).2.2.tree.read e.headerPath = .ok header ∧
        Header.InRandomRange header e.macroName := by
  obtain ⟨result_eq, tree_eq⟩ := emit_eq_store names drawn
  rw [result_eq, tree_eq, Uuid.looksRandom_chars]
  refine ⟨asks_directory_iff names drawn, ?_, ?_, ?_⟩
  · intro other
    rw [store_of_not_random (Bool.eq_false_iff.mpr other)]
    exact ⟨rfl, rfl⟩
  · intro random
    exact ⟨store_ne_notRandom random, fun rooted ready => ready.store rooted random⟩
  · intro result rooted succeeded apart
    have stored : e.store u s.tree = (.ok result, (e.store u s.tree).2) := Prod.ext succeeded rfl
    have random := isRandom_of_store stored
    have holds := holds_of_store rooted (separate_of_store rooted stored apart) stored
    refine ⟨u.text, Header.render e.macroName u, ?_, ?_, holds.header, ?_⟩
    · rw [holds.buildVar, BuildVar.render_eq]
    · rw [Uuid.text, String.toList_ofList, Uuid.looksRandom_chars]
      exact random
    · exact Header.inRandomRange_render (checkNames_eq_ok_iff.mp names).2 random

/-! Two identifiers of version 4, of which only the first one is laid out as RFC 4122 says. -/

def foreignLayoutId : Uuid := ⟨0x8aaaf200245041e4cbe20002a5d5c51b⟩

/-- A directory with two empty files in it, and one identifier to draw. -/
def single (u : Uuid) : Surroundings where
  tree := blank
  ids := .ofList [u] "no identifiers left"
  time := linked.time
  events := []

theorem emit_random_single : linkedEmission.checkNames = .ok () ∧
    (Context.direct.draw (single otherId)).1 = .ok otherId ∧
    (∃ tree, (tree, Request.isDirectory linkedEmission.directory) ∈
      Context.direct.trace linkedEmission.emit.run (single otherId)) ∧
    (∃ value header,
      (Context.direct.exec linkedEmission.emit.run (single otherId)).2.2.tree.read
        linkedEmission.buildVarPath = .ok (linkedEmission.variableName ++ "=" ++ value ++ "\n") ∧
      Uuid.LooksRandom value.toList ∧
      (Context.direct.exec linkedEmission.emit.run (single otherId)).2.2.tree.read
        linkedEmission.headerPath = .ok header ∧
      Header.InRandomRange header linkedEmission.macroName) ∧
    (Context.direct.draw (single foreignLayoutId)).1 = .ok foreignLayoutId ∧
    (Context.direct.exec linkedEmission.emit.run (single foreignLayoutId)).1 =
      .error (.notRandom foreignLayoutId) := by
  have names : linkedEmission.checkNames = .ok () :=
    checkNames_eq_ok_iff.mpr ⟨by decide, by decide⟩
  have drawn (u : Uuid) : (Context.direct.draw (single u)).1 = .ok u := rfl
  have random : otherId.isRandom = true := by decide
  obtain ⟨asks, -, -, held⟩ := emit_random names (drawn otherId)
  obtain ⟨-, refused, -⟩ := emit_random names (drawn foreignLayoutId)
  have rooted : (single otherId).tree.Rooted := FileTree.isDirectoryPath_nil _
  obtain ⟨succeeded, final⟩ := emit_eq_store names (drawn otherId)
  have before : (single otherId).tree = pairTree "" "" := rfl
  rw [before, store_pairTree _ _ random] at succeeded final
  have apart (place : Location) (led :
      (Context.direct.exec linkedEmission.emit.run (single otherId)).2.2.tree.resolve .lookup
        linkedEmission.buildVarPath = .ok place) :
      (Context.direct.exec linkedEmission.emit.run (single otherId)).2.2.tree.resolve .lookup
        linkedEmission.headerPath ≠ .ok place := by
    rw [final] at led ⊢
    obtain ⟨first, second⟩ := resolve_pairTree
      (BuildVar.render linkedEmission.variableName otherId)
      (Header.render linkedEmission.macroName otherId) .lookup
    obtain rfl := Except.ok.inj (first.symm.trans led)
    rw [second]
    exact fun same => absurd (Except.ok.inj same) (by decide)
  have other : ¬ Uuid.LooksRandom foreignLayoutId.chars := by
    rw [Uuid.looksRandom_chars]
    decide
  exact ⟨names, drawn otherId, asks.mpr ((Uuid.looksRandom_chars _).mpr random),
    held _ rooted succeeded apart, drawn foreignLayoutId, (refused other).1⟩

end Emission

end TrustedAppId
