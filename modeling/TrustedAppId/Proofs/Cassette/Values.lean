import TrustedAppId.Cassette.Reading
import TrustedAppId.Proofs.Markup.ContentNodes
import TrustedAppId.Proofs.Markup.Meanings
/-! Recorded data reads back from its nodes. -/
namespace TrustedAppId

/-- Data that a cassette gives back as it was: no floating point numbers, integers within reach,
members in the order of their names, and collections nested at most `depth` deep. -/
inductive Value.Kept : (depth : Nat) → Value → Prop
  | null {depth : Nat} : Kept depth .null
  | bool {depth : Nat} (value : Bool) : Kept depth (.bool value)
  | int {depth : Nat} {value : Int} : holds value = true → Kept depth (.int value)
  | string {depth : Nat} (text : String) : Kept depth (.string text)
  | array {depth : Nat} {items : List Value} : (∀ item ∈ items, Kept depth item) →
      Kept (depth + 1) (.array items)
  | object {depth : Nat} {members : List (String × Value)} :
      members.Pairwise (fun a b => a.1 < b.1) → (∀ member ∈ members, Kept depth member.2) →
      Kept (depth + 1) (.object members)

namespace Value

theorem Kept.le {depth more : Nat} {value : Value} (kept : value.Kept depth)
    (le : depth ≤ more) : value.Kept more := by
  induction kept generalizing more with
  | null => exact .null
  | bool value => exact .bool value
  | int fits => exact .int fits
  | string text => exact .string text
  | array _ ih =>
    obtain ⟨more, rfl⟩ : ∃ less, more = less + 1 := ⟨more - 1, by omega⟩
    exact .array fun item mem => ih item mem (Nat.le_of_succ_le_succ le)
  | object sorted _ ih =>
    obtain ⟨more, rfl⟩ : ∃ less, more = less + 1 := ⟨more - 1, by omega⟩
    exact .object sorted fun member mem => ih member mem (Nat.le_of_succ_le_succ le)

theorem insertMember_last {name : String} {value : Value} {done : List (String × Value)}
    (last : ∀ member ∈ done, member.1 < name) :
    insertMember name value done = done ++ [(name, value)] := by
  induction done with
  | nil => rfl
  | cons member rest ih =>
    obtain ⟨other, old⟩ := member
    obtain ⟨before, others⟩ := List.forall_mem_cons.mp last
    have different : name ≠ other := by
      rintro rfl
      exact String.lt_irrefl _ before
    rw [insertMember, if_neg (String.lt_asymm before), if_neg different, ih others]
    rfl

theorem ofMembers_of_sorted {members : List (String × Value)}
    (sorted : members.Pairwise (fun a b => a.1 < b.1)) : ofMembers members = .object members := by
  have fold (done rest : List (String × Value))
      (sorted : (done ++ rest).Pairwise (fun a b => a.1 < b.1)) :
      rest.foldl (fun done member => insertMember member.1 member.2 done) done = done ++ rest := by
    induction rest generalizing done with
    | nil => rw [List.foldl_nil, List.append_nil]
    | cons member rest ih =>
      have last : ∀ other ∈ done, other.1 < member.1 := by
        intro other mem
        exact (List.pairwise_append.mp sorted).2.2 other mem _ List.mem_cons_self
      rw [List.foldl_cons, insertMember_last last, ih _ (by simpa using sorted), List.append_assoc,
        List.singleton_append]
  exact congrArg object (fold [] members sorted)

end Value

namespace Cassette

open Markup

/-! Data is laid out soundly. -/

theorem ofItems_eq (items : List Value) : ofItems items = items.map Content.ofValue := by
  induction items with
  | nil => rfl
  | cons item items ih => rw [ofItems, ih, List.map_cons]

theorem ofEntries_eq (members : List (String × Value)) :
    ofEntries members = members.map fun member => (member.1, Content.ofValue member.2) := by
  induction members with
  | nil => rfl
  | cons member members ih => rw [ofEntries, ih, List.map_cons]

theorem itemNodes_eq (items : List Content) : itemNodes items = items.map Content.node := by
  induction items with
  | nil => rfl
  | cons item items ih => rw [itemNodes, ih, List.map_cons]

theorem entryNodes_eq (entries : List (String × Content)) :
    entryNodes entries = entries.map fun entry =>
      (textNode (styleOf entry.1.toList) entry.1.toList, entry.2.node) := by
  induction entries with
  | nil => rfl
  | cons entry entries ih => rw [entryNodes, ih, List.map_cons]

theorem sound_ofValue {depth : Nat} {value : Value} (kept : value.Kept depth) :
    (Content.ofValue value).Sound := by
  induction kept with
  | null =>
    rw [Content.ofValue]
    exact .word (by decide) (by decide)
  | bool value =>
    rw [Content.ofValue]
    cases value with
    | true => exact .word (by decide) (by decide)
    | false => exact .word (by decide) (by decide)
  | @int _ n _ =>
    rw [Content.ofValue]
    exact .word (plainAllowed_toString n) (toString_ne_nil n)
  | string text =>
    rw [Content.ofValue]
    exact .text text
  | array _ ih =>
    rw [Content.ofValue, ofItems_eq]
    apply Content.Sound.sequence
    intro item mem
    obtain ⟨value, inside, rfl⟩ := List.mem_map.mp mem
    exact ih value inside
  | object _ _ ih =>
    rw [Content.ofValue, ofEntries_eq]
    apply Content.Sound.mapping
    intro entry mem
    obtain ⟨member, inside, rfl⟩ := List.mem_map.mp mem
    exact ih member inside

variable (document : Document)

theorem mapM_zipIdx {α β γ : Type} {items : List α} {node : α → β} {read : β × Nat → Reading γ}
    {result : α → γ} (reads : ∀ item ∈ items, ∀ i, read (node item, i) = pure (result item))
    (start : Nat) :
    ((items.map node).zipIdx start).mapM read = pure (items.map result) := by
  induction items generalizing start with
  | nil => rfl
  | cons item items ih =>
    obtain ⟨first, others⟩ := List.forall_mem_cons.mp reads
    rw [List.map_cons, List.zipIdx_cons, List.mapM_cons, first, pure_bind, ih others, pure_bind]
    rfl

theorem follow_textNode (place : Place) (style : Style) (text : List Char) :
    follow document place (textNode style text) = pure (textNode style text) := rfl

theorem readString_text (place : Place) (expected text : String) (style : Style) :
    readString document place expected (textNode style text.toList) = pure text := by
  rw [readString, follow_textNode, pure_bind, textNode]
  exact congrArg pure String.ofList_toList

theorem readKey_text (place : Place) (expected key : String) (style : Style) :
    readKey document place expected (textNode style key.toList) = pure (key, some key) := by
  rw [readKey, readString_text, pure_bind, textNode]

theorem readValue_textNode (depth : Nat) (place : Place) (style : Style) (text : List Char) :
    readValue document depth place (textNode style text) =
      readScalar place ⟨none, style, text⟩ := by
  rw [readValue, follow_textNode, pure_bind, textNode]

theorem readScalar_plain {text : List Char} {found : Found} (means : plainMeaning text = found)
    (place : Place) : readScalar place ⟨none, .plain, text⟩ = ofFound place found := by
  rw [readScalar, meaning_untagged, if_pos rfl, means]
  rfl

theorem readValue_ofValue {depth : Nat} {value : Value} (kept : value.Kept depth)
    (place : Place) :
    readValue document depth place (Content.ofValue value).node = pure value := by
  induction kept generalizing place with
  | null =>
    rw [Content.ofValue, Content.node, readValue_textNode]
    exact readScalar_plain rfl place
  | bool value =>
    rw [Content.ofValue, Content.node, readValue_textNode]
    cases value with
    | true => exact readScalar_plain rfl place
    | false => exact readScalar_plain rfl place
  | int fits =>
    rw [Content.ofValue, Content.node, readValue_textNode,
      readScalar_plain (plainMeaning_of_integer? (integer?_toString fits)), ofFound]
  | string text =>
    rw [Content.ofValue, Content.node, readValue_textNode, readScalar, meaning_text]
    exact congrArg (fun text => pure (Value.string text)) String.ofList_toList
  | @array depth items _ ih =>
    have reads : (items.map (Content.node ∘ Content.ofValue)).zipIdx.mapM (fun entry =>
        readValue document depth (place.item entry.2) entry.1) = pure (items.map id) :=
      mapM_zipIdx (fun item mem i => ih item mem (place.item i)) 0
    rw [Content.ofValue, Content.node, itemNodes_eq, ofItems_eq, List.map_map, readValue]
    change (items.map (Content.node ∘ Content.ofValue)).zipIdx.mapM (fun entry =>
      readValue document depth (place.item entry.2) entry.1) >>=
        (fun values => pure (Value.array values)) = _
    rw [reads, pure_bind, List.map_id]
  | @object depth members sorted _ ih =>
    let node (member : String × Value) : Node × Node :=
      (textNode (styleOf member.1.toList) member.1.toList, (Content.ofValue member.2).node)
    let read (entry : (Node × Node) × Nat) : Reading (String × Value) := do
      let named ← readKey document place (if entry.2 = 0 then "a string key" else "a string")
        entry.1.1
      let value ← readValue document depth (place.member named.2) entry.1.2
      pure (named.1, value)
    have reads : (members.map node).zipIdx.mapM read = pure (members.map id) := by
      apply mapM_zipIdx
      intro member mem i
      simp only [read, node, readKey_text, pure_bind, ih member mem]
      rfl
    rw [Content.ofValue, Content.node, entryNodes_eq, ofEntries_eq, List.map_map, readValue]
    change (members.map node).zipIdx.mapM read >>= (fun members => pure (Value.ofMembers members)) = _
    rw [reads, pure_bind, List.map_id, Value.ofMembers_of_sorted sorted]

end Cassette

end TrustedAppId
