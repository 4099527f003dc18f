import TrustedAppId.Proofs.Cassette.Values
import TrustedAppId.Proofs.FileTree.Storing
import TrustedAppId.Proofs.Script.Contexts
import TrustedAppId.Proofs.Timestamp.RoundTrip
/-! A cassette reads back from its text, and is loaded from a file that holds this text. -/
namespace TrustedAppId

open Markup

namespace Cassette

variable (document : Document)

theorem readNumber_word {n : Nat} (small : n < Nat.pow 2 64) (place : Place) :
    readNumber document place (textNode .plain (toString n).toList) = pure n := by
  have notMinus : (Decimal.minimal n).head? ≠ some '-' := fun head =>
    absurd (Decimal.isDigit_of_mem_minimal (List.mem_of_head? head)) (by decide)
  rw [readNumber, follow_textNode, pure_bind, textNode, Decimal.toList_toString]
  simp only [isUntaggedForm, decide_true, Bool.true_or, if_true, integer?_minimal small, notMinus,
    if_false]
  rfl

theorem readTimestamp_text (t : Timestamp) (place : Place) (style : Style) :
    readTimestamp document place (textNode style t.text.toList) = pure t := by
  rw [readTimestamp, readString_text, pure_bind, Timestamp.read_text]

theorem readInteraction_content {depth : Nat} {i : Interaction} (small : i.seq < Nat.pow 2 64)
    (input : i.input.Kept depth) (output : i.output.Kept depth) (place : Place) :
    readInteraction document (depth + 1) place i.content.node = pure i := by
  rw [Interaction.content, Content.node, entryNodes_eq, readInteraction]
  simp only [List.map_cons, List.map_nil, Content.node, readRecord, follow, pure_bind, readFields,
    List.foldlM_cons, List.foldlM_nil, readKey_text, if_true, if_false, String.reduceEq, fillField,
    readNumber_word document small, readString_text, readValue_ofValue document input,
    readValue_ofValue document output, required]

/-- Of the 128 levels of collections that are read, a cassette takes three for itself. -/
def valueDepth : Nat := 125

/-- An interaction that comes back as it was; numbers are read in 64 bits. -/
structure Keeps (i : Interaction) : Prop where
  seq : i.seq < Nat.pow 2 64
  input : i.input.Kept valueDepth
  output : i.output.Kept valueDepth

variable {c : Cassette} (keeps : ∀ i ∈ c.interactions, Keeps i)

include keeps

theorem readInteractions_content (place : Place) :
    readInteractions document (valueDepth + 2) place
      (Content.sequence (c.interactions.map Interaction.content)).node = pure c.interactions := by
  have reads : (c.interactions.map (Content.node ∘ Interaction.content)).zipIdx.mapM
      (fun entry => readInteraction document (valueDepth + 1) (place.item entry.2) entry.1) =
      pure (c.interactions.map id) :=
    mapM_zipIdx (fun i mem _ => readInteraction_content document (keeps i mem).seq
      (keeps i mem).input (keeps i mem).output _) 0
  rw [Content.node, itemNodes_eq, List.map_map, readInteractions]
  exact reads.trans (by rw [List.map_id])

theorem sound_content : c.content.Sound := by
  have item (i : Interaction) (mem : i ∈ c.interactions) : i.content.Sound := by
    apply Content.Sound.mapping
    intro entry entry_mem
    simp only [List.mem_cons, List.not_mem_nil, or_false] at entry_mem
    rcases entry_mem with rfl | rfl | rfl | rfl | rfl
    · exact .word (by rw [Decimal.toList_toString]; exact plainAllowed_minimal i.seq)
        (by rw [Decimal.toList_toString]; exact Decimal.minimal_ne_nil i.seq)
    · exact .text i.port
    · exact .text i.method
    · exact sound_ofValue (keeps i mem).input
    · exact sound_ofValue (keeps i mem).output
  apply Content.Sound.mapping
  intro entry mem
  simp only [List.mem_cons, List.not_mem_nil, or_false] at mem
  rcases mem with rfl | rfl | rfl | rfl
  · exact .text c.name
  · exact .text c.recordedAt.text
  · exact .text c.toolVersion
  · apply Content.Sound.sequence
    intro content mem
    obtain ⟨i, inside, rfl⟩ := List.mem_map.mp mem
    exact item i inside

theorem readRoot_content (ending : Ending) : readRoot ⟨c.content.node, ending⟩ = pure c := by
  have interactions (document : Document) (place : Place) : readInteractions document 127 place
      (Content.sequence (c.interactions.map Interaction.content)).node = pure c.interactions :=
    readInteractions_content document keeps place
  rw [content, Content.node, entryNodes_eq, readRoot]
  simp only [List.map_cons, List.map_nil, readRecord, follow, pure_bind, readFields, depthLimit,
    List.foldlM_cons, List.foldlM_nil, readKey_text, if_true, if_false, String.reduceEq, fillField]
  rw [Content.node, Content.node, Content.node]
  simp only [readString_text, readTimestamp_text, interactions, pure_bind, required]

theorem read_write (path : String) : read path c.write = .ok c := by
  have text : Document.ofText c.write.toList = ⟨c.content.node, .endOfText⟩ := by
    rw [write, Content.write, String.toList_ofList]
    exact ofText_mapping (sound_content keeps)
  rw [read, text, ofDocument, readRoot_content keeps]
  rfl

omit keeps in
theorem load_of_read {s : Surroundings} {path text : String} (found : s.tree.read path = .ok text)
    (means : read path text = .ok c) : (load path).run.run s = (.ok c, s) := by
  have file : (Run.fileText path).run.run s = (.ok text, s) := by
    rw [Run.fileText, ExceptT.run_mk, Script.run, found]
    rfl
  simp only [load, Script.run_run_bind, file, means]
  rfl

end Cassette

/-- What a recorder is told at a time. -/
structure Call where
  port : String
  method : String
  input : Value
  output : Value

/-- The interaction that a call becomes when `seq` of them have been recorded before. -/
def Call.interaction (call : Call) (seq : Nat) : Interaction :=
  ⟨seq, call.port, call.method, call.input, call.output⟩

namespace Recorder

def recordAll (r : Recorder) (calls : List Call) : Recorder :=
  calls.foldl (fun r call => r.record call.port call.method call.input call.output) r

theorem recorded_recordAll (r : Recorder) (calls : List Call) :
    (r.recordAll calls).recorded =
      ((calls.zipIdx r.recorded.length).map fun (call, seq) => call.interaction seq).reverse ++
        r.recorded := by
  induction calls generalizing r with
  | nil => rfl
  | cons call calls ih =>
    have rest := ih (r.record call.port call.method call.input call.output)
    rw [recordAll, List.foldl_cons, List.zipIdx_cons, List.map_cons, List.reverse_cons,
      List.append_assoc]
    exact rest

/-- Interactions are numbered from zero in the order of the calls. -/
theorem interactions_recordAll (name : String) (calls : List Call) :
    ((start name).recordAll calls).interactions =
      calls.zipIdx.map fun (call, seq) => call.interaction seq := by
  rw [interactions, recorded_recordAll, start, List.append_nil, List.reverse_reverse]
  rfl

end Recorder

namespace Cassette

/-- What a recorder that starts afresh makes of calls comes back as it was. -/
theorem keeps_recordAll {calls : List Call} (few : calls.length ≤ Nat.pow 2 64)
    (kept : ∀ call ∈ calls, call.input.Kept valueDepth ∧ call.output.Kept valueDepth)
    (name : String) : ∀ i ∈ ((Recorder.start name).recordAll calls).interactions, Keeps i := by
  intro i mem
  rw [Recorder.interactions_recordAll] at mem
  obtain ⟨⟨call, seq⟩, listed, rfl⟩ := List.mem_map.mp mem
  have there := List.mem_zipIdx listed
  have inside : call ∈ calls := by
    rw [there.2.2]
    exact List.getElem_mem _
  have below : seq < calls.length := by omega
  exact ⟨Nat.lt_of_lt_of_le below few, (kept call inside).1, (kept call inside).2⟩

/-- A recording of any calls is loaded from a file that holds its text, with the interactions in
their order. They are counted in 64 bits, so there must not be more of them. -/
theorem load_write_recordAll (name toolVersion : String) (recordedAt : Timestamp)
    {calls : List Call} {depth : Nat} (few : calls.length ≤ Nat.pow 2 64)
    (shallow : depth ≤ valueDepth)
    (kept : ∀ call ∈ calls, call.input.Kept depth ∧ call.output.Kept depth) {c : Cassette}
    (recording : c = ⟨name, recordedAt, toolVersion,
      ((Recorder.start name).recordAll calls).interactions⟩)
    {path : String} {s : Surroundings} (stored : s.tree.read path = .ok c.write) :
    (load path).run.run s = (.ok c, s) ∧
      c.interactions = calls.zipIdx.map fun (call, seq) => call.interaction seq := by
  have kept (call : Call) (mem : call ∈ calls) :
      call.input.Kept valueDepth ∧ call.output.Kept valueDepth := by
    obtain ⟨input, output⟩ := kept call mem
    exact ⟨input.le shallow, output.le shallow⟩
  subst recording
  constructor
  · exact load_of_read stored (read_write (keeps_recordAll few kept name) path)
  · exact Recorder.interactions_recordAll name calls

/-- A call with texts that look like other data, a name among them. -/
def lookalikes : Call where
  port := "null"
  method := "0x10"
  input := .string "- [ ]: # \n"
  output := .array [.int (-1), .string "-1", .object [("no", .null), ("~", .bool true)]]

theorem kept_lookalikes : lookalikes.input.Kept 2 ∧ lookalikes.output.Kept 2 := by
  refine ⟨.string _, .array ?_⟩
  intro item mem
  simp only [List.mem_cons, List.not_mem_nil, or_false] at mem
  rcases mem with rfl | rfl | rfl
  · exact .int (by decide)
  · exact .string _
  · apply Value.Kept.object (by decide)
    intro member mem
    simp only [List.mem_cons, List.not_mem_nil, or_false] at mem
    rcases mem with rfl | rfl
    · exact .null
    · exact .bool true

/-- The end of a leap second on a leap day. -/
def leapSecond : Timestamp where
  date := ⟨2000, 2, 29, by decide, by decide, by decide⟩
  time := ⟨23, 59, 60, 999999999, by decide, by decide, by decide, by decide⟩

/-- A tape in a directory that has another one in it. -/
def tapeTree (contents : Contents) : FileTree :=
  ⟨[(["out"], .directory), (["tape.yaml"], .file contents)], []⟩

open FileTree in
theorem resolve_tapeTree (contents : Contents) (purpose : Purpose) :
    (tapeTree contents).resolve purpose "tape.yaml" = .ok ["tape.yaml"] := by
  have tape : Path.ofString "tape.yaml" = ⟨false, ["tape.yaml"], false⟩ := by decide
  unfold resolve
  rw [tape]
  simp +decide [walk, tapeTree, get?, List.lookup_cons, linkLimit]

theorem load_write_lookalikes :
    [lookalikes, lookalikes].length ≤ Nat.pow 2 64 ∧ 2 ≤ valueDepth ∧
      (∀ call ∈ [lookalikes, lookalikes], call.input.Kept 2 ∧ call.output.Kept 2) ∧
      ∃ (c : Cassette) (s : Surroundings), c = ⟨"2000-02-29", leapSecond, "0.1",
          ((Recorder.start "2000-02-29").recordAll [lookalikes, lookalikes]).interactions⟩ ∧
        s.tree.read "tape.yaml" = .ok c.write ∧ (load "tape.yaml").run.run s = (.ok c, s) ∧
        c.interactions = [lookalikes.interaction 0, lookalikes.interaction 1] := by
  have kept : ∀ call ∈ [lookalikes, lookalikes], call.input.Kept 2 ∧ call.output.Kept 2 := by
    simp [kept_lookalikes]
  let c : Cassette := ⟨"2000-02-29", leapSecond, "0.1",
    ((Recorder.start "2000-02-29").recordAll [lookalikes, lookalikes]).interactions⟩
  let s : Surroundings := ⟨tapeTree (.text c.write), .ofList [] "no identifiers", leapSecond, []⟩
  have stored : s.tree.read "tape.yaml" = .ok c.write :=
    FileTree.read_of_resolve (resolve_tapeTree _ _) rfl
  exact ⟨by decide, by decide, kept, c, s, rfl, stored,
    load_write_recordAll "2000-02-29" "0.1" leapSecond (by decide) (by decide) kept rfl stored⟩

end Cassette

end TrustedAppId
