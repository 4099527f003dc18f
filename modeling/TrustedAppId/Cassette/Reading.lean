import TrustedAppId.Cassette
import TrustedAppId.Error
import TrustedAppId.Markup.Document
/-! Reading a cassette from its text. The text is one document; a node is read where its field is
wanted, so that the first fault in the order of the text is the one that counts. Fields that a
cassette does not have are passed over. Aliases are followed, up to a hundred times for each scalar
and collection of the document. -/
namespace TrustedAppId.Cassette

open Markup

/-- Where a node stands, as messages name it. -/
structure Place where
  text : String
  whole : Bool

def Place.root : Place := ⟨"", true⟩

def Place.item (place : Place) (index : Nat) : Place :=
  ⟨place.text ++ s!"[{index}]", false⟩

/-- The place of a value whose key is written out, or else an unknown one. -/
def Place.member (place : Place) (key : Option String) : Place :=
  let name := key.getD "?"
  ⟨if place.whole then name else place.text ++ "." ++ name, false⟩

/-- Counts the aliases followed; a failure comes with its place. -/
abbrev Reading := StateT Nat (Except (String × ReadingFault))

namespace Reading

def fail {α : Type} (place : Place) (fault : ReadingFault) : Reading α :=
  throw (place.text, fault)

def wrongType {α : Type} (place : Place) (found : Found) (expected : String) : Reading α :=
  fail place (.wrongType found expected)

end Reading

/-- Collections may be nested so deep. -/
def depthLimit : Nat := 128

variable (document : Document)

/-- The node itself, or the one that it is an alias of. -/
def follow (place : Place) (node : Node) : Reading Node :=
  match node with
  | .alias anchor => do
    let count := (← get) + 1
    set count
    if count > 100 * document.root.size then Reading.fail place .tooManyAliases
    match document.target? anchor with
    | some target => pure target
    | none => Reading.fail place .malformed
  | node => pure node

/-- The type of a node that is not of the wanted one. -/
def mistyped {α : Type} (place : Place) (expected : String) (node : Node) : Reading α :=
  match node with
  | .scalar _ s =>
    match s.meaning with
    | .ok found => Reading.wrongType place found expected
    | .error wanted => Reading.fail place (.wrongValue (String.ofList s.text) wanted)
  | .sequence _ _ _ => Reading.wrongType place .sequence expected
  | .mapping _ _ _ => Reading.wrongType place .map expected
  | _ => Reading.fail place .malformed

/-- The text of a scalar, whatever its style and tag. -/
def readString (place : Place) (expected : String) (node : Node) : Reading String := do
  match ← follow document place node with
  | .scalar _ s => pure (String.ofList s.text)
  | other => mistyped place expected other

def isUntaggedForm (s : Scalar) : Bool :=
  s.style = .plain || (s.style = .literal && s.tag = some .int)

def readNumber (place : Place) (node : Node) : Reading Nat := do
  match ← follow document place node with
  | .scalar anchor s =>
    if isUntaggedForm s then
      match integer? s.text, s.text.head? with
      | some (.integer n), first =>
        if first = some '-' then mistyped place "u64" (.scalar anchor s) else pure n.toNat
      | _, _ => mistyped place "u64" (.scalar anchor s)
    else mistyped place "u64" (.scalar anchor s)
  | other => mistyped place "u64" other

def readTimestamp (place : Place) (node : Node) : Reading Timestamp := do
  let text ← readString document place "an RFC 3339 formatted date and time string" node
  match Timestamp.read text with
  | .ok t => pure t
  | .error fault => Reading.fail place (.timestamp fault)

/-- A tag of the text's own making, which no recorded value has. -/
def isOwnTag (tag : Option Tag) : Bool := tag = some (.own true)

def anyValue : String := "any valid JSON value"

def ofFound (place : Place) : Found → Reading Value
  | .unit | .infinite _ | .notANumber => pure .null
  | .bool value => pure (.bool value)
  | .integer value => pure (.int value)
  | .wide _ _ => Reading.fail place .numberOutOfRange
  | .float value => pure (.float value)
  | .string text => pure (.string text)
  | found => Reading.wrongType place found anyValue

def readScalar (place : Place) (s : Scalar) : Reading Value :=
  if isOwnTag s.tag then Reading.wrongType place .tagged anyValue
  else match s.meaning with
    | .ok found => ofFound place found
    | .error wanted => Reading.fail place (.wrongValue (String.ofList s.text) wanted)

/-- The text of a key, and the key as places name it. -/
def readKey (place : Place) (expected : String) (node : Node) :
    Reading (String × Option String) := do
  let text ← readString document place expected node
  match node with
  | .scalar _ _ => pure (text, some text)
  | _ => pure (text, none)

/-- A recorded value. A node in which collections are nested deeper than `depth` is refused. -/
def readValue (depth : Nat) (place : Place) (node : Node) : Reading Value := do
  match ← follow document place node with
  | .scalar _ s => readScalar place s
  | .sequence _ tag items =>
    if isOwnTag tag then Reading.wrongType place .tagged anyValue
    match depth with
    | 0 => Reading.fail place .tooDeep
    | depth + 1 =>
      let values ← items.zipIdx.mapM fun (item, i) => readValue depth (place.item i) item
      pure (.array values)
  | .mapping _ tag entries =>
    if isOwnTag tag then Reading.wrongType place .tagged anyValue
    match depth with
    | 0 => Reading.fail place .tooDeep
    | depth + 1 =>
      let members ← entries.zipIdx.mapM fun ((key, value), i) => do
        let wanted := if i = 0 then "a string key" else "a string"
        let (name, shown) ← readKey document place wanted key
        let value ← readValue depth (place.member shown) value
        pure (name, value)
      pure (.ofMembers members)
  | _ => Reading.fail place .malformed

/-- The entries of a record; an empty plain scalar has none. -/
def readRecord (depth : Nat) (place : Place) (expected : String) (node : Node) :
    Reading (Nat × List (Node × Node)) := do
  match ← follow document place node with
  | .mapping _ _ entries =>
    match depth with
    | 0 => Reading.fail place .tooDeep
    | depth + 1 => pure (depth, entries)
  | .scalar anchor s =>
    if s.text.isEmpty ∧ s.style = .plain then pure (depth, [])
    else mistyped place expected (.scalar anchor s)
  | other => mistyped place expected other

/-- Reads the entries of a record in order into a record with its fields still open. `fill` takes a
known field, and refuses one that it already has. -/
def readFields {α : Type} (place : Place)
    (fill : α → String → Place → Node → Reading (Option α)) (entries : List (Node × Node))
    (start : α) : Reading α :=
  entries.foldlM (fun state (key, value) => do
    let (name, shown) ← readKey document place "field identifier" key
    match ← fill state name (place.member shown) value with
    | some next => pure next
    | none =>
      if value.isWhole then pure state else Reading.fail place .malformed) start

/-- Fills an open field. -/
def fillField {α : Type} (place : Place) (name : String) (old : Option α) (read : Reading α) :
    Reading α :=
  match old with
  | some _ => Reading.fail place (.duplicateField name)
  | none => read

def required {α : Type} (place : Place) (name : String) : Option α → Reading α
  | some value => pure value
  | none => Reading.fail place (.missingField name)

/-- The fields of an interaction as far as they are read. -/
structure OpenInteraction where
  seq : Option Nat := none
  port : Option String := none
  method : Option String := none
  input : Option Value := none
  output : Option Value := none

def readInteraction (depth : Nat) (place : Place) (node : Node) : Reading Interaction := do
  let (depth, entries) ← readRecord document depth place "struct Interaction" node
  let fill (state : OpenInteraction) (name : String) (there : Place) (value : Node) :
      Reading (Option OpenInteraction) := do
    if name = "seq" then
      let seq ← fillField place name state.seq (readNumber document there value)
      pure (some { state with seq })
    else if name = "port" then
      let port ← fillField place name state.port (readString document there "a string" value)
      pure (some { state with port })
    else if name = "method" then
      let method ← fillField place name state.method (readString document there "a string" value)
      pure (some { state with method })
    else if name = "input" then
      let input ← fillField place name state.input (readValue document depth there value)
      pure (some { state with input })
    else if name = "output" then
      let output ← fillField place name state.output (readValue document depth there value)
      pure (some { state with output })
    else pure none
  let found ← readFields document place fill entries {}
  let seq ← required place "seq" found.seq
  let port ← required place "port" found.port
  let method ← required place "method" found.method
  let input ← required place "input" found.input
  let output ← required place "output" found.output
  pure ⟨seq, port, method, input, output⟩

def readInteractions (depth : Nat) (place : Place) (node : Node) : Reading (List Interaction) := do
  match ← follow document place node with
  | .sequence _ _ items =>
    match depth with
    | 0 => Reading.fail place .tooDeep
    | depth + 1 =>
      items.zipIdx.mapM fun (item, i) => readInteraction document depth (place.item i) item
  | .scalar anchor s =>
    if s.text.isEmpty ∧ s.style = .plain then pure []
    else mistyped place "a sequence" (.scalar anchor s)
  | other => mistyped place "a sequence" other

structure OpenCassette where
  name : Option String := none
  recordedAt : Option Timestamp := none
  toolVersion : Option String := none
  interactions : Option (List Interaction) := none

def readRoot : Reading Cassette := do
  let place := Place.root
  let (depth, entries) ← readRecord document depthLimit place "struct Cassette" document.root
  let fill (state : OpenCassette) (field : String) (there : Place) (value : Node) :
      Reading (Option OpenCassette) := do
    if field = "name" then
      let name ← fillField place field state.name (readString document there "a string" value)
      pure (some { state with name })
    else if field = "recorded_at" then
      let recordedAt ← fillField place field state.recordedAt (readTimestamp document there value)
      pure (some { state with recordedAt })
    else if field = "tool_version" then
      let toolVersion ←
        fillField place field state.toolVersion (readString document there "a string" value)
      pure (some { state with toolVersion })
    else if field = "interactions" then
      let interactions ←
        fillField place field state.interactions (readInteractions document depth there value)
      pure (some { state with interactions })
    else pure none
  let found ← readFields document place fill entries {}
  let name ← required place "name" found.name
  let recordedAt ← required place "recorded_at" found.recordedAt
  let toolVersion ← required place "tool_version" found.toolVersion
  let interactions ← required place "interactions" found.interactions
  pure ⟨name, recordedAt, toolVersion, interactions⟩

def ofDocument : Except (String × ReadingFault) Cassette := do
  let cassette ← (readRoot document).run' 0
  if document.ending = .endOfText then pure cassette else throw ("", .malformed)

/-- The cassette that the text of the file at `path` holds. -/
def read (path text : String) : Except Error Cassette :=
  match ofDocument (Document.ofText text.toList) with
  | .ok cassette => .ok cassette
  | .error (place, fault) => .error (.cassette (.unreadable path place fault))

end TrustedAppId.Cassette
