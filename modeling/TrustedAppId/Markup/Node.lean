import TrustedAppId.Markup.Lexer
/-! From tokens to trees. A text that breaks off, or goes wrong, still gives the tree of its sound
front part: `Node.cut` stands where that part ends, and nothing follows it. -/
namespace TrustedAppId.Markup

/-- What a tag says about a scalar or collection. -/
inductive Tag where
  | null
  | bool
  | int
  | float
  /-- A tag of the text's own making; the flag says whether its octets are a text. -/
  | own (isText : Bool)
  | other
deriving DecidableEq

def Tag.ofOctets (octets : List UInt8) : Tag :=
  let core (name : String) : Bool := octets == octetsOf ("tag:yaml.org,2002:" ++ name).toList
  if core "null" then .null
  else if core "bool" then .bool
  else if core "int" then .int
  else if core "float" then .float
  else match octets with
    | 0x21 :: rest =>
      .own ((String.fromUTF8? ⟨(if rest.isEmpty then octets else rest).toArray⟩).isSome)
    | _ => .other

structure Scalar where
  tag : Option Tag
  style : Style
  text : List Char
deriving DecidableEq

/-- The scalar of a place where none is written. -/
def Scalar.absent (tag : Option Tag) : Scalar := ⟨tag, .plain, []⟩

inductive Node where
  | scalar (anchor : Option Nat) (content : Scalar)
  | sequence (anchor : Option Nat) (tag : Option Tag) (items : List Node)
  | mapping (anchor : Option Nat) (tag : Option Tag) (entries : List (Node × Node))
  /-- The node last given this anchor. -/
  | alias (anchor : Nat)
  | cut

def Node.absent : Node := .scalar none (.absent none)

/-- Anchors are numbered by how many names were known before. A name that is given again takes a new
number and leaves the count of names as it is. -/
abbrev Anchors := List (List Char × Nat)

def Anchors.add (anchors : Anchors) (name : List Char) : Nat × Anchors :=
  let number := anchors.length
  (number, (name, number) :: anchors.filter fun (other, _) => other ≠ name)

abbrev Handles := List (List Char × List UInt8)

structure Reader where
  tokens : List Token
  anchors : Anchors
  handles : Handles

def Reader.peek (r : Reader) : Option Token := r.tokens.head?

def Reader.skip (r : Reader) : Reader := { r with tokens := r.tokens.drop 1 }

/-- Anchor and tag in front of a node. -/
structure Properties where
  anchor : Option (List Char)
  /-- Handle and suffix. -/
  tag : Option (List Char × List UInt8)

def Reader.properties (r : Reader) : Properties × Reader :=
  match r.tokens with
  | .anchor name :: .tag handle suffix :: rest =>
    (⟨some name, some (handle, suffix)⟩, { r with tokens := rest })
  | .anchor name :: rest => (⟨some name, none⟩, { r with tokens := rest })
  | .tag handle suffix :: .anchor name :: rest =>
    (⟨some name, some (handle, suffix)⟩, { r with tokens := rest })
  | .tag handle suffix :: rest => (⟨none, some (handle, suffix)⟩, { r with tokens := rest })
  | _ => (⟨none, none⟩, r)

/-- The octets of a tag with its handle replaced by what the handle stands for. -/
def Reader.expand (r : Reader) : List Char × List UInt8 → Option (List UInt8)
  | ([], suffix) => some suffix
  | (handle, suffix) => (r.handles.lookup handle).map (· ++ suffix)

def Reader.addAnchor (r : Reader) : Option (List Char) → Option Nat × Reader
  | none => (none, r)
  | some name =>
    let (number, anchors) := r.anchors.add name
    (some number, { r with anchors })

def endsBlockItem : Token → Bool
  | .blockEntry | .blockEnd => true
  | _ => false

def endsPlainItem : Token → Bool
  | .blockEntry | .key | .value | .blockEnd => true
  | _ => false

def endsBlockPart : Token → Bool
  | .key | .value | .blockEnd => true
  | _ => false

def endsFlowPart (close : Token) (token : Token) : Bool :=
  token = .flowEntry || token = close

/-- A node and the reader behind it, or none where the sound part ends. -/
abbrev Reading (α : Type) := α × Option Reader

/-! `fuel` bounds the nesting of calls, each of which takes a token or is followed by one that
does. -/

mutual

/-- The node ahead. `block` allows block collections, `indentless` block entries without a block. -/
def readNode (fuel : Nat) (block indentless : Bool) (r : Reader) : Reading Node :=
  match fuel with
  | 0 => (.cut, none)
  | fuel + 1 =>
    match r.peek with
    | some (.alias name) =>
      match r.anchors.lookup name with
      | some anchor => (.alias anchor, some r.skip)
      | none => (.cut, none)
    | _ =>
      let (properties, r) := r.properties
      match properties.tag.map r.expand with
      | some none => (.cut, none)
      | expanded =>
        let tag := expanded.join.map Tag.ofOctets
        let (anchor, named) := r.addAnchor properties.anchor
        match r.peek with
        | none => (.cut, none)
        | some token =>
          if indentless ∧ token = .blockEntry then
            let (items, rest) := readPlainItems fuel named
            (.sequence anchor tag items, rest)
          else match token with
            | .scalar style text =>
              (.scalar anchor ⟨tag, style, text⟩, some named.skip)
            | .flowSequenceStart =>
              let (items, rest) := readFlowItems fuel true named.skip
              (.sequence anchor tag items, rest)
            | .flowMappingStart =>
              let (entries, rest) := readFlowEntries fuel true named.skip
              (.mapping anchor tag entries, rest)
            | _ =>
              if block ∧ token = .blockSequenceStart then
                let (items, rest) := readBlockItems fuel named.skip
                (.sequence anchor tag items, rest)
              else if block ∧ token = .blockMappingStart then
                let (entries, rest) := readBlockEntries fuel named.skip
                (.mapping anchor tag entries, rest)
              else if properties.anchor.isSome ∨ properties.tag.isSome then
                (.scalar anchor (.absent tag), some named)
              else (.cut, none)
termination_by structural fuel

/-- The node ahead, or an absent scalar if the next token satisfies `absent`. -/
def readPart (fuel : Nat) (absent : Token → Bool) (block indentless : Bool) (r : Reader) :
    Reading Node :=
  match fuel with
  | 0 => (.cut, none)
  | fuel + 1 =>
    match r.peek with
    | none => (.cut, none)
    | some token =>
      if absent token then (.absent, some r) else readNode fuel block indentless r
termination_by structural fuel

/-- The entries of a block sequence, to its end. -/
def readBlockItems (fuel : Nat) (r : Reader) : Reading (List Node) :=
  match fuel with
  | 0 => ([.cut], none)
  | fuel + 1 =>
    match r.peek with
    | some .blockEntry =>
      match readPart fuel endsBlockItem true false r.skip with
      | (item, none) => ([item], none)
      | (item, some r) =>
        let (items, rest) := readBlockItems fuel r
        (item :: items, rest)
    | some .blockEnd => ([], some r.skip)
    | _ => ([.cut], none)
termination_by structural fuel

/-- The entries of a sequence that stands at the indentation of the mapping around it. -/
def readPlainItems (fuel : Nat) (r : Reader) : Reading (List Node) :=
  match fuel with
  | 0 => ([.cut], none)
  | fuel + 1 =>
    match r.peek with
    | some .blockEntry =>
      match readPart fuel endsPlainItem true false r.skip with
      | (item, none) => ([item], none)
      | (item, some r) =>
        let (items, rest) := readPlainItems fuel r
        (item :: items, rest)
    | some _ => ([], some r)
    | none => ([.cut], none)
termination_by structural fuel

def readBlockEntries (fuel : Nat) (r : Reader) : Reading (List (Node × Node)) :=
  match fuel with
  | 0 => ([(.cut, .cut)], none)
  | fuel + 1 =>
    match r.peek with
    | some .key =>
      match readPart fuel endsBlockPart true true r.skip with
      | (key, none) => ([(key, .cut)], none)
      | (key, some r) =>
        match readBlockValue fuel r with
        | (value, none) => ([(key, value)], none)
        | (value, some r) =>
          let (entries, rest) := readBlockEntries fuel r
          ((key, value) :: entries, rest)
    | some .blockEnd => ([], some r.skip)
    | _ => ([(.cut, .cut)], none)
termination_by structural fuel

def readBlockValue (fuel : Nat) (r : Reader) : Reading Node :=
  match fuel with
  | 0 => (.cut, none)
  | fuel + 1 =>
    match r.peek with
    | some .value => readPart fuel endsBlockPart true true r.skip
    | some _ => (.absent, some r)
    | none => (.cut, none)
termination_by structural fuel

/-- The items of a flow sequence, to its bracket. An item behind a key mark, or in front of a colon,
is a mapping of one entry, which ends only when a further token is found. -/
def readFlowItems (fuel : Nat) (first : Bool) (r : Reader) : Reading (List Node) :=
  match fuel with
  | 0 => ([.cut], none)
  | fuel + 1 =>
    match r.peek with
    | some .flowSequenceEnd => ([], some r.skip)
    | some token =>
      if ¬ first ∧ token ≠ .flowEntry then ([.cut], none)
      else
        let r := if first then r else r.skip
        match r.peek with
        | none => ([.cut], none)
        | some .flowSequenceEnd => ([], some r.skip)
        | some .key =>
          match readPair fuel r.skip with
          | (entry, none) => ([.mapping none none [entry]], none)
          | (entry, some r) =>
            if r.tokens.isEmpty then ([.mapping none none [entry, (.cut, .cut)]], none)
            else
              let (items, rest) := readFlowItems fuel false r
              (.mapping none none [entry] :: items, rest)
        | some _ =>
          match readNode fuel false false r with
          | (item, none) => ([item], none)
          | (item, some r) =>
            let (items, rest) := readFlowItems fuel false r
            (item :: items, rest)
    | none => ([.cut], none)
termination_by structural fuel

/-- The one entry of a mapping within a flow sequence. Where the key is absent, the token that shows
its absence is passed over. -/
def readPair (fuel : Nat) (r : Reader) : Reading (Node × Node) :=
  match fuel with
  | 0 => ((.cut, .cut), none)
  | fuel + 1 =>
    match r.peek with
    | none => ((.cut, .cut), none)
    | some token =>
      if token = .value ∨ endsFlowPart .flowSequenceEnd token then
        let (value, rest) := readFlowValue fuel .flowSequenceEnd r.skip
        ((.absent, value), rest)
      else match readNode fuel false false r with
        | (key, none) => ((key, .cut), none)
        | (key, some r) =>
          let (value, rest) := readFlowValue fuel .flowSequenceEnd r
          ((key, value), rest)
termination_by structural fuel

/-- The value behind a colon; without one it is absent. -/
def readFlowValue (fuel : Nat) (close : Token) (r : Reader) : Reading Node :=
  match fuel with
  | 0 => (.cut, none)
  | fuel + 1 =>
    match r.peek with
    | none => (.cut, none)
    | some .value => readPart fuel (endsFlowPart close) false false r.skip
    | some _ => (.absent, some r)
termination_by structural fuel

/-- The entries of a flow mapping, to its brace. A key without a mark and a colon has no value. -/
def readFlowEntries (fuel : Nat) (first : Bool) (r : Reader) : Reading (List (Node × Node)) :=
  match fuel with
  | 0 => ([(.cut, .cut)], none)
  | fuel + 1 =>
    match r.peek with
    | some .flowMappingEnd => ([], some r.skip)
    | some token =>
      if ¬ first ∧ token ≠ .flowEntry then ([(.cut, .cut)], none)
      else
        let r := if first then r else r.skip
        match r.peek with
        | none => ([(.cut, .cut)], none)
        | some .flowMappingEnd => ([], some r.skip)
        | some .key =>
          let absent (token : Token) := token = .value || endsFlowPart .flowMappingEnd token
          match readPart fuel absent false false r.skip with
          | (key, none) => ([(key, .cut)], none)
          | (key, some r) =>
            match readFlowValue fuel .flowMappingEnd r with
            | (value, none) => ([(key, value)], none)
            | (value, some r) =>
              let (entries, rest) := readFlowEntries fuel false r
              ((key, value) :: entries, rest)
        | some _ =>
          match readNode fuel false false r with
          | (key, none) => ([(key, .cut)], none)
          | (key, some r) =>
            if r.tokens.isEmpty then ([(key, .cut)], none)
            else
              let (entries, rest) := readFlowEntries fuel false r
              ((key, .absent) :: entries, rest)
    | none => ([(.cut, .cut)], none)
termination_by structural fuel

end

end TrustedAppId.Markup
