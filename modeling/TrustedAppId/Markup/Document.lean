import TrustedAppId.Markup.Node
/-! The first document of a text, with the nodes that its aliases stand for. -/
namespace TrustedAppId.Markup

/-- What follows the root of the first document. -/
inductive Ending where
  | endOfText
  | fault
  | anotherDocument
deriving DecidableEq

structure Document where
  root : Node
  ending : Ending

mutual

/-- Whether nothing of the node is cut off. -/
def Node.isWhole : Node → Bool
  | .scalar _ _ => true
  | .sequence _ _ items => allWhole items
  | .mapping _ _ entries => entriesWhole entries
  | .alias _ => true
  | .cut => false

def allWhole : List Node → Bool
  | [] => true
  | node :: rest => node.isWhole && allWhole rest

def entriesWhole : List (Node × Node) → Bool
  | [] => true
  | (key, value) :: rest => key.isWhole && value.isWhole && entriesWhole rest

end

mutual

/-- How many scalars, aliases and ends of collections the sound part holds. -/
def Node.size : Node → Nat
  | .scalar _ _ => 1
  | .sequence _ _ items => sizes items + (if allWhole items then 2 else 1)
  | .mapping _ _ entries => entrySizes entries + (if entriesWhole entries then 2 else 1)
  | .alias _ => 1
  | .cut => 0

def sizes : List Node → Nat
  | [] => 0
  | node :: rest => node.size + sizes rest

def entrySizes : List (Node × Node) → Nat
  | [] => 0
  | (key, value) :: rest => key.size + value.size + entrySizes rest

end

mutual

/-- The nodes with an anchor, in the order of the text. -/
def Node.anchored : Node → List (Nat × Node)
  | .scalar anchor content => (anchor.map fun n => (n, Node.scalar anchor content)).toList
  | .sequence anchor tag items =>
    (anchor.map fun n => (n, Node.sequence anchor tag items)).toList ++ allAnchored items
  | .mapping anchor tag entries =>
    (anchor.map fun n => (n, Node.mapping anchor tag entries)).toList ++ entriesAnchored entries
  | .alias _ => []
  | .cut => []

def allAnchored : List Node → List (Nat × Node)
  | [] => []
  | node :: rest => node.anchored ++ allAnchored rest

def entriesAnchored : List (Node × Node) → List (Nat × Node)
  | [] => []
  | (key, value) :: rest => key.anchored ++ value.anchored ++ entriesAnchored rest

end

/-- The node that an alias stands for: the last one with its number. -/
def Document.target? (document : Document) (anchor : Nat) : Option Node :=
  document.root.anchored.reverse.lookup anchor

def coreHandles : Handles :=
  [(['!'], octetsOf ['!']), (['!', '!'], octetsOf "tag:yaml.org,2002:".toList)]

/-- The directives in front of a document: at most one version, which must be 1.1 or 1.2, and
handles of tags, each of them once. -/
def readDirectives : (version : Bool) → Handles → List Token → Option (Handles × List Token)
  | version, handles, .version major minor :: rest =>
    if version ∨ major ≠ 1 ∨ (minor ≠ 1 ∧ minor ≠ 2) then none
    else readDirectives true handles rest
  | version, handles, .tagHandle handle expansion :: rest =>
    if (handles.lookup handle).isSome then none
    else readDirectives version ((handle, expansion) :: handles) rest
  | _, handles, tokens => some (handles, tokens)

def isDirective : Token → Bool
  | .version _ _ | .tagHandle _ _ => true
  | _ => false

/-- A token that leaves a document without content. -/
def leavesEmpty (token : Token) : Bool :=
  isDirective token || token = .documentStart || token = .documentEnd || token = .streamEnd

/-- What stands behind the end of a document. -/
def endingOf : List Token → Ending
  | .documentEnd :: rest => endingOf rest
  | .streamEnd :: _ => .endOfText
  | [] => .fault
  | _ :: _ => .anotherDocument

def readRoot (r : Reader) (explicit : Bool) : Document :=
  let fuel := 4 * r.tokens.length + 4
  let (root, rest) :=
    if explicit then readPart fuel leavesEmpty true false r else readNode fuel true false r
  match rest with
  | none => ⟨root, .fault⟩
  | some r => ⟨root, endingOf r.tokens⟩

def Document.ofTokens (tokens : List Token) : Document :=
  match tokens with
  | [] => ⟨.cut, .fault⟩
  | .streamEnd :: _ => ⟨.absent, .endOfText⟩
  | first :: _ =>
    if isDirective first ∨ first = .documentStart then
      match readDirectives false [] tokens with
      | some (handles, .documentStart :: rest) =>
        readRoot ⟨rest, [], handles ++ coreHandles⟩ true
      | _ => ⟨.cut, .fault⟩
    else readRoot ⟨tokens, [], coreHandles⟩ false

def Document.ofText (text : List Char) : Document :=
  Document.ofTokens (lex text).tokens

end TrustedAppId.Markup
