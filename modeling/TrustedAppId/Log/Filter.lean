import TrustedAppId.Log
import TrustedAppId.Text.Blank
import TrustedAppId.Text.Digits
import TrustedAppId.Text.Letter
import TrustedAppId.Log.Pattern
/-! Which events are shown. A filter is a list of directives separated by commas, each of the form
`target[span]=level` with any part left out. A directive holds for the targets that begin with its
own and for events that have all fields it names; of several, the most specific one decides. There
are no spans here, so a directive that asks for a span, or for the value of a field, selects
nothing. -/
namespace TrustedAppId

structure Directive where
  target : Option String
  fields : List String
  /-- The rank of the least grave level shown; zero shows none. -/
  rank : Nat
  /-- Asks for a span or for a field's value. -/
  dynamic : Bool
  /-- Holds for events. -/
  holds : Bool

namespace Directive

def levelNames : List (String × Nat) :=
  [("off", 0), ("error", 1), ("warn", 2), ("info", 3), ("debug", 4), ("trace", 5)]

/-- A level by number or, in any case of letters, by name. -/
def level? (cs : List Char) : Option Nat :=
  let ds := if cs.head? = some '+' then cs.drop 1 else cs
  if !ds.isEmpty && ds.all Decimal.isDigit then
    let n := Decimal.value ds
    if n ≤ 5 then some n else none
  else levelNames.lookup (String.ofList (cs.map Char.toLower))

/-- The rank of an absent level shows everything. -/
def allRanks : Nat := 5

def levelOrAll? (cs : List Char) : Option Nat := if cs.isEmpty then some allRanks else level? cs

/-- A letter, a numeral or a mark of a path. -/
def beginsTarget (c : Char) : Bool :=
  ['-', ':', '_'].contains c || Text.isLetterOrNumeral c

/-- A field by name, or with a value behind a first equals sign and up to a second one. -/
def isField (field : List Char) : Bool :=
  match field.dropWhile (· ≠ '=') with
  | _ :: value => Pattern.isValue (value.takeWhile (· ≠ '='))
  | [] => !field.isEmpty

/-- How far a directive is read. -/
inductive Scan where
  | start
  | target (done : List Char)
  | span (done : List Char)
  | field (done : List Char)
  | fieldsEnd
  | spanEnd
  | level (done : List Char)

structure Draft where
  target : Option (List Char)
  span : Option (List Char)
  fields : List (List Char)

def Draft.empty : Draft := ⟨none, none, []⟩

/-- Reads on by one character `c`, for which the words take up `t`. The texts in `Scan` have their
last character first. -/
def step : Scan × Draft → Char × Char → Option (Scan × Draft)
  | (.start, d), (c, t) =>
    if c = '[' then some (.span [], d) else if beginsTarget c then some (.target [t], d) else none
  | (.target done, d), (c, t) =>
    if c = '=' then some (.level [], { d with target := some done.reverse })
    else if c = '[' then some (.span [], { d with target := some done.reverse })
    else some (.target (t :: done), d)
  | (.span done, d), (c, t) =>
    if c = ']' then some (.spanEnd, { d with span := some done.reverse })
    else if c = '\x7b' then
      some (.field [], { d with span := if done.isEmpty then none else some done.reverse })
    else some (.span (t :: done), d)
  | (.field done, d), (c, t) =>
    if c = '\x7d' then
      if isField done.reverse then
        some (.fieldsEnd, { d with fields := d.fields ++ [done.reverse] })
      else none
    else some (.field (t :: done), d)
  | (.fieldsEnd, d), (c, _) => if c = ']' then some (.spanEnd, d) else none
  | (.spanEnd, d), (c, _) => if c = '=' then some (.level [], d) else none
  | (.level done, d), (_, t) => some (.level (t :: done), d)

def ofDraft (d : Draft) (rank : Nat) : Directive where
  target := d.target.map String.ofList
  fields := d.fields.map fun field => String.ofList (field.takeWhile (· ≠ '='))
  rank := rank
  dynamic := d.span.isSome || !d.fields.isEmpty
  holds := d.span.isNone && d.fields.all fun field => !field.contains '='

/-- Ends a directive with `rest` behind its last word. A lone word is a level if it can be one. -/
def finish (rest : List Char) : Scan × Draft → Option Directive
  | (.target done, d) =>
    let word := done.reverse ++ rest
    match level? word with
    | some rank => some (ofDraft d rank)
    | none => some (ofDraft { d with target := some word } allRanks)
  | (.level done, d) => (levelOrAll? (done.reverse ++ rest)).map (ofDraft d)
  | (.spanEnd, d) => some (ofDraft d allRanks)
  | _ => none

/-- Blanks at both ends do not count for where the words begin and end, but the words are cut at
these places from the text with its blanks. -/
def read? (cs : List Char) : Option Directive := do
  let marks := Text.trim cs
  finish (cs.drop marks.length) (← (marks.zip cs).foldlM step (.start, .empty))

/-- The more specific directive stands in front. -/
def precedes (a b : Directive) : Bool :=
  let size (d : Directive) : Nat := (d.target.map fun t => t.utf8ByteSize + 1).getD 0
  if size a ≠ size b then size b < size a
  else if a.fields.length ≠ b.fields.length then b.fields.length < a.fields.length
  else if a.target ≠ b.target then b.target.getD "" < a.target.getD ""
  else b.fields < a.fields

def insert (d : Directive) : List Directive → List Directive
  | [] => [d]
  | e :: rest =>
    if d.target = e.target ∧ d.fields = e.fields then d :: rest
    else if d.precedes e then d :: e :: rest
    else e :: insert d rest

def concerns (d : Directive) (event : Event) : Bool :=
  (d.target.all fun target => event.target.startsWith target) &&
    d.fields.all fun field => field = "message" || event.fields.any fun (name, _) => name = field

end Directive

/-- Directives that hold for events, the most specific ones first. -/
structure LogFilter where
  directives : List Directive

namespace LogFilter

def shows (filter : LogFilter) (event : Event) : Bool :=
  match filter.directives.find? fun d => d.concerns event with
  | some d => event.level.rank ≤ d.rank
  | none => false

def ofRank (rank : Nat) : LogFilter := ⟨[⟨none, [], rank, false, true⟩]⟩

/-- Without any directive only errors are shown. -/
def ofDirectives (directives : List Directive) : LogFilter :=
  if directives.isEmpty then ofRank 1
  else
    let held := directives.filter fun d => d.holds
    let order := held.filter (fun d => !d.dynamic) ++ held.filter fun d => d.dynamic
    ⟨order.foldl (fun done d => d.insert done) []⟩

def read? (text : String) : Option LogFilter := do
  let parts := (Text.split ',' text.toList).filter fun part => !part.isEmpty
  let directives ← parts.mapM Directive.read?
  pure (ofDirectives directives)

/-- The filter that is set from outside, if it can be read, or else one for the verbosity. -/
def choose (setting : Option String) (verbosity : Nat) : LogFilter :=
  match setting.bind read? with
  | some filter => filter
  | none => ofRank (Level.ofVerbosity verbosity).rank

end LogFilter

end TrustedAppId
