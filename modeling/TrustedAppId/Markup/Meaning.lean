import TrustedAppId.Markup.Node
import TrustedAppId.Number.Binary64
import TrustedAppId.Text.Digits
import TrustedAppId.Text.Quoted
/-! What scalars mean. A plain scalar without a tag is null, a truth value, an integer or a floating
point number if it is spelt like one, and else a text, as any scalar in quotes or in a block is. A
tag of the notation's own demands the spelling of its type. -/
namespace TrustedAppId.Markup

/-- What stands at a place of a text, as messages name it. -/
inductive Found where
  | unit
  | bool (value : Bool)
  /-- An integer of at most 64 bits. -/
  | integer (value : Int)
  /-- An integer of at most 128 bits, with the name of its type. -/
  | wide (value : Int) (type : String)
  | float (value : Binary64)
  | infinite (negative : Bool)
  | notANumber
  | string (text : String)
  | sequence
  | map
  | tagged
deriving DecidableEq

/-- Digits without an exponent at any size. -/
def Found.floatLayout : Binary64.Layout := ⟨fun _ => true, false⟩

def Found.message : Found → String
  | .unit => "unit value"
  | .bool value => s!"boolean `{value}`"
  | .integer value => s!"integer `{value}`"
  | .wide value type => s!"integer `{value}` as {type}"
  | .float value => "floating point `" ++ Found.floatLayout.write value ++ "`"
  | .infinite negative => if negative then "floating point `-inf`" else "floating point `inf`"
  | .notANumber => "floating point `NaN`"
  | .string text => "string " ++ Text.quoted text
  | .sequence => "sequence"
  | .map => "map"
  | .tagged => "enum"

/-- The words of a plain scalar that stand for null, beside the empty one. -/
def nullWords : List String := ["null", "Null", "NULL", "~"]

def trueWords : List String := ["true", "True", "TRUE"]

def falseWords : List String := ["false", "False", "FALSE"]

def isOneOf (words : List String) (cs : List Char) : Bool :=
  words.any fun word => word.toList == cs

def bool? (cs : List Char) : Option Bool :=
  if isOneOf trueWords cs then some true else if isOneOf falseWords cs then some false else none

/-! Integers are written in decimal digits, or behind `0x`, `0o` or `0b` in those of the base 16, 8
or 2. -/

def ofDigits? (base : Nat) (cs : List Char) : Option Nat :=
  if !cs.isEmpty && cs.all (fun c => Hex.isDigit c && Hex.digitValue c < base) then
    some (cs.foldl (fun n c => n * base + Hex.digitValue c) 0)
  else none

/-- A leading zero before further decimal digits makes no number. -/
def isPaddedDigits : List Char → Bool
  | '0' :: c :: rest => (c :: rest).all Decimal.isDigit
  | _ => false

def magnitude? (cs : List Char) : Option Nat :=
  match cs with
  | '0' :: 'x' :: rest => ofDigits? 16 rest
  | '0' :: 'o' :: rest => ofDigits? 8 rest
  | '0' :: 'b' :: rest => ofDigits? 2 rest
  | _ => if isPaddedDigits cs then none else ofDigits? 10 cs

/-- The sign and what follows it; `true` is a minus. -/
def splitSign : List Char → Bool × List Char
  | '-' :: rest => (true, rest)
  | '+' :: rest => (false, rest)
  | cs => (false, cs)

/-- An integer of at most 128 bits. -/
def integer? (cs : List Char) : Option Found := do
  let (negative, body) := splitSign cs
  let size ← magnitude? body
  if negative then
    if size ≤ Nat.pow 2 63 then pure (.integer (-size))
    else if size ≤ Nat.pow 2 127 then pure (.wide (-size) "i128")
    else none
  else if size < Nat.pow 2 64 then pure (.integer size)
  else if size < Nat.pow 2 128 then pure (.wide size "u128")
  else none

/-- The exponent behind its mark, or zero if there is none. -/
def exponent? : List Char → Option Int
  | [] => some 0
  | mark :: rest =>
    if mark = 'e' ∨ mark = 'E' then do
      let (negative, body) := splitSign rest
      let size ← ofDigits? 10 body
      pure (if negative then -size else size)
    else none

/-- Decimal digits, at least one of them on either side of an optional point, and an exponent. -/
def decimal? (negative : Bool) (cs : List Char) : Option Binary64 := do
  let whole := cs.takeWhile Decimal.isDigit
  let rest := cs.dropWhile Decimal.isDigit
  let (part, rest) := match rest with
    | '.' :: more => (more.takeWhile Decimal.isDigit, more.dropWhile Decimal.isDigit)
    | _ => ([], rest)
  let power ← exponent? rest
  if whole.isEmpty && part.isEmpty then none
  Binary64.ofDecimal? negative (Decimal.value (whole ++ part)) (power - part.length)

def infinityWords : List String := [".inf", ".Inf", ".INF"]

def notANumberWords : List String := [".nan", ".NaN", ".NAN"]

def float? (cs : List Char) : Option Found :=
  let (negative, body) := splitSign cs
  if isOneOf infinityWords body then some (.infinite negative)
  else if isOneOf notANumberWords cs then some .notANumber
  else (decimal? negative body).map .float

/-- The meaning of a plain scalar without a tag. -/
def plainMeaning (cs : List Char) : Found :=
  if cs.isEmpty || isOneOf nullWords cs then .unit
  else match bool? cs with
    | some value => .bool value
    | none =>
      match integer? cs with
      | some found => found
      | none =>
        let float := if isPaddedDigits (splitSign cs).2 then none else float? cs
        float.getD (.string (String.ofList cs))

/-- The meaning of a scalar, or what its tag demands of it in vain. -/
def Scalar.meaning (s : Scalar) : Except String Found :=
  let text := Found.string (String.ofList s.text)
  match s.tag with
  | some .bool => ((bool? s.text).map Found.bool).elim (.error "a boolean") .ok
  | some .int => (integer? s.text).elim (.error "an integer") .ok
  | some .float => (float? s.text).elim (.error "a float") .ok
  | some .null => if isOneOf nullWords s.text then .ok .unit else .error "null"
  | some (.own _) | none => .ok (if s.style = .plain then plainMeaning s.text else text)
  | some .other => .ok text

end TrustedAppId.Markup
