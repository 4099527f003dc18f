import TrustedAppId.Number.Binary64
/-! Recorded data: null, truth values, numbers, texts, lists, and records whose members are kept in
the order of their names, one for each name. -/
namespace TrustedAppId

inductive Value where
  | null
  | bool (value : Bool)
  | int (value : Int)
  | float (value : Binary64)
  | string (text : String)
  | array (items : List Value)
  | object (members : List (String × Value))

namespace Value

/-- The integers that a value can hold. -/
def holds (n : Int) : Bool := -Nat.pow 2 63 ≤ n && n < Nat.pow 2 64

/-- Adds a member in its place; a member of the same name gives way. -/
def insertMember (name : String) (value : Value) :
    List (String × Value) → List (String × Value)
  | [] => [(name, value)]
  | (other, old) :: rest =>
    if name < other then (name, value) :: (other, old) :: rest
    else if name = other then (name, value) :: rest
    else (other, old) :: insertMember name value rest

def ofMembers (members : List (String × Value)) : Value :=
  .object (members.foldl (fun done (name, value) => insertMember name value done) [])

end TrustedAppId.Value
