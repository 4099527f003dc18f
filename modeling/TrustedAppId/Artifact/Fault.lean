import TrustedAppId.Text.Quoted
import TrustedAppId.Uuid.Spelling
/-! Why a build variable or a header cannot be read back. -/
namespace TrustedAppId

inductive BuildVarFault where
  | empty
  | severalLines
  | noAssignment (line : String)
  | notUuid (value : String) (reason : Uuid.SpellingFault)
  /-- The value is an identifier in another than its canonical spelling. -/
  | notCanonical (value : String)
deriving DecidableEq

def BuildVarFault.message : BuildVarFault → String
  | .empty => "file is empty"
  | .severalLines => "expected a single assignment line"
  | .noAssignment line => "no '=' in " ++ Text.quoted line
  | .notUuid value reason => Text.quoted value ++ " is not a UUID: " ++ reason.message
  | .notCanonical value => Text.quoted value ++ " is not in canonical form"

inductive HeaderFault where
  | noGuard
  | noDefine
  | noInnerList
  | openInnerList
  | openInitializer
  /-- A literal of 2 ^ 64 or more, as it is written. -/
  | hugeLiteral (text : String)
  | outerCount (found : Nat)
  | innerCount (found : Nat)
  | wideLiteral (value bits : Nat)
deriving DecidableEq

def HeaderFault.message : HeaderFault → String
  | .noGuard => "missing `#pragma once`"
  | .noDefine => "no `#define NAME \x7b`"
  | .noInnerList => "missing inner `\x7b` list"
  | .openInnerList => "unterminated inner list"
  | .openInitializer => "unterminated initializer"
  | .hugeLiteral text => "bad literal " ++ text ++ ": number too large to fit in target type"
  | .outerCount found => s!"expected 3 leading fields, found {found}"
  | .innerCount found => s!"expected 8 trailing bytes, found {found}"
  | .wideLiteral value bits =>
    let digits := String.ofList (Hex.minimal value)
    s!"literal 0x{digits} does not fit in {bits} bits"

end TrustedAppId
