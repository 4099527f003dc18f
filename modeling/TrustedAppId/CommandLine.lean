/-! What a command line asks for. Without a subcommand an identifier is generated; the options that
are shared by all commands may stand on either side of the subcommand. -/
namespace TrustedAppId

/-- Where to record the identifier, or which recorded one to take. -/
structure CassetteOptions where
  record : Option String
  replay : Option String
deriving DecidableEq

namespace CassetteOptions

def none : CassetteOptions := ⟨.none, .none⟩

def isSet (o : CassetteOptions) : Bool := o.record.isSome || o.replay.isSome

end CassetteOptions

inductive Command where
  | generate (options : CassetteOptions)
  | verify
deriving DecidableEq

structure CommandLine where
  /-- The subcommand, if there is one. -/
  explicit : Option Command
  /-- The cassette options in front of any subcommand. -/
  top : CassetteOptions
  directory : Option String
  variableName : String
  macroName : String
  verbosity : Nat
deriving DecidableEq

/-- The command to carry out. -/
def CommandLine.command (line : CommandLine) : Command := line.explicit.getD (.generate line.top)

end TrustedAppId
