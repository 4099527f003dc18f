import TrustedAppId.Log
import TrustedAppId.CommandLine
import TrustedAppId.Text.Visible
/-! The options of each command, and why a command line is refused. Options of which the value is
empty are refused like those that have none, except for names. -/
namespace TrustedAppId

/-- The part of a command line before the subcommand, or that of a subcommand. -/
inductive Scope where
  | top
  | generate
  | verify
deriving DecidableEq

/-- Options with a value. -/
inductive Valued where
  | directory
  | variableName
  | macroName
  | record
  | replay
deriving DecidableEq

namespace Valued

def all : List Valued := [.directory, .variableName, .macroName, .record, .replay]

def long : Valued → String
  | .directory => "out-dir"
  | .variableName => "var-name"
  | .macroName => "macro-name"
  | .record => "record"
  | .replay => "replay"

/-- What stands for the value in a description. -/
def placeholder : Valued → String
  | .directory => "DIR"
  | .variableName | .macroName => "NAME"
  | .record | .replay => "FILE"

def shown (o : Valued) : String := "--" ++ o.long ++ " <" ++ o.placeholder ++ ">"

def isCassette : Valued → Bool
  | .record | .replay => true
  | _ => false

def takesEmpty : Valued → Bool
  | .variableName | .macroName => true
  | _ => false

end Valued

inductive Flag where
  | verbose
  | help
  | version
deriving DecidableEq

namespace Flag

def all : List Flag := [.verbose, .help, .version]

def long : Flag → String
  | .verbose => "verbose"
  | .help => "help"
  | .version => "version"

def short : Flag → Char
  | .verbose => 'v'
  | .help => 'h'
  | .version => 'V'

/-- Dots for a flag that may be repeated. -/
def shown : Flag → String
  | .verbose => "--verbose..."
  | .help => "--help"
  | .version => "--version"

end Flag

namespace Scope

def hasValued (scope : Scope) (o : Valued) : Bool := scope ≠ .verify || !o.isCassette

def hasFlag (scope : Scope) (f : Flag) : Bool := scope = .top || f ≠ .version

def valued? (scope : Scope) (long : String) : Option Valued :=
  Valued.all.find? fun o => scope.hasValued o && o.long = long

def longFlag? (scope : Scope) (long : String) : Option Flag :=
  Flag.all.find? fun f => scope.hasFlag f && f.long = long

def shortFlag? (scope : Scope) (short : Char) : Option Flag :=
  Flag.all.find? fun f => scope.hasFlag f && f.short = short

end Scope

inductive UsageFault where
  | unexpected (argument : String)
  | unknownCommand (name : String)
  | missingValue (option : Valued)
  | repeated (option : Valued)
  /-- The two options exclude each other; `first` was given first. -/
  | conflict (first second : Valued)
  | unwantedValue (value : String) (flag : Flag)
  | version
  | help
deriving DecidableEq

def programName : String := "ta-uuidgen"

def programVersion : String := "0.1.0"

/-- The message of a refusal; help is no message. Of an argument it holds what a terminal shows. -/
def UsageFault.message : UsageFault → Option String
  | .unexpected argument =>
    some ("error: unexpected argument '" ++ Text.visible argument ++ "' found")
  | .unknownCommand name => some ("error: unrecognized subcommand '" ++ Text.visible name ++ "'")
  | .missingValue option =>
    some ("error: a value is required for '" ++ option.shown ++ "' but none was supplied")
  | .repeated option =>
    some ("error: the argument '" ++ option.shown ++ "' cannot be used multiple times")
  | .conflict first second =>
    some ("error: the argument '" ++ first.shown ++ "' cannot be used with '" ++
      second.shown ++ "'")
  | .unwantedValue value flag =>
    some ("error: unexpected value '" ++ Text.visible value ++ "' for '" ++ flag.shown ++
      "' found; no more were expected")
  | .version => some (programName ++ " " ++ programVersion)
  | .help => none

end TrustedAppId
