import TrustedAppId.CommandLine.Option
import TrustedAppId.Emission
/-! Reading a command line, argument by argument. An option whose value is the next argument stays
open until another option or the end of its scope settles it; only then are its faults found, so
that an unknown argument in between is found first. Behind `--` nothing counts as an option. -/
namespace TrustedAppId.CommandLine

/-- What has been read of one scope. -/
structure Progress where
  given : List (Valued × String)
  verbosity : Option Nat
  /-- The option given last, with its value if that is there. -/
  pending : Option (Valued × Option String)
  /-- A `--` has been read. -/
  closed : Bool

namespace Progress

def start : Progress := ⟨[], none, none, false⟩

def value? (p : Progress) (o : Valued) : Option String := p.given.lookup o

/-- The last option waits for its value. -/
def awaits (p : Progress) : Bool :=
  match p.pending with
  | some (_, none) => true
  | _ => false

def accept (p : Progress) (o : Valued) (value : String) : Except UsageFault Progress :=
  if (p.value? o).isSome then .error (.repeated o)
  else if value.isEmpty ∧ ¬ o.takesEmpty then .error (.missingValue o)
  else .ok { p with given := p.given ++ [(o, value)] }

def settle (p : Progress) : Except UsageFault Progress :=
  match p.pending with
  | none => .ok p
  | some (o, none) => .error (.missingValue o)
  | some (o, some value) => accept { p with pending := none } o value

/-- The largest count of a flag. -/
def countLimit : Nat := 255

def flag (p : Progress) (f : Flag) : Except UsageFault Progress := do
  let p ← p.settle
  match f with
  | .verbose => pure { p with verbosity := some (min countLimit (p.verbosity.getD 0 + 1)) }
  | .help => throw .help
  | .version => throw .version

/-- The first two of the options given that exclude each other. -/
def checkConflict (p : Progress) : Except UsageFault Progress :=
  match (p.given.map Prod.fst).filter Valued.isCassette with
  | first :: second :: _ => .error (.conflict first second)
  | _ => .ok p

def finish (p : Progress) : Except UsageFault Progress := do (← p.settle).checkConflict

def cassettes (p : Progress) : CassetteOptions := ⟨p.value? .record, p.value? .replay⟩

end Progress

/-- An argument by its form. -/
inductive Argument where
  /-- Two dashes. -/
  | divider
  | long (name : String) (value : Option String)
  | shorts (letters : List Char)
  | word

def Argument.ofString (text : String) : Argument :=
  match text.toList with
  | ['-', '-'] => .divider
  | '-' :: '-' :: rest =>
    match Text.splitFirst '=' rest with
    | some (name, value) => .long (String.ofList name) (some (String.ofList value))
    | none => .long (String.ofList rest) none
  | '-' :: c :: rest => .shorts (c :: rest)
  | _ => .word

def readLong (scope : Scope) (p : Progress) (name : String) (value : Option String) :
    Except UsageFault Progress :=
  match scope.valued? name, scope.longFlag? name with
  | some o, _ => do
    let p ← p.settle
    match value with
    | some value => p.accept o value
    | none => pure { p with pending := some (o, none) }
  | none, some f =>
    match value with
    | some value => .error (.unwantedValue value f)
    | none => p.flag f
  | none, none => .error (.unexpected ("--" ++ name))

def readShorts (scope : Scope) (p : Progress) : List Char → Except UsageFault Progress
  | [] => .ok p
  | c :: rest =>
    match scope.shortFlag? c with
    | some f => do readShorts scope (← p.flag f) rest
    | none => .error (.unexpected (String.ofList ['-', c]))

def commandNames : List String := ["generate", "verify", "help"]

/-- Faults of a word that is the value of no option. -/
def misplaced (scope : Scope) (p : Progress) (word : String) : UsageFault :=
  if scope ≠ .top ∨ (p.closed ∧ commandNames.contains word) then .unexpected word
  else .unknownCommand word

/-- Reads one argument that is no subcommand. -/
def readArgument (scope : Scope) (p : Progress) (text : String) : Except UsageFault Progress :=
  if p.closed then .error (misplaced scope p text)
  else match Argument.ofString text with
    | .divider => .ok { p with closed := true }
    | .long name value => readLong scope p name value
    | .shorts letters => readShorts scope p letters
    | .word =>
      match p.pending with
      | some (o, none) => .ok { p with pending := some (o, some text) }
      | _ => .error (misplaced scope p text)

def readScope (scope : Scope) : Progress → List String → Except UsageFault Progress
  | p, [] => p.finish
  | p, text :: rest => do readScope scope (← readArgument scope p text) rest

/-- What the words behind `help` lead to: there is help on each command, and commands have no
commands of their own. -/
def readHelp : List String → UsageFault
  | [] => .help
  | first :: rest =>
    if commandNames.contains first then
      match rest with
      | [] => .help
      | second :: _ => .unknownCommand second
    else .unknownCommand first

structure Reading where
  top : Progress
  /-- The subcommand and what has been read of its scope. -/
  sub : Option (Scope × Progress)

/-- Reads the part in front of the subcommand, and then the subcommand, which is settled first. -/
def readTop : Progress → List String → Except UsageFault Reading
  | p, [] => do pure ⟨← p.finish, none⟩
  | p, text :: rest =>
    let isCommand := !p.awaits && !p.closed && commandNames.contains text
    if isCommand then
      if text = "help" then .error (readHelp rest)
      else do
        let scope := if text = "verify" then Scope.verify else Scope.generate
        let sub ← readScope scope .start rest
        pure ⟨← p.finish, some (scope, sub)⟩
    else do readTop (← readArgument .top p text) rest

/-- The value behind the subcommand if there is one, or else the one in front of it. -/
def Reading.shared? (r : Reading) (o : Valued) : Option String :=
  (r.sub.bind fun (_, sub) => sub.value? o).or (r.top.value? o)

def Reading.explicit (r : Reading) : Option Command :=
  r.sub.map fun (scope, sub) => match scope with
    | .verify => .verify
    | _ => .generate sub.cassettes

def Reading.commandLine (r : Reading) : CommandLine where
  explicit := r.explicit
  top := r.top.cassettes
  directory := r.shared? .directory
  variableName := (r.shared? .variableName).getD defaultName
  macroName := (r.shared? .macroName).getD defaultName
  verbosity := ((r.sub.bind fun (_, sub) => sub.verbosity).or r.top.verbosity).getD 0

/-- Reads the arguments behind the name of the program. -/
def read (arguments : List String) : Except UsageFault CommandLine := do
  pure (← readTop .start arguments).commandLine

end TrustedAppId.CommandLine
