import TrustedAppId.CommandLine.Option
/-! The texts that explain the command line. -/
namespace TrustedAppId.UsageFault

def usageLine : String := "Usage: " ++ programName ++ " [OPTIONS] [COMMAND]"

def helpText : String := "\n".intercalate [
  "Generate a trusted application UUID as a make fragment and a C header",
  "",
  usageLine,
  "",
  "Commands:",
  "  generate  Generate a new identifier and write uuid.mk and uuid.h",
  "  verify    Check that uuid.mk and uuid.h carry the same identifier",
  "  help      Print this message",
  "",
  "Options:",
  "      --record <FILE>      Record the generated identifier to this cassette file",
  "      --replay <FILE>      Emit the identifier recorded in this cassette file",
  "      --out-dir <DIR>      Directory for uuid.mk and uuid.h",
  "                           [default: include/ beside the executable]",
  "      --var-name <NAME>    Name of the make variable [default: TA_UUID]",
  "      --macro-name <NAME>  Name of the header macro [default: TA_UUID]",
  "  -v, --verbose...         Increase log verbosity (-v info, -vv debug, -vvv trace)",
  "  -h, --help               Print help",
  "  -V, --version            Print version"]

/-- All that is shown when a command line is refused. -/
def explanation (fault : UsageFault) : String :=
  match fault, fault.message with
  | .version, some message => message
  | _, some message =>
    message ++ "\n\n" ++ usageLine ++ "\n\nFor more information, try '--help'."
  | _, none => helpText

end TrustedAppId.UsageFault
