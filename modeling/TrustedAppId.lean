import TrustedAppId.Main
import TrustedAppId.Proofs.Text.Digits
import TrustedAppId.Proofs.Text.Lines
import TrustedAppId.Proofs.Uuid.RoundTrip
import TrustedAppId.Proofs.Uuid.Spellings
import TrustedAppId.Proofs.Artifact.BuildVar
import TrustedAppId.Proofs.Artifact.Header
import TrustedAppId.Proofs.Artifact.RoundTrip
import TrustedAppId.Proofs.Artifact.Cut
import TrustedAppId.Proofs.FileTree.Resolution
import TrustedAppId.Proofs.FileTree.Storing
import TrustedAppId.Proofs.FileTree.Changes
import TrustedAppId.Proofs.FileTree.Writable
import TrustedAppId.Proofs.Emission.Effect
import TrustedAppId.Proofs.Emission.EmitVerify
import TrustedAppId.Proofs.Markup.Positions
import TrustedAppId.Proofs.Markup.PlainScalar
import TrustedAppId.Proofs.Markup.SingleQuotes
import TrustedAppId.Proofs.Markup.DoubleQuotes
import TrustedAppId.Proofs.Markup.LiteralLines
import TrustedAppId.Proofs.Markup.Lexing
import TrustedAppId.Proofs.Markup.Words
import TrustedAppId.Proofs.Markup.Scalars
import TrustedAppId.Proofs.Markup.Keys
import TrustedAppId.Proofs.Markup.ContentTokens
import TrustedAppId.Proofs.Markup.Allowed
import TrustedAppId.Proofs.Markup.ContentNodes
import TrustedAppId.Proofs.Timestamp.RoundTrip
import TrustedAppId.Proofs.Cassette.Values
import TrustedAppId.Proofs.Cassette.RoundTrip
import TrustedAppId.Proofs.Cassette.Replaying
import TrustedAppId.Proofs.Cassette.Serving
import TrustedAppId.Proofs.FileTree.Apart
import TrustedAppId.Proofs.Replay.Steps
import TrustedAppId.Proofs.Replay.Simulation
import TrustedAppId.Proofs.Replay.Sessions
import TrustedAppId.Proofs.Script.Contexts
import TrustedAppId.Proofs.Script.Requests
import TrustedAppId.Proofs.Script.Frame
import TrustedAppId.Proofs.Script.Crash
import TrustedAppId.Proofs.Emission.Frame
import TrustedAppId.Proofs.Emission.Torn
import TrustedAppId.Proofs.Emission.Ready
import TrustedAppId.Proofs.CommandLine.Verbosity
import TrustedAppId.Proofs.Program.Watching
import TrustedAppId.Proofs.Program.Outcome
import TrustedAppId.Proofs.CommandLine.Clauses
import TrustedAppId.Proofs.CommandLine.Phrases
import TrustedAppId.Proofs.Replay.Booth
import TrustedAppId.Proofs.Script.Processes
import TrustedAppId.Proofs.Emission.Interleaving
import TrustedAppId.Proofs.Artifact.Rows
import TrustedAppId.Proofs.Artifact.FreeLayout
import TrustedAppId.Proofs.Artifact.Definition
import TrustedAppId.Proofs.Artifact.Block
import TrustedAppId.Proofs.Artifact.Assignment
import TrustedAppId.Proofs.Replay.Decoding
import TrustedAppId.Proofs.Program.Recording
import TrustedAppId.Proofs.FileTree.Rewriting
import TrustedAppId.Proofs.Program.Repeating
import TrustedAppId.Proofs.Artifact.Surrounded
import TrustedAppId.Proofs.Artifact.SameDigits
import TrustedAppId.Proofs.Emission.Random
import TrustedAppId.Proofs.Artifact.Scanning
import TrustedAppId.Proofs.Artifact.Pattern
import TrustedAppId.Proofs.Uuid.Octets
