import OperatorNames.Main
import OperatorNames.Proofs.Document.Calls
import OperatorNames.Proofs.Run.Agreement
import OperatorNames.Proofs.Run.Leftover
import OperatorNames.Proofs.Text.WordChar
import OperatorNames.Proofs.Transfer.Framing
import OperatorNames.Proofs.Output.Decoding
import OperatorNames.Proofs.Run.Digests
import OperatorNames.Proofs.Config.RoundTrip
import OperatorNames.Proofs.Fetch.Redirections
import OperatorNames.Proofs.Config.FirstRun
import OperatorNames.Proofs.Program.Invocations
import OperatorNames.Proofs.Program.Blind
import OperatorNames.Proofs.Text.Capitals
import OperatorNames.Proofs.Token.Leftmost
import OperatorNames.Proofs.FileSystem.Passage
import OperatorNames.Proofs.Output.Stopping
import OperatorNames.Proofs.Config.Failing
import OperatorNames.Proofs.Program.Configuration
import OperatorNames.Proofs.Config.Acceptance
import OperatorNames.Proofs.Document.FirstToken
import OperatorNames.Proofs.CommandLine.Commands
import OperatorNames.Proofs.Url.Sources
