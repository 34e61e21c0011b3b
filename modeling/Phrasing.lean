import Phrasing.Exchange.Script
import Phrasing.Journal.Archive
import Phrasing.Remote.Direct
import Phrasing.Proofs.Atomicity
import Phrasing.Proofs.Trace
import Phrasing.Proofs.JointFetch
import Phrasing.Proofs.IsoText
import Phrasing.Proofs.RoundTrip
import Phrasing.Proofs.Translation
import Phrasing.Proofs.Chronicle
import Phrasing.Proofs.Configuration
import Phrasing.Proofs.Rounding
import Phrasing.Proofs.Shortest
import Phrasing.Proofs.Numerals
import Phrasing.Proofs.JsonText
import Phrasing.Proofs.PlainText
import Phrasing.Proofs.FilePath
import Phrasing.Proofs.FileTree
import Phrasing.Proofs.JournalText
import Phrasing.Proofs.Summaries
import Phrasing.Proofs.Archive
import Phrasing.Proofs.Accepted
import Phrasing.Proofs.Layers
import Phrasing.Proofs.Places
import Phrasing.Proofs.OwnActions
import Phrasing.Proofs.Settling
import Phrasing.Proofs.Restored
import Phrasing.Proofs.Credentials
import Phrasing.Proofs.Spans
import Phrasing.Proofs.Leftover
import Phrasing.Proofs.DisplayText
import Phrasing.Proofs.UniversalTime
import Phrasing.Proofs.JournalLines
import Phrasing.Proofs.Reencoding
import Phrasing.Proofs.FailedCalls
import Phrasing.Proofs.NormalForm
import Phrasing.Proofs.Sources
import Phrasing.Proofs.GatewayReplies
