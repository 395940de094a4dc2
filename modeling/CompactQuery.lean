import CompactQuery.Command.FileTree
import CompactQuery.Main
import CompactQuery.Proofs.Command.Forms
import CompactQuery.Proofs.Query.CallOrder
import CompactQuery.Proofs.Query.Description
import CompactQuery.Proofs.Query.Filter
import CompactQuery.Proofs.Query.Formats
import CompactQuery.Proofs.Query.JsonForm
import CompactQuery.Proofs.Query.Language
import CompactQuery.Proofs.Query.Position
import CompactQuery.Proofs.Query.Replay
import CompactQuery.Proofs.Query.UrlForm
import CompactQuery.Proofs.Text.Encoded
import CompactQuery.Proofs.Command.Precedence
import CompactQuery.Proofs.Query.Growth
import CompactQuery.Proofs.Text.Shrinking
import CompactQuery.Proofs.Query.Cutting
import CompactQuery.Proofs.Query.Log
import CompactQuery.Proofs.Query.LimitDigits
import CompactQuery.Proofs.Command.Account
import CompactQuery.Proofs.Command.Naming
import CompactQuery.Proofs.Command.Origin
