import BallotWatch.Main
import BallotWatch.Proofs.Abi.Word
import BallotWatch.Proofs.Ballot.Canonical
import BallotWatch.Proofs.Ballot.Nesting
import BallotWatch.Proofs.Ballot.RoundTrip
import BallotWatch.Proofs.Ballot.Truncation
import BallotWatch.Proofs.Chain.Commit
import BallotWatch.Proofs.Chain.Order
import BallotWatch.Proofs.Node.LogObject
import BallotWatch.Proofs.Node.Logs
import BallotWatch.Proofs.Node.Numbers
import BallotWatch.Proofs.Node.Tip
import BallotWatch.Proofs.Notice.Group
import BallotWatch.Proofs.Notice.Text
import BallotWatch.Proofs.Notice.Undelivered
import BallotWatch.Proofs.Scan.Balance
import BallotWatch.Proofs.Scan.Config
import BallotWatch.Proofs.Scan.Failure
import BallotWatch.Proofs.Scan.Isolation
import BallotWatch.Proofs.Scan.Ledger
import BallotWatch.Proofs.Scan.Limit
import BallotWatch.Proofs.Scan.Rearrangement
import BallotWatch.Proofs.Scan.Report
import BallotWatch.Proofs.Scan.Stop
import BallotWatch.Proofs.Text.LetterCase
import BallotWatch.Proofs.Text.Utf8
import BallotWatch.Proofs.Watch.Selection
import BallotWatch.Report.Watch
