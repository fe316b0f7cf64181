import FinalityRelay.Digest.Sha256
import FinalityRelay.Name
import FinalityRelay.Json.Reader
import FinalityRelay.Json.Writer
import FinalityRelay.Codec.Record
import FinalityRelay.Chain.Action
import FinalityRelay.Chain.Header
import FinalityRelay.Merkle.Accumulator
import FinalityRelay.Json.Canonical
import FinalityRelay.Relay.Sweep
import FinalityRelay.Sample.Deposit
import FinalityRelay.Settings.Basic
import FinalityRelay.Foreign.Rpc
import FinalityRelay.Relay.Feed
import FinalityRelay.Settings.Options
import FinalityRelay.Service.Ticker
import FinalityRelay.Service.Basic
import FinalityRelay.Service.Session
import FinalityRelay.Main
import FinalityRelay.Text.CombiningClass
import FinalityRelay.Text.Composition
import FinalityRelay.Text.Direction
import FinalityRelay.Text.Folding
import FinalityRelay.Text.Joining
import FinalityRelay.Proofs.NumberMap
import FinalityRelay.Proofs.JobTable
import FinalityRelay.Proofs.Ledger
import FinalityRelay.Proofs.RoundTrip
import FinalityRelay.Proofs.SnapshotForm
import FinalityRelay.Proofs.Job
import FinalityRelay.Proofs.Deposits
import FinalityRelay.Proofs.Invariant
import FinalityRelay.Proofs.BlockStep
import FinalityRelay.Proofs.SweepStep
import FinalityRelay.Proofs.Restart
import FinalityRelay.Proofs.Run
import FinalityRelay.Proofs.JobLife
import FinalityRelay.Proofs.WindowForm
import FinalityRelay.Proofs.History
import FinalityRelay.Proofs.WindowRun
import FinalityRelay.Proofs.LinkedChain
import FinalityRelay.Proofs.Rebuild
import FinalityRelay.Proofs.Offers
import FinalityRelay.Proofs.Reload
import FinalityRelay.Proofs.Resumption
import FinalityRelay.Proofs.Levels
import FinalityRelay.Proofs.Peaks
import FinalityRelay.Proofs.Binding
import FinalityRelay.Proofs.Unswept
import FinalityRelay.Proofs.Provenance
import FinalityRelay.Proofs.Inclusion
import FinalityRelay.Proofs.Verification
import FinalityRelay.Proofs.Anchor
import FinalityRelay.Proofs.Succession
import FinalityRelay.Proofs.Handover
import FinalityRelay.Proofs.Redelivery
import FinalityRelay.Proofs.Partition
import FinalityRelay.Proofs.WireTypes
import FinalityRelay.Proofs.Spelling
import FinalityRelay.Proofs.JsonText
import FinalityRelay.Proofs.JsonForm
import FinalityRelay.Proofs.WireTexts
import FinalityRelay.Proofs.Composed
import FinalityRelay.Proofs.Detection
import FinalityRelay.Proofs.Truncation
import FinalityRelay.Proofs.Refresh
import FinalityRelay.Proofs.SweepOutcome
import FinalityRelay.Proofs.Retention
import FinalityRelay.Proofs.Lines
import FinalityRelay.Proofs.Delivery
import FinalityRelay.Proofs.Acceptance
import FinalityRelay.Proofs.Settlement
import FinalityRelay.Proofs.NameText
import FinalityRelay.Proofs.SentTally
import FinalityRelay.Proofs.LedgerCalls
import FinalityRelay.Proofs.Startup
import FinalityRelay.Proofs.Announcement
import FinalityRelay.Proofs.Padding
import FinalityRelay.Proofs.Appending
