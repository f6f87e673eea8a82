import StorageGate.Client
import StorageGate.Gate.Router
import StorageGate.Main
import StorageGate.Policy.Change
import StorageGate.Proofs.Client.Own
import StorageGate.Proofs.Client.Outcome
import StorageGate.Proofs.Client.Verdict
import StorageGate.Proofs.Client.Verified
import StorageGate.Proofs.Document.Grammar
import StorageGate.Proofs.Document.Kept
import StorageGate.Proofs.Gate.Answer
import StorageGate.Proofs.Gate.Calls
import StorageGate.Proofs.Gate.Fault
import StorageGate.Proofs.Gate.Influence
import StorageGate.Proofs.Policy.Confinement
import StorageGate.Proofs.Client.Alignment
import StorageGate.Proofs.Text.Joined
import StorageGate.Proofs.Storage.Canonical
import StorageGate.Proofs.Storage.Stamp
import StorageGate.Proofs.Gate.Untracked
import StorageGate.Proofs.Client.Derived
import StorageGate.Proofs.Config.Resolution
import StorageGate.Proofs.Gate.Misconfigured
import StorageGate.Proofs.Gate.Reply
import StorageGate.Proofs.Client.OverHttp
import StorageGate.Proofs.Client.Listing
import StorageGate.Proofs.Client.Secret
import StorageGate.Proofs.Policy.Endless
import StorageGate.Proofs.Storage.Parameters
import StorageGate.Proofs.Storage.Hosts
import StorageGate.Proofs.Storage.Faithful
import StorageGate.Proofs.Policy.Acceptance
import StorageGate.Proofs.Storage.QueryOrder
import StorageGate.Proofs.Document.AnyOrder
import StorageGate.Proofs.Storage.SignedHeaders
import StorageGate.Proofs.Storage.Window
import StorageGate.Proofs.Storage.Lapse
import StorageGate.Proofs.Policy.Decisions
import StorageGate.Proofs.Config.Credentials
import StorageGate.Proofs.Storage.Service
