import Taws.Machine
import Taws.TcManager.Table
import Taws.TcManager.Operations
import Taws.TcManager.Invariant
import Taws.Cbor
import Taws.Latest
import Taws.TcManager.Reference
import Taws.TcManager.Finalisation
import Taws.Event
import Taws.TcManager.Replay
import Taws.Teep.Evidence
import Taws.Teep.QueryRequest
import Taws.Teep.Update
import Taws.Wasm.Invoke
import Taws.Enclave.Agent
import Taws.TcManager.Downgrade
import Taws.Teep.Reference
import Taws.Teep.UpdateTable
import Taws.Teep.TcList
import Taws.Enclave.Order
import Taws.Enclave.Payloads
import Taws.Teep.Answerable
import Taws.Enclave.Provenance
import Taws.TcManager.FailedStore
import Taws.Suit.ImageMatch
import Taws.Suit.StoreApplied
import Taws.TcManager.Capacity
import Taws.App.Attester
import Taws.Wasm.ModuleCache
import Taws.Teep.ReportFreshness
import Taws.Teep.QuoteBinding
import Taws.Enclave.KeyBuffers
import Taws.Enclave.KeyReady
import Taws.TcManager.FinaliseFrame
import Taws.Suit.StoreOrder
import Taws.Ledger
import Taws.Wasm.Contract
import Taws.Wasm.InputCopy
import Taws.Teep.ComponentIdentity
import Taws.Teep.QueryOutcome
import Taws.RawArray
import Taws.Teep.RawMessages
import Taws.Teep.AbsentFields
import Taws.Enclave.TcInfoBuffers
import Taws.TcManager.Blocks
import Taws.TcManager.Ownership
import Taws.App.HttpClient
import Taws.App.Session
import Taws.Mutex
import Taws.Frontend.Web
import Taws.Frontend.Serialised
import Taws.Fairness
import Taws.Frontend.Requests
import Taws.Frontend.Answered
import Taws.Frontend.Routing
import Taws.Frontend.Site
import Taws.Frontend.SiteInstalled
import Taws.Teep.TcInfoEncoding
import Taws.Teep.GenericEvidence
import Taws.Statements
import Taws.Teep.UpdateLocals
import Taws.Teep.ProcessorBalance
import Taws.Enclave.Sent
import Taws.Text
import Taws.Flags
import Taws.Refinement
import Taws.Catalogue
import Taws.Enclave.Catalogue
import Taws.Wasm.BinaryBuffer
import Taws.Frontend.Cli
import Taws.Frontend.CliSession
import Taws.Frontend.CliInstalled
import Taws.Frontend.Script
import Taws.Device.Session
import Taws.Device.Catalogue
import Taws.Device.Installed
import Taws.Device.Host
import Taws.Device.Lifetime
import Taws.Device.Signing
