import LocationRelay.Authentication
import LocationRelay.Base64
import LocationRelay.Broker
import LocationRelay.CommandLine
import LocationRelay.Crypto.Rsa
import LocationRelay.Crypto.Sha2
import LocationRelay.DatabaseFile
import LocationRelay.Device
import LocationRelay.Endpoint
import LocationRelay.Endpoint.Address
import LocationRelay.Frame
import LocationRelay.Gateway
import LocationRelay.Gateway.Bridge
import LocationRelay.Gateway.Call
import LocationRelay.Gateway.Loop
import LocationRelay.Gateway.Sweep
import LocationRelay.Handler
import LocationRelay.Http
import LocationRelay.IdentityLocks
import LocationRelay.Json.Buffered
import LocationRelay.Json.Quoted
import LocationRelay.Json.Scan
import LocationRelay.Key.Der
import LocationRelay.Key.Material
import LocationRelay.Key.Rsa
import LocationRelay.KeyStore
import LocationRelay.Main
import LocationRelay.Name
import LocationRelay.Outbox
import LocationRelay.Principal
import LocationRelay.Proofs.Accounting
import LocationRelay.Proofs.Acknowledgement
import LocationRelay.Proofs.Admission
import LocationRelay.Proofs.BindOutcome
import LocationRelay.Proofs.BlankVariables
import LocationRelay.Proofs.Blocks
import LocationRelay.Proofs.Brackets
import LocationRelay.Proofs.Broadcast
import LocationRelay.Proofs.BrokerAddress
import LocationRelay.Proofs.BrokerUse
import LocationRelay.Proofs.Channel
import LocationRelay.Proofs.Checks
import LocationRelay.Proofs.ClaimsText
import LocationRelay.Proofs.Completion
import LocationRelay.Proofs.Connections
import LocationRelay.Proofs.Consistency
import LocationRelay.Proofs.Cutting
import LocationRelay.Proofs.Delivery
import LocationRelay.Proofs.Departure
import LocationRelay.Proofs.EndpointGrammar
import LocationRelay.Proofs.Eviction
import LocationRelay.Proofs.Feeding
import LocationRelay.Proofs.Frames
import LocationRelay.Proofs.Fulfilment
import LocationRelay.Proofs.Identities
import LocationRelay.Proofs.IterationOrder
import LocationRelay.Proofs.Ledger
import LocationRelay.Proofs.LockOrder
import LocationRelay.Proofs.Locks
import LocationRelay.Proofs.LoopEnd
import LocationRelay.Proofs.Losses
import LocationRelay.Proofs.LowerCase
import LocationRelay.Proofs.Minting
import LocationRelay.Proofs.MissedRounds
import LocationRelay.Proofs.Monotone
import LocationRelay.Proofs.Names
import LocationRelay.Proofs.Offers
import LocationRelay.Proofs.Outboxes
import LocationRelay.Proofs.Promises
import LocationRelay.Proofs.Queues
import LocationRelay.Proofs.Quiescence
import LocationRelay.Proofs.Readiness
import LocationRelay.Proofs.Registrations
import LocationRelay.Proofs.RelayOrder
import LocationRelay.Proofs.Relaying
import LocationRelay.Proofs.Reordering
import LocationRelay.Proofs.Replay
import LocationRelay.Proofs.Requests
import LocationRelay.Proofs.Run
import LocationRelay.Proofs.Scheduling
import LocationRelay.Proofs.Sections
import LocationRelay.Proofs.Segments
import LocationRelay.Proofs.Serialization
import LocationRelay.Proofs.Service
import LocationRelay.Proofs.ShutdownComplete
import LocationRelay.Proofs.ShutdownOrder
import LocationRelay.Proofs.ShutdownPhases
import LocationRelay.Proofs.Signatures
import LocationRelay.Proofs.Soundness
import LocationRelay.Proofs.StoredKeys
import LocationRelay.Proofs.Subscriptions
import LocationRelay.Proofs.TextBytes
import LocationRelay.Proofs.Trimming
import LocationRelay.Proofs.Verification
import LocationRelay.Proofs.Views
import LocationRelay.Proofs.Waiting
import LocationRelay.Proofs.Whole
import LocationRelay.Proofs.Within
import LocationRelay.Proofs.Writing
import LocationRelay.Proofs.WrittenJson
import LocationRelay.Proofs.WrittenToken
import LocationRelay.Session
import LocationRelay.Settings
import LocationRelay.Settings.Environment
import LocationRelay.Settings.File
import LocationRelay.SigningAlgorithm
import LocationRelay.Startup
import LocationRelay.Table
import LocationRelay.Text.Decimal
import LocationRelay.Text.Hex
import LocationRelay.Text.Quoted
import LocationRelay.Text.Split
import LocationRelay.Token.Claims
import LocationRelay.Token.Compact
import LocationRelay.Token.Header
import LocationRelay.Toml.Document
import LocationRelay.Toml.Quoted
import LocationRelay.Toml.Reader
import LocationRelay.Toml.Scalar
import LocationRelay.Topic.Pattern
