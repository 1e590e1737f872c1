import RevSync.Cbor.Head
import RevSync.Cbor.Read
import RevSync.Cbor.Serde
import RevSync.Cbor.Write
import RevSync.Codec.Base64
import RevSync.Codec.Hex
import RevSync.Codec.Uuid
import RevSync.CommandLine.Error
import RevSync.CommandLine.Grammar
import RevSync.CommandLine.Help
import RevSync.CommandLine.Read
import RevSync.CommandLine.Similar
import RevSync.CommandLine.Usage
import RevSync.CommandLine.Value
import RevSync.Crypto.Aes
import RevSync.Crypto.Ed25519
import RevSync.Crypto.Gcm
import RevSync.Crypto.Hmac
import RevSync.Crypto.Modular
import RevSync.Crypto.P256
import RevSync.Crypto.Sha256
import RevSync.Crypto.Sha512
import RevSync.Data.TextMap
import RevSync.Fixtures.Generate
import RevSync.Fixtures.Polling
import RevSync.Fixtures.Random
import RevSync.Host.Address
import RevSync.Host.Files
import RevSync.Host.IoError
import RevSync.Host.Network
import RevSync.Host.Ports
import RevSync.Json.Basic
import RevSync.Json.Read
import RevSync.Json.Write
import RevSync.Listener.Bind
import RevSync.Listener.Config
import RevSync.Listener.Counters
import RevSync.Main
import RevSync.Number.Binary64
import RevSync.Number.Narrow
import RevSync.Number.Shortest
import RevSync.Protocol.Authorization
import RevSync.Protocol.Encoding
import RevSync.Protocol.Error
import RevSync.Protocol.ErrorCode
import RevSync.Protocol.Frame
import RevSync.Protocol.Message
import RevSync.Serde.Value
import RevSync.Replication.Config
import RevSync.Replication.Endpoint
import RevSync.Replication.Error
import RevSync.Replication.Passive
import RevSync.Replication.Resolve
import RevSync.Replication.Retry
import RevSync.Replication.Session
import RevSync.Replication.Status
import RevSync.Revision.Basic
import RevSync.Revision.Encoding
import RevSync.Revision.Id
import RevSync.Service.Answer
import RevSync.Service.Certificates
import RevSync.Service.Cli
import RevSync.Service.Clock
import RevSync.Service.Continuous
import RevSync.Service.Databases
import RevSync.Service.Encode
import RevSync.Service.Fixtures
import RevSync.Service.Identities
import RevSync.Service.Listeners
import RevSync.Service.Message
import RevSync.Service.Picks
import RevSync.Service.Replicators
import RevSync.Service.Request
import RevSync.Service.Resolvers
import RevSync.Service.Script
import RevSync.Service.Serving
import RevSync.Service.Stateless
import RevSync.Service.Tool
import RevSync.Service.Wire
import RevSync.Service.World
import RevSync.Store.Change
import RevSync.Store.Checkpoint
import RevSync.Store.Config
import RevSync.Store.Document
import RevSync.Store.Error
import RevSync.Store.Host
import RevSync.Store.Registry
import RevSync.Store.Snapshot
import RevSync.Store.State
import RevSync.Text.Blank
import RevSync.Text.Dates
import RevSync.Text.Quoted
import RevSync.Time.Civil
import RevSync.Time.Duration
import RevSync.Tls.Authenticator
import RevSync.Tls.Bundle
import RevSync.Tls.Error
import RevSync.Tls.Fault
import RevSync.Tls.Generate
import RevSync.Tls.Identity
import RevSync.Tls.Load
import RevSync.Tls.Pem
import RevSync.Tls.Store
import RevSync.Tls.Verify
import RevSync.Tool.Commands
import RevSync.X509.Certificate
import RevSync.X509.Der
import RevSync.X509.Generate
import RevSync.X509.Signature
import RevSync.Proofs.Data.TextMap
import RevSync.Proofs.Store.Operations
import RevSync.Proofs.Store.Log
import RevSync.Proofs.Store.Failure
import RevSync.Proofs.Store.History
import RevSync.Proofs.Replication.Race
import RevSync.Proofs.Replication.Pending
import RevSync.Proofs.Replication.Passive
import RevSync.Proofs.Replication.Stream
import RevSync.Proofs.Number.Narrow
import RevSync.Proofs.Cbor.Head
import RevSync.Proofs.Cbor.Read
import RevSync.Proofs.Cbor.Json
import RevSync.Proofs.Serde.Value
import RevSync.Proofs.Cbor.Serde
import RevSync.Proofs.Revision.Encoding
import RevSync.Proofs.Protocol.Encoding
import RevSync.Proofs.Protocol.Frames
import RevSync.Proofs.Store.Merge
import RevSync.Proofs.Listener.Connections
import RevSync.Proofs.Host.Files
import RevSync.Proofs.Codec.Hex
import RevSync.Proofs.Tls.IdentityFiles
import RevSync.Proofs.Tls.Keyring
import RevSync.Proofs.Tls.Backends
import RevSync.Proofs.Replication.EngineSpec
import RevSync.Proofs.Replication.Checkpoint
import RevSync.Proofs.Store.Snapshot
import RevSync.Proofs.Store.Persistence
import RevSync.Proofs.Store.Concurrency
import RevSync.Proofs.Replication.Backlog
import RevSync.Proofs.Replication.Pipe
import RevSync.Proofs.Replication.Account
import RevSync.Proofs.Replication.IdleProgress
import RevSync.Proofs.Replication.Watch
import RevSync.Proofs.Revision.Derive
import RevSync.Proofs.Replication.Endpoint
import RevSync.Proofs.Time.Civil
import RevSync.Proofs.X509.Der
import RevSync.Proofs.X509.Generate
import RevSync.Proofs.Crypto.Gcm
import RevSync.Proofs.Codec.Base64
import RevSync.Proofs.Protocol.Authorization
import RevSync.Proofs.Tls.Verify
import RevSync.Proofs.Listener.Start
import RevSync.Proofs.Host.Address
import RevSync.Proofs.Listener.Urls
import RevSync.Proofs.Tls.PemSections
import RevSync.Proofs.Tls.Sealing
import RevSync.Proofs.Tls.Export
import RevSync.Proofs.Replication.Runs
import RevSync.Proofs.Replication.WatchSteps
import RevSync.Proofs.Replication.Refusals
