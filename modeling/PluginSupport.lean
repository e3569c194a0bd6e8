import PluginSupport.Address.Basic
import PluginSupport.Address.Diff
import PluginSupport.Address.Ipv4
import PluginSupport.Address.Ipv6
import PluginSupport.Address.Mac
import PluginSupport.Address.NetAddr
import PluginSupport.Crypto.Edwards
import PluginSupport.Crypto.Modular
import PluginSupport.Crypto.PrimeCurve
import PluginSupport.Crypto.Sha512
import PluginSupport.Der.Element
import PluginSupport.Failure
import PluginSupport.Json.Fault
import PluginSupport.Json.Record
import PluginSupport.Json.Scan
import PluginSupport.Json.Skip
import PluginSupport.Json.Value
import PluginSupport.Key.Ecdsa
import PluginSupport.Key.Ed25519
import PluginSupport.Key.Loaded
import PluginSupport.Key.Pkcs8
import PluginSupport.Key.Rsa
import PluginSupport.Latency.Duration
import PluginSupport.Latency.Ledger
import PluginSupport.Latency.Trace
import PluginSupport.Latency.Tracer
import PluginSupport.Latency.Wire
import PluginSupport.Os.Directory
import PluginSupport.Os.SystemError
import PluginSupport.Pem.Base64
import PluginSupport.Pem.Section
import PluginSupport.Plugin
import PluginSupport.Sync.Channel
import PluginSupport.Sync.Event
import PluginSupport.Sync.Hub
import PluginSupport.Sync.Store
import PluginSupport.Sync.Transport
import PluginSupport.Sync.Wire
import PluginSupport.Text.Blank
import PluginSupport.Text.Lowercase.Mapping
import PluginSupport.Text.Lowercase.Table
import PluginSupport.Text.Numeral
import PluginSupport.Text.Printable.Table
import PluginSupport.Text.Quoted
import PluginSupport.Text.Split
import PluginSupport.Text.Utf8
import PluginSupport.Tls.Certificate
import PluginSupport.Tls.Client
import PluginSupport.Tls.Settings
import PluginSupport.Tls.Settings.Variables
import PluginSupport.Tls.Settings.Wire
import PluginSupport.Proofs.Address.Difference
import PluginSupport.Proofs.Address.MacEncoding
import PluginSupport.Proofs.Address.Order
import PluginSupport.Proofs.Address.Parsing
import PluginSupport.Proofs.Address.Printing
import PluginSupport.Proofs.Address.Spelling
import PluginSupport.Proofs.CutDocuments
import PluginSupport.Proofs.Der.Element
import PluginSupport.Proofs.Der.Integer
import PluginSupport.Proofs.FirstAppearance
import PluginSupport.Proofs.Json.Cutting
import PluginSupport.Proofs.Json.Deciding
import PluginSupport.Proofs.Json.Filling
import PluginSupport.Proofs.Json.Grammar
import PluginSupport.Proofs.Json.Reading
import PluginSupport.Proofs.Json.Schema
import PluginSupport.Proofs.Json.Skipping
import PluginSupport.Proofs.Json.Writing
import PluginSupport.Proofs.Key.Envelope
import PluginSupport.Proofs.Key.Loading
import PluginSupport.Proofs.Key.Rsa
import PluginSupport.Proofs.Latency.Document
import PluginSupport.Proofs.Latency.Exactness
import PluginSupport.Proofs.Latency.Numbering
import PluginSupport.Proofs.Latency.Reading
import PluginSupport.Proofs.Latency.Totals
import PluginSupport.Proofs.Pem.Base64
import PluginSupport.Proofs.Pem.Contents
import PluginSupport.Proofs.Pem.Layout
import PluginSupport.Proofs.Pem.Sextets
import PluginSupport.Proofs.Pem.Written
import PluginSupport.Proofs.Sync.Account
import PluginSupport.Proofs.Sync.Below
import PluginSupport.Proofs.Sync.Delivery
import PluginSupport.Proofs.Sync.History
import PluginSupport.Proofs.Sync.Lifecycle
import PluginSupport.Proofs.Sync.Reconciliation
import PluginSupport.Proofs.Sync.Rejection
import PluginSupport.Proofs.Sync.Reordering
import PluginSupport.Proofs.Sync.Replica
import PluginSupport.Proofs.Sync.Resync
import PluginSupport.Proofs.Sync.Run
import PluginSupport.Proofs.Sync.Senders
import PluginSupport.Proofs.Sync.Step
import PluginSupport.Proofs.Sync.Versions
import PluginSupport.Proofs.Text.Numeral
import PluginSupport.Proofs.Text.Split
import PluginSupport.Proofs.Text.Utf8
import PluginSupport.Proofs.Text.Word
import PluginSupport.Proofs.Tls.Anchors
import PluginSupport.Proofs.Tls.Checks
import PluginSupport.Proofs.Tls.Extensions
import PluginSupport.Proofs.Tls.Presentation
import PluginSupport.Proofs.Tls.Reading
import PluginSupport.Proofs.Tls.Selection
import PluginSupport.Proofs.Tls.Variables
