import ClusterMdns.Main
import ClusterMdns.Proofs.Informer.Step
import ClusterMdns.Proofs.Informer.Replay
import ClusterMdns.Proofs.Informer.Stream
import ClusterMdns.Proofs.Informer.Mirror
import ClusterMdns.Proofs.Adapter.Contribution
import ClusterMdns.Proofs.Publication.Dispatch
import ClusterMdns.Proofs.Publication.History
import ClusterMdns.Proofs.Publication.Sync
import ClusterMdns.Proofs.Dns.NameText
import ClusterMdns.Proofs.Number.Decimal
import ClusterMdns.Proofs.Text.LowerCase
import ClusterMdns.Proofs.Dns.ZoneLine
import ClusterMdns.Proofs.Dns.ZoneRecord
import ClusterMdns.Proofs.Record.Reading
import ClusterMdns.Proofs.Record.Lines
import ClusterMdns.Proofs.Publication.Service
import ClusterMdns.Proofs.Informer.Calls
import ClusterMdns.Proofs.Informer.Changes
import ClusterMdns.Proofs.Informer.Unknown
import ClusterMdns.Proofs.Pipeline.Order
import ClusterMdns.Proofs.Pipeline.Confluence
import ClusterMdns.Proofs.Responder.History
import ClusterMdns.Proofs.Dns.Packet
import ClusterMdns.Proofs.Dns.LetterCase
import ClusterMdns.Proofs.Responder.Answers
import ClusterMdns.Proofs.Responder.Announcements
import ClusterMdns.Proofs.Number.Hexadecimal
import ClusterMdns.Proofs.Address.Groups
import ClusterMdns.Proofs.Record.Meaning
import ClusterMdns.Proofs.Record.Addresses
import ClusterMdns.Proofs.Record.ReverseName
import ClusterMdns.Proofs.Settings.Coercion
import ClusterMdns.Proofs.Settings.Layers
import ClusterMdns.Proofs.Settings.Load
import ClusterMdns.Proofs.Adapter.Advertised
import ClusterMdns.Proofs.Adapter.Disclosure
import ClusterMdns.Proofs.Adapter.Sparing
import ClusterMdns.Proofs.Informer.Listing
import ClusterMdns.Proofs.Informer.Atomic
import ClusterMdns.Proofs.Hostname.Label
import ClusterMdns.Proofs.Text.Blank
import ClusterMdns.Proofs.Hostname.LocalHost
import ClusterMdns.Proofs.Record.Pairs
import ClusterMdns.Proofs.Record.Columns
import ClusterMdns.Proofs.Adapter.Translation
import ClusterMdns.Proofs.Publication.Effects
import ClusterMdns.Proofs.Pipeline.Refusal
import ClusterMdns.Proofs.Responder.Unannounced
import ClusterMdns.Proofs.Settings.Reload
import ClusterMdns.Proofs.Settings.Faults
import ClusterMdns.Proofs.Settings.Publishable
import ClusterMdns.Proofs.Responder.Listening
import ClusterMdns.Proofs.Record.Isolation
import ClusterMdns.Proofs.Address.Spelling
import ClusterMdns.Proofs.Record.Respelling
import ClusterMdns.Proofs.Document.Equality
import ClusterMdns.Proofs.Document.Failure
import ClusterMdns.Proofs.Host.Rewriting
import ClusterMdns.Proofs.Host.Names
import ClusterMdns.Proofs.Cluster.Selection
import ClusterMdns.Proofs.Cluster.Rewriting
import ClusterMdns.Proofs.Cluster.Faults
import ClusterMdns.Proofs.Settings.SourceList
import ClusterMdns.Proofs.Record.Widening
import ClusterMdns.Proofs.Informer.Shape
import ClusterMdns.Proofs.Informer.Delivery
import ClusterMdns.Proofs.Informer.Breakdown
import ClusterMdns.Proofs.Informer.Stopping
import ClusterMdns.Proofs.Informer.Synced
import ClusterMdns.Proofs.Path
import ClusterMdns.Proofs.Host.Walk
import ClusterMdns.Proofs.Text.Utf8
import ClusterMdns.Proofs.Cluster.References
