import GraphLink.Text.Blank
import GraphLink.Text.Cut
import GraphLink.Text.Quoted
import GraphLink.Text.Percent
import GraphLink.SortedMap
import GraphLink.Value.Text
import GraphLink.Address.Target
import GraphLink.Routing.Table
import GraphLink.Uri.Basic
import GraphLink.Connection.Uri
import GraphLink.Config.Chain
import GraphLink.Record
import GraphLink.Json.Reader
import GraphLink.Json.Writer
import GraphLink.Client.World
import GraphLink.Proofs.Uri.Ipv6
import GraphLink.Proofs.Uri.Plain
import GraphLink.Proofs.Connection.Canonical
import GraphLink.Proofs.Client.Failure
import GraphLink.Proofs.Connection.Resolution
import GraphLink.Proofs.Connection.Masking
import GraphLink.Proofs.Client.Connectivity
import GraphLink.Proofs.Options.Security
import GraphLink.Proofs.Client.Validation
import GraphLink.Proofs.Client.Calls
import GraphLink.Proofs.Client.Connections
import GraphLink.Proofs.Client.Moves
import GraphLink.Proofs.Client.Closing
import GraphLink.Proofs.Config.Driver
import GraphLink.Proofs.Client.Posture
import GraphLink.Proofs.Options.Consuming
import GraphLink.Proofs.Config.Workspace
import GraphLink.Proofs.Config.Layering
import GraphLink.Proofs.Config.Rules
import GraphLink.Proofs.Config.Settings
import GraphLink.Proofs.Client.Provenance
import GraphLink.Proofs.Uri.Userinfo
import GraphLink.Proofs.Connection.Credentials
import GraphLink.Proofs.Config.Chains
import GraphLink.Proofs.Text.Escaping
import GraphLink.Proofs.Uri.Place
import GraphLink.Proofs.Client.Boundary
import GraphLink.Proofs.Connection.Reachable
import GraphLink.Proofs.Client.Asking
import GraphLink.Proofs.Config.Remainder
import GraphLink.Proofs.Connection.Context
import GraphLink.Proofs.Client.RoundTrip
import GraphLink.Proofs.Connection.Query
import GraphLink.Proofs.Text.Utf8
import GraphLink.Proofs.Connection.Spelling
import GraphLink.Proofs.Address.Grammar
import GraphLink.Proofs.Address.RoundTrip
import GraphLink.Proofs.Text.Words
import GraphLink.Proofs.Address.Targets
import GraphLink.Proofs.Config.Settled
import GraphLink.Config.History
import GraphLink.Proofs.Config.History
import GraphLink.Proofs.Json.RoundTrip
import GraphLink.Proofs.Routing.Table
import GraphLink.Proofs.Record
import GraphLink.Proofs.Duration
import GraphLink.Proofs.Client.Logging
import GraphLink.Proofs.Client.Naming
