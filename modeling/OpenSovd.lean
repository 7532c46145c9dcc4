import OpenSovd.Support.OrderedMap
import OpenSovd.Provider
import OpenSovd.Entity
import OpenSovd.Topology
import OpenSovd.Addressing
import OpenSovd.Discovery
import OpenSovd.DiscoveryProofs
import OpenSovd.HostingProofs
import OpenSovd.MembershipProofs
import OpenSovd.Support.ChangeLog
import OpenSovd.TopologyEvents
import OpenSovd.Auth
import OpenSovd.Gateway
import OpenSovd.GatewayProofs
import OpenSovd.Handlers
import OpenSovd.Hypermedia
import OpenSovd.Authority
import OpenSovd.BuilderProofs
import OpenSovd.Crawling
import OpenSovd.DataQueries
import OpenSovd.DataRequests
import OpenSovd.FacetLaws
import OpenSovd.Rejections
import OpenSovd.TagFilters
import OpenSovd.ArrivalOrder
import OpenSovd.JwtProofs
import OpenSovd.ProcessOutput
import OpenSovd.Redelivery
import OpenSovd.Support.Ledger
import OpenSovd.Support.MapHistory
import OpenSovd.Support.UriSyntax
import OpenSovd.Tls
import OpenSovd.TopologyHistory
import OpenSovd.UriJoin
import OpenSovd.UriReferences
import OpenSovd.VersionSelection
import OpenSovd.RemoteDiscovery
import OpenSovd.Subscriptions
import OpenSovd.DiscoveryProgress
import OpenSovd.Mcp
import OpenSovd.Queueing
import OpenSovd.CallsInFlight
