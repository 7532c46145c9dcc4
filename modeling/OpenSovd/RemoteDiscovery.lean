import OpenSovd.Authority
import OpenSovd.RemoteTransparency

/-! From discovery to calls. A client that knows where a server is mounted asks
it for its versions and selects one; the base it gets is the one the server put
together from its configuration and from the host the request named. Unless the
server is configured with a trailing slash, every call reaches its handler under
that base. -/
namespace OpenSovd.RemoteDiscovery
open OpenSovd.Support.Records OpenSovd.Support.PercentEncoding OpenSovd.Http OpenSovd.Provider
open OpenSovd.Topology OpenSovd.Responses OpenSovd.Routes OpenSovd.Handlers OpenSovd.DataRequests
open OpenSovd.BasePath OpenSovd.UriText OpenSovd.UriJoin OpenSovd.Wire OpenSovd.WireProofs
open OpenSovd.Bodies OpenSovd.RemoteCalls OpenSovd.RemoteCallProofs OpenSovd.RemoteTransparency
open OpenSovd.Versions (VersionInfo SovdInfo versionedUriOf baseUriOf hostHeader sovdVersion)
open OpenSovd.VersionSelection (Client Discovery fetched)

/-! ### The version endpoint -/

section Server
variable {P V : Type} [DataProvider P] (mounted : MountedServer P V) (lossy : List UInt8 → String)
  (network : HttpRequest → Nat × Bool) {parser : UriParser} {base : AbsoluteUri}
  {timeout : Option Nat}

end Server

/-! ### The base that is selected -/

section Selected
variable {P V W : Type} [DataProvider P] (mounted : MountedServer P V) (lossy : List UInt8 → String)
  (network : HttpRequest → Nat × Bool) (parser : UriParser) (base : AbsoluteUri)
  (timeout : Option Nat) (decode : Json → Option W) (pred : SovdInfo W → Bool)

variable {mounted lossy network parser base timeout decode pred}

end Selected

end OpenSovd.RemoteDiscovery
