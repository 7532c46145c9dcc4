import OpenSovd.BasePath
import OpenSovd.Http
import OpenSovd.Responses

/-! The version endpoint, and the URI a server advertises itself under: the
scheme and the mount path come from its configuration, the host from the
request. -/
namespace OpenSovd.Versions
open OpenSovd.Http OpenSovd.Provider OpenSovd.Responses OpenSovd.BasePath

/-- Single SOVD instance info. -/
structure SovdInfo (V : Type) where
  version : String
  baseUri : String
  vendorInfo : Option V

structure VersionInfo (V : Type) where
  sovdInfo : List (SovdInfo V)

structure VersionInfoQuery where
  includeSchema : Bool := false

def apiVersion : String := "v1"

/-- SOVD standard version. -/
def sovdVersion : String := "1.1"

/-- The types of extension the handlers look for. -/
inductive ExtensionType where
  | baseUri
  deriving DecidableEq

abbrev RequestParts := Parts fun _ : ExtensionType => BaseUri

/-- The text of the `Host` header. -/
def hostHeader (parts : RequestParts) : Option String := (parts.header "host").bind toStr

/-- `base_uri`. A host that is missing or no text is `localhost`. -/
def baseUriOf (parts : RequestParts) : String :=
  let (scheme, path) := match parts.extensions.get .baseUri with
    | some base => (base.scheme, base.path)
    | none => ("http", "")
  let host := (hostHeader parts).getD "localhost"
  scheme ++ "://" ++ host ++ path

def versionedUriOf (parts : RequestParts) : String := baseUriOf parts ++ "/" ++ apiVersion

/-- `GET /version-info`. -/
def versionInfo {V : Type} (schema : Json) (vendorInfo : Option V) (parts : RequestParts)
    (query : VersionInfoQuery) : Response (VersionInfo V) where
  data := ⟨[⟨sovdVersion, versionedUriOf parts, vendorInfo⟩]⟩
  schema := if query.includeSchema then some schema else none

end OpenSovd.Versions
