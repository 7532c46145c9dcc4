import OpenSovd.Auth
import OpenSovd.Provider

/-! The JWT authenticator. Decoding a token, with its signature check and the
clock, is the JWT library's; what the authenticator configures and where it
finds the token is here. -/
namespace OpenSovd.Jwt
open OpenSovd.Support OpenSovd.Http OpenSovd.Auth OpenSovd.Provider

inductive JwtAlgorithm where
  | HS512
  | RS512
  deriving DecidableEq, Repr

def JwtAlgorithm.fromStr (name : String) : Except String JwtAlgorithm :=
  if name = "HS512" then .ok .HS512
  else if name = "RS512" then .ok .RS512
  else .error ("unsupported JWT algorithm: " ++ name ++ " (expected HS512 or RS512)")

structure Claims where
  sub : String
  exp : UInt64
  iat : Option UInt64 := none
  iss : Option String := none
  roles : List String := []
  scope : Option String := none
  deriving DecidableEq, Repr

namespace Claims

def text : Json → Option String
  | .string text => some text
  | _ => none

def natural : Json → Option UInt64
  | .number digits 0 => if 0 ≤ digits ∧ digits.toNat < UInt64.size then some (.ofNat digits.toNat) else none
  | _ => none

/-- `#[serde(default)]` on an optional field: neither an absent member nor a
null has a value. -/
def optional {α : Type} (read : Json → Option α) : Option Json → Option (Option α)
  | none | some .null => some none
  | some value => (read value).map some

def texts : Option Json → Option (List String)
  | none => some []
  | some (.array items) => items.mapM text
  | some _ => none

/-- `Deserialize` from the members of an object; others are ignored. -/
def deserialize (object : OrderedMap String Json) : Option Claims := do
  let sub ← (object.get "sub").bind text
  let exp ← (object.get "exp").bind natural
  let iat ← optional natural (object.get "iat")
  let iss ← optional text (object.get "iss")
  let roles ← texts (object.get "roles")
  let scope ← optional text (object.get "scope")
  return { sub, exp, iat, iss, roles, scope }

end Claims

inductive DecodingKey where
  | secret (key : List UInt8)
  | rsaDer (der : List UInt8)
  deriving DecidableEq, Repr

/-- The settings of a decode. `Validation::new` requires `exp` and looks at the
audience. -/
structure Validation where
  algorithm : JwtAlgorithm
  requiredSpecClaims : List String := ["exp"]
  validateAud : Bool := true
  issuers : Option (List String) := none
  deriving DecidableEq, Repr

structure JwtAuthenticator where
  decodingKey : DecodingKey
  validation : Validation
  deriving DecidableEq, Repr

namespace JwtAuthenticator

def new (algorithm : JwtAlgorithm) (key : List UInt8) (issuer : String) : JwtAuthenticator where
  decodingKey := match algorithm with
    | .HS512 => .secret key
    | .RS512 => .rsaDer key
  validation :=
    let validation : Validation := { algorithm }
    { validation with
      validateAud := false
      requiredSpecClaims := validation.requiredSpecClaims.filter (· ≠ "aud")
      issuers := some [issuer] }

variable {Key : Type} {Val : Key → Type}

/-- `strip_prefix("Bearer ")`. -/
def bearer (header : String) : Option String :=
  (header.toList.dropPrefix? "Bearer ".toList).map String.ofList

/-- `decode` is the library's, at the time of the request. -/
def authenticate (decode : String → DecodingKey → Validation → Option Claims)
    (self : JwtAuthenticator) (parts : Parts Val) : Except AuthError Claims :=
  match ((parts.header "authorization").bind toStr).bind bearer with
  | none => .error .unauthenticated
  | some token =>
    match decode token self.decodingKey self.validation with
    | none => .error .unauthenticated
    | some claims => .ok claims

end JwtAuthenticator
end OpenSovd.Jwt
