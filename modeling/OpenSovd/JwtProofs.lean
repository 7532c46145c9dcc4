import OpenSovd.Jwt

/-! What an accepted token is guaranteed to be. The library is told to require
`exp` and to compare the issuer, and it compares the issuer of a token that
names one. The issuer is therefore guaranteed exactly when no token without one
passes the other checks. -/
namespace OpenSovd.JwtProofs
open OpenSovd.Support OpenSovd.Http OpenSovd.Auth OpenSovd.Provider OpenSovd.Jwt
open JwtAuthenticator

/-- What the library knows of a token: whether it names the algorithm and its
signature verifies with the key, and the members of its payload, if that is an
object. -/
structure Library where
  verifies : String → DecodingKey → JwtAlgorithm → Bool
  payload : String → Option (OrderedMap String Json)
  /-- The seconds since the epoch. -/
  now : Nat
  leeway : Nat

/-- The payload carries a claim; a null is none. -/
def carries (object : OrderedMap String Json) (name : String) : Bool :=
  match object.get name with
  | none | some .null => false
  | some _ => true

/-- The issuer, if the payload names one as text, is one of those configured. -/
def issuerMatches (object : OrderedMap String Json) (issuers : Option (List String)) : Bool :=
  match object.get "iss", issuers with
  | some (.string iss), some issuers => iss ∈ issuers
  | _, _ => true

/-- The checks of a decode that does not look at the audience. -/
structure Passes (library : Library) (token : String) (key : DecodingKey) (validation : Validation)
    (object : OrderedMap String Json) (claims : Claims) : Prop where
  signed : library.verifies token key validation.algorithm
  payload : library.payload token = some object
  deserialized : Claims.deserialize object = some claims
  required : ∀ name ∈ validation.requiredSpecClaims, carries object name
  unexpired : library.now ≤ claims.exp.toNat + library.leeway
  issued : issuerMatches object validation.issuers

/-- The validation looks at no audience and requires only claims that `Claims`
has too. -/
def Plain (validation : Validation) : Prop :=
  validation.validateAud = false ∧ ∀ name ∈ validation.requiredSpecClaims, name ∈ ["exp", "sub", "iss"]

/-- `decode` as the library documents it. -/
structure Documented (library : Library)
    (decode : String → DecodingKey → Validation → Option Claims) : Prop where
  checks : ∀ {token key validation claims}, Plain validation →
    decode token key validation = some claims →
      ∃ object, Passes library token key validation object claims
  accepts : ∀ {token key validation object claims}, Plain validation →
    Passes library token key validation object claims → decode token key validation = some claims

variable {Key : Type} {Val : Key → Type} {library : Library}
  {decode : String → DecodingKey → Validation → Option Claims}

/-- The `Authorization` header is this text. -/
def Authorization (parts : Parts Val) (header : String) : Prop :=
  (parts.header "authorization").bind toStr = some header

/-- The request bears a token that is signed, unexpired and of the configured
issuer, and it has these claims. -/
def Guaranteed (library : Library) (algorithm : JwtAlgorithm) (key : List UInt8) (issuer : String)
    (parts : Parts Val) (claims : Claims) : Prop :=
  ∃ token object, Authorization parts ("Bearer " ++ token) ∧
    library.verifies token (new algorithm key issuer).decodingKey algorithm ∧
    library.payload token = some object ∧ Claims.deserialize object = some claims ∧
    library.now ≤ claims.exp.toNat + library.leeway ∧ object.get "iss" = some (.string issuer)

/-- The request bears a signed, unexpired token with all that `Claims` needs,
and without an issuer. -/
def BearsUnissuedToken (library : Library) (algorithm : JwtAlgorithm) (key : List UInt8)
    (issuer : String) (parts : Parts Val) : Prop :=
  ∃ token object claims, Authorization parts ("Bearer " ++ token) ∧
    library.verifies token (new algorithm key issuer).decodingKey algorithm ∧
    library.payload token = some object ∧ Claims.deserialize object = some claims ∧
    library.now ≤ claims.exp.toNat + library.leeway ∧ carries object "iss" = false

/-! ### The header and the claims -/

theorem bearer_eq_some_iff {header token : String} :
    bearer header = some token ↔ header = "Bearer " ++ token := by
  unfold bearer
  rw [Option.map_eq_some_iff]
  constructor
  · rintro ⟨rest, dropped, rfl⟩
    obtain ⟨lead, split, same⟩ := List.dropPrefix?_eq_some_iff.mp dropped
    rw [beq_iff_eq.mp same] at split
    apply String.toList_inj.mp
    simp [split]
  · rintro rfl
    refine ⟨token.toList, List.dropPrefix?_eq_some_iff.mpr ⟨_, String.toList_append, beq_self_eq_true _⟩, ?_⟩
    exact String.ofList_toList

theorem bears_iff {parts : Parts Val} {token : String} :
    ((parts.header "authorization").bind toStr).bind bearer = some token ↔
      Authorization parts ("Bearer " ++ token) := by
  unfold Authorization
  rw [Option.bind_eq_some_iff]
  simp only [bearer_eq_some_iff]
  constructor
  · rintro ⟨header, found, rfl⟩
    exact found
  · intro found
    exact ⟨_, found, rfl⟩

theorem token_unique {parts : Parts Val} {token token' : String}
    (header : Authorization parts ("Bearer " ++ token))
    (header' : Authorization parts ("Bearer " ++ token')) : token = token' := by
  have both := bears_iff.mpr header'
  rw [bears_iff.mpr header] at both
  exact Option.some.inj both

/-- Claims that deserialize carry `exp`, and an issuer that is text or none. -/
theorem claims_cases {object : OrderedMap String Json} {claims : Claims}
    (read : Claims.deserialize object = some claims) :
    carries object "exp" ∧
      (carries object "iss" = false ∨ ∃ iss, object.get "iss" = some (.string iss)) := by
  unfold Claims.deserialize at read
  simp only [Option.bind_eq_bind, Option.bind_eq_some_iff] at read
  obtain ⟨sub, -, exp, ⟨value, held, natural⟩, iat, -, iss, issued, -⟩ := read
  constructor
  · unfold carries
    rw [held]
    cases value <;> first | rfl | cases natural
  · cases named : object.get "iss" with
    | none => simp [carries, named]
    | some value =>
      rw [named] at issued
      cases value with
      | null => simp [carries, named]
      | string iss => exact Or.inr ⟨iss, rfl⟩
      | bool | number | array | object => cases issued

theorem plain_new (algorithm : JwtAlgorithm) (key : List UInt8) (issuer : String) :
    Plain (new algorithm key issuer).validation := by
  constructor
  · rfl
  · simp [new]

/-! ### What an accepted token is -/

theorem authenticate_eq_ok_iff {parts : Parts Val} {self : JwtAuthenticator} {claims : Claims} :
    authenticate decode self parts = .ok claims ↔
      ∃ token, Authorization parts ("Bearer " ++ token) ∧
        decode token self.decodingKey self.validation = some claims := by
  simp only [← bears_iff]
  unfold authenticate
  cases found : ((parts.header "authorization").bind toStr).bind bearer with
  | none => simp
  | some token =>
    cases decoded : decode token self.decodingKey self.validation <;> simp [decoded]

/-- The other checks accept a token that names no issuer. -/
theorem passes_of_unissued {algorithm : JwtAlgorithm} {key : List UInt8} (issuer : String)
    {token : String} {object : OrderedMap String Json} {claims : Claims}
    (signed : library.verifies token (new algorithm key issuer).decodingKey algorithm)
    (payload : library.payload token = some object)
    (deserialized : Claims.deserialize object = some claims)
    (unexpired : library.now ≤ claims.exp.toNat + library.leeway)
    (unissued : carries object "iss" = false) :
    Passes library token (new algorithm key issuer).decodingKey (new algorithm key issuer).validation
      object claims := by
  refine ⟨signed, payload, deserialized, ?_, unexpired, ?_⟩
  · intro name member
    have exp : name = "exp" := by simpa [new] using member
    rw [exp]
    exact (claims_cases deserialized).1
  · unfold issuerMatches
    unfold carries at unissued
    split at unissued
    · rename_i missing
      rw [missing]
    · rename_i null
      rw [null]
    · cases unissued

/-- **Acceptance guarantees the configured checks** exactly for the requests
that do not bear a signed, unexpired token without an issuer. -/
theorem guaranteed_iff_issued (documented : Documented library decode) (algorithm : JwtAlgorithm)
    (key : List UInt8) (issuer : String) (parts : Parts Val) :
    (∀ claims, authenticate decode (new algorithm key issuer) parts = .ok claims →
        Guaranteed library algorithm key issuer parts claims) ↔
      ¬ BearsUnissuedToken library algorithm key issuer parts := by
  constructor
  · rintro guaranteed ⟨token, object, claims, header, signed, payload, deserialized, unexpired, unissued⟩
    have passes := passes_of_unissued issuer signed payload deserialized unexpired unissued
    have accepted := documented.accepts (plain_new algorithm key issuer) passes
    obtain ⟨token', object', header', -, payload', -, -, issued⟩ :=
      guaranteed claims (authenticate_eq_ok_iff.mpr ⟨token, header, accepted⟩)
    rw [← token_unique header header', payload] at payload'
    cases payload'
    simp [carries, issued] at unissued
  · intro issued claims accepted
    obtain ⟨token, header, decoded⟩ := authenticate_eq_ok_iff.mp accepted
    obtain ⟨object, passes⟩ := documented.checks (plain_new algorithm key issuer) decoded
    have signed : library.verifies token (new algorithm key issuer).decodingKey algorithm := passes.signed
    refine ⟨token, object, header, signed, passes.payload, passes.deserialized, passes.unexpired, ?_⟩
    rcases (claims_cases passes.deserialized).2 with unissued | ⟨iss, named⟩
    · exact absurd ⟨token, object, claims, header, signed, passes.payload, passes.deserialized,
        passes.unexpired, unissued⟩ issued
    · have same : iss = issuer := by simpa [issuerMatches, named, new] using passes.issued
      rw [named, same]

/-! ### A token without an issuer -/

/-- A decode that makes the checks one after the other. -/
def checkedDecode (library : Library) (token : String) (key : DecodingKey) (validation : Validation) :
    Option Claims := do
  let object ← library.payload token
  let claims ← Claims.deserialize object
  if library.verifies token key validation.algorithm ∧
      (∀ name ∈ validation.requiredSpecClaims, carries object name) ∧
      library.now ≤ claims.exp.toNat + library.leeway ∧ issuerMatches object validation.issuers
    then some claims else none

theorem documented_checkedDecode (library : Library) : Documented library (checkedDecode library) where
  checks {token key validation claims} _ decoded := by
    unfold checkedDecode at decoded
    simp only [Option.bind_eq_bind, Option.bind_eq_some_iff, Option.ite_none_right_eq_some,
      Option.some.injEq] at decoded
    obtain ⟨object, payload, _, deserialized, ⟨signed, required, unexpired, issued⟩, rfl⟩ := decoded
    exact ⟨object, signed, payload, deserialized, required, unexpired, issued⟩
  accepts {token key validation object claims} _ passes := by
    obtain ⟨signed, payload, deserialized, required, unexpired, issued⟩ := passes
    simp only [checkedDecode, payload, deserialized, Option.bind_eq_bind, Option.bind_some]
    exact if_pos ⟨signed, required, unexpired, issued⟩

/-- The payload of a token that names an issuer or does not. -/
def payloadOf (iss : Option String) : OrderedMap String Json :=
  let object := (OrderedMap.empty.insert "sub" (.string "user")).insert "exp" (.number 4102444800 0)
  match iss with
  | none => object
  | some iss => object.insert "iss" (.string iss)

/-- A library that knows two tokens signed with one secret. -/
def twoTokens : Library where
  verifies token key algorithm :=
    token ∈ ["named", "unnamed"] ∧ key = .secret [0x73] ∧ algorithm = .HS512
  payload token :=
    if token = "named" then some (payloadOf (some "OpenSOVD"))
    else if token = "unnamed" then some (payloadOf none) else none
  now := 1767225600
  leeway := 60

def bearing (token : String) : Parts (fun _ : Unit => String) where
  method := "GET"
  uri := { path := "/sovd/v1/components" }
  headers := [("authorization", PercentEncoding.bytes ("Bearer " ++ token))]

theorem named_token_is_guaranteed :
    authenticate (checkedDecode twoTokens) (new .HS512 [0x73] "OpenSOVD") (bearing "named") =
        .ok { sub := "user", exp := 4102444800, iss := some "OpenSOVD" } ∧
      Guaranteed twoTokens .HS512 [0x73] "OpenSOVD" (bearing "named")
        { sub := "user", exp := 4102444800, iss := some "OpenSOVD" } := by
  have accepted : authenticate (checkedDecode twoTokens) (new .HS512 [0x73] "OpenSOVD")
      (bearing "named") = .ok { sub := "user", exp := 4102444800, iss := some "OpenSOVD" } := by
    decide
  have borne : Authorization (bearing "named") ("Bearer " ++ "named") := by
    unfold Authorization
    decide
  have issued : ¬ BearsUnissuedToken twoTokens .HS512 [0x73] "OpenSOVD" (bearing "named") := by
    rintro ⟨token, object, claims, header, -, payload, -, -, unissued⟩
    cases token_unique header borne
    cases payload
    exact absurd unissued (by decide)
  exact ⟨accepted, (guaranteed_iff_issued (documented_checkedDecode twoTokens) .HS512 [0x73]
    "OpenSOVD" (bearing "named")).mpr issued _ accepted⟩

/-- A token without an issuer is accepted where one of `OpenSOVD` is required. -/
theorem unnamed_token_is_accepted :
    Documented twoTokens (checkedDecode twoTokens) ∧
      ¬ ∀ claims, authenticate (checkedDecode twoTokens) (new .HS512 [0x73] "OpenSOVD")
          (bearing "unnamed") = .ok claims →
        Guaranteed twoTokens .HS512 [0x73] "OpenSOVD" (bearing "unnamed") claims := by
  have borne : Authorization (bearing "unnamed") ("Bearer " ++ "unnamed") := by
    unfold Authorization
    decide
  refine ⟨documented_checkedDecode twoTokens, fun guaranteed => ?_⟩
  obtain ⟨token, object, header, -, payload, -, -, issued⟩ :=
    guaranteed { sub := "user", exp := 4102444800 } (by decide)
  cases token_unique header borne
  cases payload
  cases issued

end OpenSovd.JwtProofs
