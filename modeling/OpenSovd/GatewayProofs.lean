import OpenSovd.Gateway

/-! Which security options take effect. Every option that reaches the server is
enforced for every request, but two options are only looked at when another one
is set: the policies need a JWT secret, and the client CAs need a certificate. -/
namespace OpenSovd.GatewayProofs
open OpenSovd.Support OpenSovd.BasePath OpenSovd.Http OpenSovd.Auth OpenSovd.Jwt OpenSovd.Rego
open OpenSovd.Gateway
open Fallible
open Gates (Gate)

variable {Certificate PrivateKey E σ : Type} {platform : Platform Certificate PrivateKey E σ}
  {cli : Cli}

/-- The request got to a handler over this connection. -/
def Reaches (platform : Platform Certificate PrivateKey E σ) (cli : Cli)
    (connection : Connection Certificate) (request : Request Val) (s : σ) : Prop :=
  ∃ serving, run platform.recorded cli = .ok serving ∧
    serving.accepts platform.rustls connection = true ∧
    (serving.router.call platform.axum.select request (s, [])).2.2 ≠ []

/-- The claims that the authenticator of the configured secret returns. -/
def Authenticated (platform : Platform Certificate PrivateKey E σ) (cli : Cli)
    (request : Request Val) (claims : Claims) : Prop :=
  ∃ key authenticator, cli.auth.jwtKey = some key ∧
    createJwtAuthenticator platform key cli.auth = .ok authenticator ∧
    authenticator.authenticate platform.decodeJwt request.parts = .ok claims

/-- Every control the operator asked for was applied to the request. -/
structure ControlsHold (platform : Platform Certificate PrivateKey E σ) (cli : Cli)
    (connection : Connection Certificate) (request : Request Val) : Prop where
  token : cli.auth.jwtKey ≠ none → ∃ claims, Authenticated platform cli request claims
  policy : cli.auth.policy ≠ [] → ∃ claims authorizer, Authenticated platform cli request claims ∧
    createRegoAuthorizer platform cli.auth = .ok authorizer ∧
    authorizer.authorize claims request.parts = .ok ()
  certificate : cli.tls.clientCa ≠ [] → ∃ roots certificate,
    clientRoots platform.rustls cli.tls.clientCa = .ok roots ∧
    connection.certificate = some certificate ∧ platform.rustls.verifies roots certificate = true

/-- No control depends on an option that is not set. -/
structure Complete (cli : Cli) : Prop where
  policy : cli.auth.policy ≠ [] → cli.auth.jwtKey ≠ none
  certificate : cli.tls.clientCa ≠ [] → ¬ (cli.tls.cert = none ∧ cli.tls.key = none)

/-! ### The layers of the server -/

/-- The CORS service leaves the state alone or passes the request on. -/
theorem corsLayer_state (cors : Option CorsService) (inner : Service Val σ) (request : Request Val)
    (s : σ) : (corsLayer cors inner request s).2 = s ∨
      (corsLayer cors inner request s).2 = (inner request s).2 := by
  cases cors with
  | none => exact Or.inr rfl
  | some cors =>
    simp only [corsLayer]
    cases cors.preflight request with
    | none => exact Or.inr rfl
    | some answer => exact Or.inl rfl

/-- Whatever is mounted, a handler behind the layers runs only on what the
authenticator and the authorizer accept. -/
theorem accepted_of_ran {authenticator : Authenticator Val}
    {authorizer : Authorizer Val (Val authenticator.identity)} (axum : Axum Val)
    {cors : Option CorsService} {routes : Router Val (σ × List (Request Val))}
    {request : Request Val} {s : σ}
    (ran : ((protect authenticator authorizer (corsLayer cors) routes).call axum.select request
      (s, [])).2.2 ≠ []) : Accepted authenticator authorizer request.parts := by
  by_contra rejected
  obtain ⟨error, refused⟩ := refused_of_not_accepted rejected
  have stopped : authGate authenticator authorizer request = .error error.intoResponse := by
    rw [authGate, refused_iff_verdict.mp refused]
  have gated := Gate.layer_rejected stopped (routes.endpoint axum.select request) (s, [])
  rw [Gates.Router.call, endpoint_protect] at ran
  rcases corsLayer_state cors ((authGate authenticator authorizer).layer
    (routes.endpoint axum.select request)) request (s, []) with same | same
  · exact ran (by rw [same])
  · exact ran (by rw [same, gated])

/-- What a successful start-up serves. -/
theorem serving_of_serve {authenticator : Authenticator Val}
    {authorizer : Authorizer Val (Val authenticator.identity)}
    {serving : Serving Certificate PrivateKey σ}
    (started : serve platform cli authenticator authorizer = .ok serving) :
    (∃ cors routes, serving.router = protect authenticator authorizer (corsLayer cors) routes) ∧
      cli.tls.build platform.rustls = .ok serving.tls := by
  obtain ⟨uri, _, started⟩ := bind_eq_ok_iff.mp started
  obtain ⟨authority, _, started⟩ := bind_eq_ok_iff.mp started
  obtain ⟨listener, _, started⟩ := bind_eq_ok_iff.mp started
  obtain ⟨tlsConfig, built, started⟩ := bind_eq_ok_iff.mp started
  obtain ⟨cors, _, started⟩ := bind_eq_ok_iff.mp started
  obtain ⟨services, _, started⟩ := bind_eq_ok_iff.mp started
  obtain ⟨_, _, started⟩ := bind_eq_ok_iff.mp started
  cases tlsConfig with
  | none =>
    cases started
    exact ⟨⟨_, _, rfl⟩, built⟩
  | some config =>
    cases listener with
    | tcp =>
      cases started
      exact ⟨⟨_, _, rfl⟩, built⟩
    | unix => cases started

/-! ### TLS -/

/-- A configuration is built exactly when there are a certificate and a key,
with the verifier that the client CAs ask for. -/
theorem build_cases {rustls : Rustls Certificate PrivateKey} {tls : TlsArgs}
    {config : Option (ServerConfig Certificate PrivateKey)}
    (built : tls.build rustls = .ok config) :
    (config = none ∧ tls.cert = none ∧ tls.key = none) ∨
      ∃ served, config = some served ∧ ¬ (tls.cert = none ∧ tls.key = none) ∧
        clientVerifier rustls tls.clientCa = .ok served.clientAuth := by
  unfold TlsArgs.build at built
  split at built
  · rename_i noCert noKey
    cases built
    exact Or.inl ⟨rfl, noCert, noKey⟩
  · rename_i cert key
    obtain ⟨certs, _, built⟩ := bind_eq_ok_iff.mp built
    split at built
    · cases built
    · obtain ⟨privateKey, _, built⟩ := bind_eq_ok_iff.mp built
      obtain ⟨_, _, built⟩ := bind_eq_ok_iff.mp built
      obtain ⟨clientAuth, verifier, built⟩ := bind_eq_ok_iff.mp built
      obtain ⟨_, _, built⟩ := bind_eq_ok_iff.mp built
      cases built
      exact Or.inr ⟨_, rfl, fun absent => by simp [cert] at absent, verifier⟩
  · cases built

theorem roots_of_clientVerifier {rustls : Rustls Certificate PrivateKey} {clientCa : List String}
    {clientAuth : Option (List Certificate)} (configured : clientCa ≠ [])
    (verifier : clientVerifier rustls clientCa = .ok clientAuth) :
    ∃ roots, clientRoots rustls clientCa = .ok roots ∧ clientAuth = some roots := by
  rw [clientVerifier, if_neg (by simpa using configured)] at verifier
  obtain ⟨roots, loaded, verifier⟩ := bind_eq_ok_iff.mp verifier
  obtain ⟨_, _, verifier⟩ := bind_eq_ok_iff.mp verifier
  cases verifier
  exact ⟨roots, loaded, rfl⟩

/-- With client CAs, a connection is served only over TLS from a client with a
certificate that verifies, and only if there is a server certificate at all. -/
theorem certificate_iff_complete {rustls : Rustls Certificate PrivateKey}
    (mandatory : rustls.MandatoryClientAuth)
    {serving : Serving Certificate PrivateKey σ} {connection : Connection Certificate}
    (configured : cli.tls.clientCa ≠ [])
    (built : cli.tls.build rustls = .ok serving.tls)
    (accepted : serving.accepts rustls connection = true) :
    (∃ roots certificate, clientRoots rustls cli.tls.clientCa = .ok roots ∧
        connection.certificate = some certificate ∧
        rustls.verifies roots certificate = true) ↔
      ¬ (cli.tls.cert = none ∧ cli.tls.key = none) := by
  rcases build_cases built with ⟨off, absent⟩ | ⟨config, served, present, verifier⟩
  · refine iff_of_false ?_ (not_not.mpr absent)
    rintro ⟨roots, certificate, _, presented, _⟩
    cases connection with
    | plain => cases presented
    | tls shown => simp [Serving.accepts, off] at accepted
  · refine iff_of_true ?_ present
    obtain ⟨roots, loaded, checked⟩ := roots_of_clientVerifier configured verifier
    cases connection with
    | plain => simp [Serving.accepts, served] at accepted
    | tls shown =>
      simp only [Serving.accepts, served, Option.any_some] at accepted
      obtain ⟨certificate, presented, verified⟩ := mandatory config roots shown checked accepted
      exact ⟨roots, certificate, loaded, presented, verified⟩

/-! ### The options -/

/-- What a successful start-up made of the authentication options. -/
theorem run_cases {serving : Serving Certificate PrivateKey σ}
    (started : run platform cli = .ok serving) :
    (cli.auth.jwtKey = none ∧ serve platform cli noAuth allowAll = .ok serving) ∨
      ∃ key authenticator, cli.auth.jwtKey = some key ∧
        createJwtAuthenticator platform key cli.auth = .ok authenticator ∧
        ((cli.auth.policy = [] ∧
            serve platform cli (jwtAuth platform authenticator) allowAll = .ok serving) ∨
          ∃ authorizer, createRegoAuthorizer platform cli.auth = .ok authorizer ∧
            serve platform cli (jwtAuth platform authenticator) authorizer.authorize =
              .ok serving) := by
  unfold run at started
  split at started
  · rename_i key configured
    obtain ⟨authenticator, created, started⟩ := bind_eq_ok_iff.mp started
    refine Or.inr ⟨key, authenticator, configured, created, ?_⟩
    split at started
    · rename_i empty
      exact Or.inl ⟨List.isEmpty_iff.mp empty, started⟩
    · obtain ⟨authorizer, loaded, started⟩ := bind_eq_ok_iff.mp started
      exact Or.inr ⟨authorizer, loaded, started⟩
  · rename_i unset
    exact Or.inl ⟨unset, started⟩

/-- A request that reaches a handler of a gateway with a JWT secret has claims,
which every configured policy allowed. -/
theorem authenticated_of_reaches {connection : Connection Certificate} {request : Request Val}
    {s : σ} (reaches : Reaches platform cli connection request s)
    (configured : cli.auth.jwtKey ≠ none) :
    ∃ claims, Authenticated platform cli request claims ∧ (cli.auth.policy ≠ [] →
      ∃ authorizer, createRegoAuthorizer platform cli.auth = .ok authorizer ∧
        authorizer.authorize claims request.parts = .ok ()) := by
  obtain ⟨serving, started, _, ran⟩ := reaches
  rcases run_cases started with ⟨unset, _⟩ | ⟨key, authenticator, set, created, started⟩
  · exact absurd unset configured
  · rcases started with ⟨empty, started⟩ | ⟨authorizer, loaded, started⟩
    · obtain ⟨⟨cors, routes, same⟩, _⟩ := serving_of_serve started
      rw [same] at ran
      obtain ⟨claims, authenticated, _⟩ := accepted_of_ran platform.axum ran
      exact ⟨claims, ⟨key, authenticator, set, created, authenticated⟩, absurd empty⟩
    · obtain ⟨⟨cors, routes, same⟩, _⟩ := serving_of_serve started
      rw [same] at ran
      obtain ⟨claims, authenticated, authorized⟩ := accepted_of_ran platform.axum ran
      -- the policy does not see the extension that carries the claims
      exact ⟨claims, ⟨key, authenticator, set, created, authenticated⟩,
        fun _ => ⟨authorizer, loaded, authorized⟩⟩

theorem built_of_reaches {connection : Connection Certificate} {request : Request Val} {s : σ}
    (reaches : Reaches platform cli connection request s) :
    ∃ serving : Serving Certificate PrivateKey (σ × List (Request Val)),
      cli.tls.build platform.rustls = .ok serving.tls ∧
        serving.accepts platform.rustls connection = true := by
  obtain ⟨serving, started, accepted, _⟩ := reaches
  refine ⟨serving, ?_, accepted⟩
  rcases run_cases started with ⟨_, started⟩ | ⟨_, _, _, _, ⟨_, started⟩ | ⟨_, _, started⟩⟩
  · exact (serving_of_serve started).2
  · exact (serving_of_serve started).2
  · exact (serving_of_serve started).2

/-- The controls apply to a request that reaches a handler exactly if none of
them depends on an option that is not set. -/
theorem controls_hold_iff_complete (mandatory : platform.rustls.MandatoryClientAuth)
    {connection : Connection Certificate} {request : Request Val} {s : σ}
    (reaches : Reaches platform cli connection request s) :
    ControlsHold platform cli connection request ↔ Complete cli := by
  obtain ⟨serving, built, accepted⟩ := built_of_reaches reaches
  constructor
  · rintro ⟨_, policy, certificate⟩
    refine ⟨fun configured unset => ?_, fun configured => ?_⟩
    · obtain ⟨_, _, ⟨key, _, set, _⟩, _⟩ := policy configured
      rw [unset] at set
      cases set
    · exact (certificate_iff_complete mandatory configured built accepted).mp (certificate configured)
  · rintro ⟨policy, certificate⟩
    refine ⟨fun configured => ?_, fun configured => ?_, fun configured => ?_⟩
    · obtain ⟨claims, authenticated, _⟩ := authenticated_of_reaches reaches configured
      exact ⟨claims, authenticated⟩
    · obtain ⟨claims, authenticated, allowed⟩ :=
        authenticated_of_reaches reaches (policy configured)
      obtain ⟨authorizer, loaded, authorized⟩ := allowed configured
      exact ⟨claims, authorizer, authenticated, loaded, authorized⟩
    · exact (certificate_iff_complete mandatory configured built accepted).mpr
        (certificate configured)

/-- **No configured control is dropped** for a request that reaches a handler exactly
if the policies come with a JWT secret and the client CAs with a server certificate
or key; and for all requests exactly if that holds or the gateway serves nothing. -/
theorem no_control_dropped_iff_complete (platform : Platform Certificate PrivateKey E σ) (cli : Cli)
    (mandatory : platform.rustls.MandatoryClientAuth) :
    (∀ connection request s, Reaches platform cli connection request s →
        (ControlsHold platform cli connection request ↔ Complete cli)) ∧
      ((∀ connection request s, Reaches platform cli connection request s →
          ControlsHold platform cli connection request) ↔
        ((∃ connection request s, Reaches platform cli connection request s) → Complete cli)) := by
  refine ⟨fun _ _ _ reaches => controls_hold_iff_complete mandatory reaches, ?_⟩
  constructor
  · rintro hold ⟨connection, request, s, reaches⟩
    exact (controls_hold_iff_complete mandatory reaches).mp (hold connection request s reaches)
  · intro complete connection request s reaches
    exact (controls_hold_iff_complete mandatory reaches).mpr
      (complete ⟨connection, request, s, reaches⟩)

/-! ### Two gateways -/

/-- One route, one known secret and one known token, and a policy that allows
its subject. A certificate is named by its file. -/
def bench : Platform String Unit Unit Nat where
  axum := {
    select := fun templates request => templates.findIdx? (· = request.parts.uri.path)
    strip := fun _ request => request }
  rustls := {
    pemCertificates := fun path => .ok [path]
    pemPrivateKey := fun _ => .ok ()
    protocolVersions := .ok ()
    addRoot := fun roots certificate => .ok (roots ++ [certificate])
    buildVerifier := fun roots => if roots.isEmpty then .error "no root anchors" else .ok ()
    withSingleCert := fun _ _ => .ok ()
    verifies := fun roots certificate => roots.contains certificate
    handshake := fun config presented =>
      config.clientAuth.all fun roots => presented.any fun certificate => roots.contains certificate }
  regorus := {
    new := ()
    addPolicy := fun _ _ _ => .ok ()
    addData := fun _ _ => .ok ()
    evalBoolQuery := fun _ _ document => match document with
      | .object [_, _, ("identity", .object [("sub", .string sub), _, _])] => .ok (sub = "operator")
      | _ => .ok false }
  decodeJwt := fun token key _ =>
    if token = "t0ken" ∧ key = .secret (PercentEncoding.bytes "secret") then
      some { sub := "operator", exp := 9999999999 }
    else none
  decodeBase64 := fun secret =>
    if secret = "c2VjcmV0" then .ok (PercentEncoding.bytes "secret") else .error "invalid symbol"
  readToString := fun _ => .ok "package sovd.authz"
  parseUri := fun url =>
    if url = "http://localhost:7690/sovd" then
      .ok { scheme := some "http", authority := some "localhost:7690", path := "/sovd" }
    else .error "invalid uri"
  corsParses := fun _ _ => true
  cors := fun _ => ⟨fun _ => none, fun _ answer => answer⟩
  listenFd := .ok none
  bindAbstract := fun _ => .ok ()
  bindUnix := fun _ => .ok ()
  bindTcp := fun _ => .ok ()
  localAddr := fun _ => .ok ()
  routes := fun _ => ⟨[("/version-info", fun _ s => ({ status := 200 }, s))],
    fun _ s => ({ status := 404 }, s)⟩
  files := fun _ _ s => ({ status := 404 }, s)

theorem bench_mandatory : bench.rustls.MandatoryClientAuth := by
  intro config roots presented checked completed
  simp only [bench, checked, Option.all_some] at completed
  obtain ⟨certificate, shown, verified⟩ := (Option.any_eq_true _ _).mp completed
  exact ⟨certificate, shown, verified⟩

/-- Every option set together with what it needs. -/
def secured : Cli := {
  auth := { jwtKey := some "c2VjcmV0", policy := ["sovd_authz.rego"] }
  tls := { cert := some "server.pem", key := some "server.key", clientCa := ["ca.pem"] } }

theorem secured_complete : Complete secured := ⟨fun _ => by decide, fun _ => by decide⟩

/-- The version info, asked for by the operator. -/
def operatorRequest : Request Val where
  parts := {
    method := "GET"
    uri := { path := "/sovd/version-info" }
    headers := [("authorization", PercentEncoding.bytes "Bearer t0ken")] }

theorem operator_reaches : Reaches bench secured (.tls (some "ca.pem")) operatorRequest 0 :=
  ⟨_, rfl, rfl, by decide⟩

theorem secured_drops_no_control :
    ControlsHold bench secured (.tls (some "ca.pem")) operatorRequest :=
  ((no_control_dropped_iff_complete bench secured bench_mandatory).1 _ _ _ operator_reaches).mpr
    secured_complete

/-- The policy allows nobody but the operator, but without a secret it is not
asked. -/
theorem policy_without_secret_is_dropped :
    ¬ ∀ (cli : Cli) (connection : Connection String) (request : Request Val) (s : Nat),
      Reaches bench cli connection request s → ControlsHold bench cli connection request := by
  intro always
  have reaches : Reaches bench { auth := { policy := ["sovd_authz.rego"] } } .plain
      { parts := { method := "GET", uri := { path := "/sovd/version-info" } } } 0 :=
    ⟨_, rfl, rfl, by decide⟩
  obtain ⟨claims, authorizer, ⟨key, _, set, _⟩, _⟩ := (always _ _ _ _ reaches).policy (by decide)
  cases set

end OpenSovd.GatewayProofs
