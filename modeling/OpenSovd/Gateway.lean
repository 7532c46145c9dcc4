import OpenSovd.Rego

/-! The gateway binary: from the command line to the router and the listener
that are served. Start-up is a chain of steps that can fail; what is not under
the gateway's control, the libraries and the operating system, is a parameter. -/
namespace OpenSovd.Gateway
open OpenSovd.Support OpenSovd.BasePath OpenSovd.Http OpenSovd.Auth OpenSovd.Jwt OpenSovd.Rego

/-! ### The command line -/

structure AuthArgs where
  jwtKey : Option String := none
  jwtAlgo : String := "HS512"
  jwtIssuer : String := "OpenSOVD"
  policy : List String := []
  policyData : List String := []

structure TlsArgs where
  cert : Option String := none
  key : Option String := none
  clientCa : List String := []

structure CorsArgs where
  origins : List String := []
  methods : List String := []
  headers : List String := []
  credentials : Bool := false
  maxAge : Option UInt64 := none

structure Cli where
  url : String := "http://localhost:7690/sovd"
  unixSocket : Option String := none
  cors : CorsArgs := {}
  auth : AuthArgs := {}
  tls : TlsArgs := {}
  serveDir : Option String := none

/-! ### TLS -/

structure ServerConfig (Certificate PrivateKey : Type) where
  certs : List Certificate
  key : PrivateKey
  /-- The roots of the client certificate verifier, if there is one. -/
  clientAuth : Option (List Certificate)

/-- The TLS library: reading PEM files, the steps of a configuration, and which
handshakes complete with a client that presents a certificate or none. -/
structure Rustls (Certificate PrivateKey : Type) where
  pemCertificates : String → Except String (List Certificate)
  pemPrivateKey : String → Except String PrivateKey
  protocolVersions : Except String Unit
  addRoot : List Certificate → Certificate → Except String (List Certificate)
  buildVerifier : List Certificate → Except String Unit
  withSingleCert : List Certificate → PrivateKey → Except String Unit
  verifies : List Certificate → Certificate → Bool
  handshake : ServerConfig Certificate PrivateKey → Option Certificate → Bool

variable {Certificate PrivateKey E σ : Type}

/-- A client verifier is mandatory: a handshake under it completes only with a
certificate that verifies against its roots. -/
def Rustls.MandatoryClientAuth (rustls : Rustls Certificate PrivateKey) : Prop :=
  ∀ config roots presented, config.clientAuth = some roots →
    rustls.handshake config presented = true →
    ∃ certificate, presented = some certificate ∧ rustls.verifies roots certificate = true

/-- The root store of the client CA files. -/
def clientRoots (rustls : Rustls Certificate PrivateKey) (clientCa : List String) :
    Except String (List Certificate) :=
  clientCa.foldlM (fun roots ca => do (← rustls.pemCertificates ca).foldlM rustls.addRoot roots) []

/-- No client CA means no client authentication. -/
def clientVerifier (rustls : Rustls Certificate PrivateKey) (clientCa : List String) :
    Except String (Option (List Certificate)) :=
  if clientCa.isEmpty then .ok none
  else do
    let roots ← clientRoots rustls clientCa
    rustls.buildVerifier roots
    return some roots

def TlsArgs.build (rustls : Rustls Certificate PrivateKey) (self : TlsArgs) :
    Except String (Option (ServerConfig Certificate PrivateKey)) :=
  match self.cert, self.key with
  | none, none => .ok none
  | some certPath, some keyPath => do
    let certs ← rustls.pemCertificates certPath
    if certs.isEmpty then throw ("no certificates found in " ++ certPath)
    else
      let key ← rustls.pemPrivateKey keyPath
      rustls.protocolVersions
      let clientAuth ← clientVerifier rustls self.clientCa
      rustls.withSingleCert certs key
      return some ⟨certs, key, clientAuth⟩
  | _, _ => .error "--tls-cert and --tls-key must both be provided"

/-! ### CORS -/

inductive AllowList where
  | any
  | only (values : List String)

structure CorsConfig where
  origins : AllowList
  methods : AllowList
  headers : AllowList
  credentials : Bool
  maxAge : Option UInt64

/-- `Any` for a wildcard, else every value must parse. -/
def allowList (what : String) (parses : String → Bool) (values : List String) :
    Except String AllowList :=
  if values.contains "*" then .ok .any
  else match values.find? fun value => !parses value with
    | some bad => .error ("invalid CORS " ++ what ++ ": " ++ bad.quote)
    | none => .ok (.only values)

/-- No origins means no CORS. -/
def createCorsLayer (parses : String → String → Bool) (args : CorsArgs) :
    Except String (Option CorsConfig) :=
  if args.origins.isEmpty then .ok none
  else do
    let refuse (what : String) : Except String Unit :=
      .error ("cannot use wildcard '*' for " ++ what ++ " when credentials are enabled")
    if args.credentials then
      if args.origins.contains "*" then refuse "origins"
      if args.methods.contains "*" then refuse "methods"
      if args.headers.contains "*" then refuse "headers"
    let origins ← allowList "origin" (parses "origin") args.origins
    let methods ← allowList "method" (parses "method") args.methods
    let headers ← allowList "header" (parses "header") args.headers
    return some ⟨origins, methods, headers, args.credentials, args.maxAge⟩

/-! ### The platform -/

/-- The types the gateway keeps in request extensions. -/
inductive TypeKey where
  | unit
  | claims
  deriving DecidableEq

@[reducible] def Val : TypeKey → Type
  | .unit => Unit
  | .claims => Claims

/-- The CORS service: it answers preflights itself, and adds headers to the
answers to everything else. -/
structure CorsService where
  preflight : Request Val → Option Http.Response
  decorate : Request Val → Http.Response → Http.Response

inductive Listener where
  | tcp
  | unix
  deriving DecidableEq

/-- Libraries and operating system: parsing and decoding, files and sockets, and
the routes and file services that are mounted. -/
structure Platform (Certificate PrivateKey E σ : Type) where
  axum : Axum Val
  rustls : Rustls Certificate PrivateKey
  regorus : Regorus E
  decodeJwt : String → DecodingKey → Validation → Option Claims
  decodeBase64 : String → Except String (List UInt8)
  readToString : String → Except String String
  parseUri : String → Except String Uri
  corsParses : String → String → Bool
  cors : CorsConfig → CorsService
  /-- The first inherited socket, made a TCP listener. -/
  listenFd : Except String (Option Unit)
  bindAbstract : String → Except String Unit
  bindUnix : String → Except String Unit
  bindTcp : String → Except String Unit
  localAddr : Listener → Except String Unit
  routes : BaseUri → Router Val σ
  files : String → Service Val σ

/-- The same platform with a record of the requests its handlers ran on. -/
def Platform.recorded (platform : Platform Certificate PrivateKey E σ) :
    Platform Certificate PrivateKey E (σ × List (Request Val)) :=
  { platform with
    routes := fun base => (platform.routes base).recorded
    files := fun dir => Gates.recorded (platform.files dir) }

/-! ### The server -/

/-- What `ServerBuilder` has collected. -/
structure Server (Certificate PrivateKey σ : Type) where
  listener : Listener
  base : BaseConfig
  authenticator : Authenticator Val
  authorizer : Authorizer Val (Val authenticator.identity)
  layer : Layer Val σ
  services : List (String × Service Val σ)
  tlsConfig : Option (ServerConfig Certificate PrivateKey)

/-- A listener with its TLS configuration, and the router behind it. -/
structure Serving (Certificate PrivateKey σ : Type) where
  router : Router Val σ
  tls : Option (ServerConfig Certificate PrivateKey)

/-- `Server::serve`, up to the point where it accepts connections. -/
def Server.serve (platform : Platform Certificate PrivateKey E σ)
    (self : Server Certificate PrivateKey σ) : Except String (Serving Certificate PrivateKey σ) := do
  let base := normalizeBase self.base.path
  let advertised := advertised self.base self.tlsConfig.isSome
  let router := buildRouter platform.axum base (platform.routes advertised) self.authenticator
    self.authorizer self.layer self.services
  platform.localAddr self.listener
  match self.tlsConfig with
  | some config =>
    match self.listener with
    | .tcp => return ⟨router, some config⟩
    | .unix => throw "TLS is only supported on TCP listeners"
  | none => return ⟨router, none⟩

/-- A connection: in the clear, or over TLS from a client that presents a
certificate or none. -/
inductive Connection (Certificate : Type) where
  | plain
  | tls (presented : Option Certificate)

def Connection.certificate : Connection Certificate → Option Certificate
  | .plain => none
  | .tls presented => presented

/-- Requests are read from a plain connection to a plain listener, and from a
TLS connection once the handshake completed. -/
def Serving.accepts (rustls : Rustls Certificate PrivateKey)
    (self : Serving Certificate PrivateKey σ) : Connection Certificate → Bool
  | .plain => self.tls.isNone
  | .tls presented => self.tls.any fun config => rustls.handshake config presented

/-! ### Start-up -/

def createJwtAuthenticator (platform : Platform Certificate PrivateKey E σ) (secret : String)
    (auth : AuthArgs) : Except String JwtAuthenticator := do
  let algo ← (JwtAlgorithm.fromStr auth.jwtAlgo).mapError fun _ =>
    "invalid --auth-jwt-algo " ++ auth.jwtAlgo.quote
  let key ← (platform.decodeBase64 secret).mapError fun _ =>
    "--auth-jwt-secret must be base64-encoded"
  return .new algo key auth.jwtIssuer

def createRegoAuthorizer (platform : Platform Certificate PrivateKey E σ) (auth : AuthArgs) :
    Except String RegorusAuthorizer :=
  (RegorusAuthorizer.fromPaths platform.regorus platform.readToString auth.policy
    auth.policyData).mapError fun _ => "failed to load Rego authorization policies"

/-- An inherited socket wins over a Unix socket, which wins over the address. -/
def configureListener (platform : Platform Certificate PrivateKey E σ) (cli : Cli)
    (authority : String) : Except String Listener := do
  match ← platform.listenFd with
  | some () => return .tcp
  | none =>
    match cli.unixSocket with
    | some path =>
      match path.toList with
      | '@' :: name => platform.bindAbstract (String.ofList name)
      | _ => platform.bindUnix path
      return .unix
    | none =>
      platform.bindTcp authority
      return .tcp

/-- `option_layer` of the CORS service. -/
def corsLayer (cors : Option CorsService) : Layer Val σ := fun inner request s =>
  match cors with
  | none => inner request s
  | some cors =>
    match cors.preflight request with
    | some answer => (answer, s)
    | none =>
      let answered := inner request s
      (cors.decorate request answered.1, answered.2)

/-- `split_once(':')`. -/
def splitColon (arg : String) : Option (String × String) :=
  match arg.toList.splitOn ':' with
  | path :: dir :: rest => some (String.ofList path, String.ofList ([':'].intercalate (dir :: rest)))
  | _ => none

/-- The service of `--serve-dir`, under its path. -/
def staticFiles (platform : Platform Certificate PrivateKey E σ) (serveDir : Option String) :
    Except String (List (String × Service Val σ)) :=
  match serveDir with
  | none => .ok []
  | some arg =>
    match splitColon arg with
    | some (path, dir) => .ok [(path, platform.files dir)]
    | none => .error "--serve-dir format: PATH:DIRECTORY (e.g., /ui:./webui/dist)"

def serve (platform : Platform Certificate PrivateKey E σ) (cli : Cli)
    (authenticator : Authenticator Val) (authorizer : Authorizer Val (Val authenticator.identity)) :
    Except String (Serving Certificate PrivateKey σ) := do
  let uri ← (platform.parseUri cli.url).mapError fun _ => "invalid --url " ++ cli.url.quote
  let authority ← uri.authority.elim
    (.error "--url must include host:port (e.g., http://localhost:7690/sovd)") .ok
  let listener ← configureListener platform cli authority
  let tlsConfig ← cli.tls.build platform.rustls
  let cors ← createCorsLayer platform.corsParses cli.cors
  let services ← staticFiles platform cli.serveDir
  let server : Server Certificate PrivateKey σ := {
    listener
    base := ⟨uri.path, uri.scheme⟩
    authenticator
    authorizer
    -- the trace layer around it only logs
    layer := corsLayer (cors.map platform.cors)
    services
    tlsConfig }
  server.serve platform

def noAuth : Authenticator Val := { identity := .unit, authenticate := fun _ => .ok () }

def jwtAuth (platform : Platform Certificate PrivateKey E σ) (self : JwtAuthenticator) :
    Authenticator Val where
  identity := .claims
  authenticate := self.authenticate platform.decodeJwt

/-- The policies are only loaded when there is a JWT secret. -/
def run (platform : Platform Certificate PrivateKey E σ) (cli : Cli) :
    Except String (Serving Certificate PrivateKey σ) :=
  match cli.auth.jwtKey with
  | some key => do
    let authenticator ← createJwtAuthenticator platform key cli.auth
    if cli.auth.policy.isEmpty then
      serve platform cli (jwtAuth platform authenticator) allowAll
    else
      let authorizer ← createRegoAuthorizer platform cli.auth
      serve platform cli (jwtAuth platform authenticator) authorizer.authorize
  | none => serve platform cli noAuth allowAll

end OpenSovd.Gateway
