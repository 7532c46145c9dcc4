import OpenSovd.BasePath
import OpenSovd.Http
import OpenSovd.Responses

/-! Authentication and authorization around the router. The two middlewares talk
through the extension slot of the identity's type, and `build_router` adds them
after every route is mounted, so together they are one gate in front of every
endpoint: what they refuse never reaches one. -/
namespace OpenSovd.Auth
open OpenSovd.Support OpenSovd.Provider OpenSovd.BasePath OpenSovd.Responses OpenSovd.Http
open Gates (Gate recorded mapRequest)

inductive AuthError where
  | unauthenticated
  | unauthorized
  deriving DecidableEq, Repr

/-- A 401 has no body. -/
def AuthError.intoResponse : AuthError → Http.Response
  | .unauthenticated => { status := 401 }
  | .unauthorized =>
    let body : GenericError :=
      { errorCode := .insufficientAccessRights, message := "insufficient access rights" }
    { status := 403, headers := [("content-type", "application/json")], body := .json body.toJson }

variable {Key : Type} {Val : Key → Type} {σ : Type}

/-- The key is that of the identity's type. -/
structure Authenticator (Val : Key → Type) where
  identity : Key
  authenticate : Parts Val → Except AuthError (Val identity)

abbrev Authorizer (Val : Key → Type) (I : Type) := I → Parts Val → Except AuthError Unit

/-- Accepts every identity. -/
def allowAll {I : Type} : Authorizer Val I := fun _ _ => .ok ()

/-! ### The middlewares -/

section Middlewares
variable [DecidableEq Key]

/-- `AuthenticationMiddleware::call`. -/
def authenticationLayer (authenticator : Authenticator Val) : Layer Val σ := fun inner request s =>
  match authenticator.authenticate request.parts with
  | .ok identity =>
    inner (request.insertExtension authenticator.identity identity) s
  | .error error => (error.intoResponse, s)

omit [DecidableEq Key] in
/-- `AuthorizationMiddleware::call`. -/
def authorizationLayer (identity : Key) (authorizer : Authorizer Val (Val identity)) :
    Layer Val σ := fun inner request s =>
  match request.parts.extensions.get identity with
  | none => (AuthError.unauthenticated.intoResponse, s)
  | some value =>
    match authorizer value request.parts with
    | .ok () => inner request s
    | .error error => (error.intoResponse, s)

/-! ### The router -/

/-- What the routing library decides: which of the mounted templates a request
matches, and the request as an endpoint nested below a path sees it. -/
structure Axum (Val : Key → Type) where
  select : List String → Request Val → Option Nat
  strip : String → Request Val → Request Val

/-- `Router::new()`: everything is answered with 404. -/
def newRouter : Router Val σ where
  routes := []
  fallback _ s := ({ status := 404 }, s)

def nest (axum : Axum Val) (router : Router Val σ) (path : String) (inner : Router Val σ) :
    Router Val σ :=
  let below := inner.layer (mapRequest (axum.strip path))
  router.merge { below with routes := below.routes.map fun route => (nestPath path route.1, route.2) }

/-- The service answers below the path, at it and at it with a slash. -/
def nestService (axum : Axum Val) (router : Router Val σ) (path : String) (service : Service Val σ) :
    Router Val σ :=
  let endpoint := mapRequest (axum.strip path) service
  let closed := path.toList.getLast? = some '/'
  let tail := "\x7b*__private__axum_nest_tail_param\x7d"
  { router with routes := router.routes ++
      [(if closed then path ++ tail else path ++ "/" ++ tail, endpoint), (path, endpoint)] ++
      if closed then [] else [(path ++ "/", endpoint)] }

/-- The first half of `build_router`: every route, and no layer yet. -/
def mountRoutes (axum : Axum Val) (base : Option String) (inner : Router Val σ)
    (services : List (String × Service Val σ)) : Router Val σ :=
  let router := match base with
    | some path => nest axum newRouter path inner
    | none => newRouter.merge inner
  services.foldl (fun router service => nestService axum router service.1 service.2) router

/-- The second half: the layer that is added last is the outermost. -/
def protect (authenticator : Authenticator Val)
    (authorizer : Authorizer Val (Val authenticator.identity)) (layer : Layer Val σ)
    (router : Router Val σ) : Router Val σ :=
  let router := (router.layer (authorizationLayer authenticator.identity authorizer)).layer
    (authenticationLayer authenticator)
  router.layer layer

def buildRouter (axum : Axum Val) (base : Option String) (inner : Router Val σ)
    (authenticator : Authenticator Val) (authorizer : Authorizer Val (Val authenticator.identity))
    (layer : Layer Val σ) (services : List (String × Service Val σ)) : Router Val σ :=
  protect authenticator authorizer layer (mountRoutes axum base inner services)

/-! ### One gate -/

/-- What the middlewares are for: the identity the authenticator returns, if the
authorizer accepts it for these parts, which carry it by then. -/
def verdict (authenticator : Authenticator Val)
    (authorizer : Authorizer Val (Val authenticator.identity)) (parts : Parts Val) :
    Except AuthError (Val authenticator.identity) := do
  let identity ← authenticator.authenticate parts
  authorizer identity (parts.insertExtension authenticator.identity identity)
  return identity

/-- Lets a request through with its identity, and answers the others. -/
def authGate (authenticator : Authenticator Val)
    (authorizer : Authorizer Val (Val authenticator.identity)) :
    Gate (Request Val) Http.Response := fun request =>
  match verdict authenticator authorizer request.parts with
  | .ok identity => .ok (request.insertExtension authenticator.identity identity)
  | .error error => .error error.intoResponse

variable {authenticator : Authenticator Val}
  {authorizer : Authorizer Val (Val authenticator.identity)}

/-- The authentication layer's part of it. -/
def authenticationGate (authenticator : Authenticator Val) : Gate (Request Val) Http.Response :=
  fun request =>
    match authenticator.authenticate request.parts with
    | .ok identity => .ok (request.insertExtension authenticator.identity identity)
    | .error error => .error error.intoResponse

omit [DecidableEq Key] in
/-- The authorization layer's part of it. -/
def authorizationGate (identity : Key) (authorizer : Authorizer Val (Val identity)) :
    Gate (Request Val) Http.Response := fun request =>
  match request.parts.extensions.get identity with
  | none => .error AuthError.unauthenticated.intoResponse
  | some value =>
    match authorizer value request.parts with
    | .ok () => .ok request
    | .error error => .error error.intoResponse

theorem authenticationLayer_eq_gate :
    authenticationLayer authenticator = (authenticationGate authenticator).layer (σ := σ) := by
  funext service request s
  simp only [authenticationLayer, Gate.layer, authenticationGate]
  cases authenticator.authenticate request.parts <;> rfl

omit [DecidableEq Key] in
theorem authorizationLayer_eq_gate (identity : Key) (authorizer : Authorizer Val (Val identity)) :
    authorizationLayer identity authorizer =
      (authorizationGate identity authorizer).layer (σ := σ) := by
  funext service request s
  simp only [authorizationLayer, Gate.layer, authorizationGate]
  cases request.parts.extensions.get identity with
  | none => rfl
  | some value =>
    simp only
    cases authorizer value request.parts <;> rfl

/-- What an outer layer left in the identity's slot is overwritten before the
authorizer looks. -/
theorem authGate_eq_andThen : authGate authenticator authorizer =
    (authenticationGate authenticator).andThen
      (authorizationGate authenticator.identity authorizer) := by
  funext request
  simp only [authGate, verdict, Gate.andThen, authenticationGate, authorizationGate]
  cases authenticator.authenticate request.parts with
  | error error => rfl
  | ok identity =>
    simp only [Request.insertExtension, Parts.insertExtension, Extensions.get_insert, bind,
      Except.bind]
    cases authorizer identity { request.parts with
      extensions := request.parts.extensions.insert authenticator.identity identity } <;> rfl

/-- **The two middlewares are one gate.** -/
theorem middlewares_eq_gate (service : Service Val σ) :
    authenticationLayer authenticator (authorizationLayer authenticator.identity authorizer service)
      = (authGate authenticator authorizer).layer service := by
  rw [authenticationLayer_eq_gate, authorizationLayer_eq_gate, Gate.layer_layer,
    ← authGate_eq_andThen]

/-- The gate stands in front of every endpoint. -/
theorem endpoint_protect (axum : Axum Val) (layer : Layer Val σ) (router : Router Val σ)
    (request : Request Val) :
    (protect authenticator authorizer layer router).endpoint axum.select request =
      layer ((authGate authenticator authorizer).layer (router.endpoint axum.select request)) := by
  rw [protect, Gates.Router.endpoint_layer, Gates.Router.endpoint_layer,
    Gates.Router.endpoint_layer, middlewares_eq_gate]

/-! ### What the gate keeps out -/

/-- The authenticator accepts the parts, and the authorizer accepts, for these
parts, the identity it returned. -/
def Accepted (authenticator : Authenticator Val)
    (authorizer : Authorizer Val (Val authenticator.identity)) (parts : Parts Val) : Prop :=
  ∃ identity, authenticator.authenticate parts = .ok identity ∧
    authorizer identity (parts.insertExtension authenticator.identity identity) = .ok ()

/-- One of the two refuses the parts with this error. -/
def Refused (authenticator : Authenticator Val)
    (authorizer : Authorizer Val (Val authenticator.identity)) (parts : Parts Val)
    (error : AuthError) : Prop :=
  authenticator.authenticate parts = .error error ∨
    ∃ identity, authenticator.authenticate parts = .ok identity ∧
      authorizer identity (parts.insertExtension authenticator.identity identity) = .error error

/-- The requests that an endpoint below the layers ran on. -/
def runs (axum : Axum Val) (authenticator : Authenticator Val)
    (authorizer : Authorizer Val (Val authenticator.identity))
    (layer : Layer Val (σ × List (Request Val))) (routes : Router Val σ) (request : Request Val)
    (s : σ) : List (Request Val) :=
  ((protect authenticator authorizer layer routes.recorded).call axum.select request (s, [])).2.2

theorem accepted_iff_verdict {parts : Parts Val} :
    Accepted authenticator authorizer parts ↔
      ∃ identity, verdict authenticator authorizer parts = .ok identity := by
  simp only [Accepted, verdict]
  cases authenticator.authenticate parts with
  | error error => simp [bind, Except.bind]
  | ok identity =>
    simp only [Except.ok.injEq, exists_eq_left', bind, Except.bind]
    cases authorizer identity (parts.insertExtension authenticator.identity identity) with
    | error error => simp
    | ok accepted => simp [pure, Except.pure]

theorem refused_iff_verdict {parts : Parts Val} {error : AuthError} :
    Refused authenticator authorizer parts error ↔
      verdict authenticator authorizer parts = .error error := by
  simp only [Refused, verdict]
  cases authenticator.authenticate parts with
  | error error => simp [bind, Except.bind]
  | ok identity =>
    simp only [Except.ok.injEq, exists_eq_left', reduceCtorEq, false_or, bind, Except.bind]
    cases authorizer identity (parts.insertExtension authenticator.identity identity) with
    | error error => simp
    | ok accepted => simp [pure, Except.pure]

/-- What is not accepted is refused with one error. -/
theorem refused_of_not_accepted {parts : Parts Val}
    (refused : ¬ Accepted authenticator authorizer parts) :
    ∃ error, Refused authenticator authorizer parts error := by
  rw [accepted_iff_verdict] at refused
  cases decided : verdict authenticator authorizer parts with
  | ok identity => exact absurd ⟨identity, decided⟩ refused
  | error error => exact ⟨error, refused_iff_verdict.mpr decided⟩

end Middlewares
end OpenSovd.Auth
