import OpenSovd.Jwt

/-! The policy authorizer. A policy sees the method, the path as it was sent and
the identity. The router decodes the path before it looks for an entity, so one
resource has many spellings, and a policy can tell them apart. -/
namespace OpenSovd.Rego
open OpenSovd.Support.PercentEncoding OpenSovd.Provider OpenSovd.Routes OpenSovd.BasePath
open OpenSovd.Http OpenSovd.Auth OpenSovd.Jwt

/-- The loaded engine: a query on an input document has a truth value or fails. -/
abbrev Engine := String → Json → Except String Bool

structure RegorusAuthorizer where
  engine : Engine
  /-- A thread panicked while it held the engine's lock. -/
  poisoned : Bool := false

/-- The policy library, over its own engine type. -/
structure Regorus (E : Type) where
  new : E
  addPolicy : E → String → String → Except String E
  addData : E → String → Except String E
  evalBoolQuery : E → String → Json → Except String Bool

/-- Every policy file, then every data file. -/
def RegorusAuthorizer.fromPaths {E : Type} (regorus : Regorus E)
    (readToString : String → Except String String) (policies data : List String) :
    Except String RegorusAuthorizer := do
  let read := fun path => (readToString path).mapError fun error => path ++ ": " ++ error
  let engine ← policies.foldlM (fun engine path => do
    regorus.addPolicy engine path (← read path)) regorus.new
  let engine ← data.foldlM (fun engine path => do regorus.addData engine (← read path)) engine
  return { engine := regorus.evalBoolQuery engine }

variable {Key : Type} {Val : Key → Type}

/-- The input document. -/
def input (identity : Claims) (parts : Parts Val) : Json := .object [
  ("method", .string parts.method),
  ("path", .string parts.uri.path),
  ("identity", .object [
    ("sub", .string identity.sub),
    ("roles", .array (identity.roles.map .string)),
    ("scope", identity.scope.elim .null .string)])]

/-- An evaluation that fails denies. -/
def RegorusAuthorizer.authorize (self : RegorusAuthorizer) : Authorizer Val Claims :=
  fun identity parts =>
    if self.poisoned then .error .unauthorized
    else
      let allowed := match self.engine "data.sovd.authz.allow" (input identity parts) with
        | .ok result => result
        | .error _ => false
      if allowed then .ok () else .error .unauthorized

/-- The policy that allows one path, spelled like this. -/
def onlyPath (path : String) : RegorusAuthorizer where
  engine _ document := match document with
    | .object [_, ("path", .string sent), _] => .ok (sent = path)
    | _ => .ok false

theorem onlyPath_allows (path : String) (identity : Claims) (parts : Parts Val) :
    (onlyPath path).authorize identity parts = .ok () ↔ parts.uri.path = path := by
  simp [onlyPath, RegorusAuthorizer.authorize, input]

/-- A decision is made on the input document alone. -/
theorem authorize_eq_of_input_eq (self : RegorusAuthorizer) {left right : Parts Val}
    {first second : Claims} (same : input first left = input second right) :
    self.authorize first left = self.authorize second right := by
  simp only [RegorusAuthorizer.authorize, same]

/-- **A decision depends on the method, the identity and the path as it was
sent**: every policy decides two spellings alike exactly if they are the same. -/
theorem decisions_agree_iff_same_spelling {left right : Parts Val}
    (method : left.method = right.method) :
    (∀ (self : RegorusAuthorizer) (identity : Claims),
        self.authorize identity left = self.authorize identity right) ↔
      left.uri.path = right.uri.path := by
  constructor
  · intro agree
    have decided := agree (onlyPath right.uri.path) { sub := "tester", exp := 0 }
    have allowed := (onlyPath_allows right.uri.path { sub := "tester", exp := 0 } right).mpr rfl
    rw [← decided] at allowed
    exact (onlyPath_allows _ _ left).mp allowed
  · intro spelling self identity
    refine authorize_eq_of_input_eq self ?_
    rw [input, input, method, spelling]

/-- A `GET` of this path, with nothing else in its head. -/
def getOf (path : String) : Parts fun _ : Unit => Unit := { method := "GET", uri := { path } }

/-- The query of a request takes no part in a decision. -/
theorem query_is_not_decided_on :
    (onlyPath "/sovd/v1/components").authorize { sub := "tester", exp := 0 }
        (getOf "/sovd/v1/components") =
      (onlyPath "/sovd/v1/components").authorize { sub := "tester", exp := 0 }
        { getOf "/sovd/v1/components" with
          uri := { path := "/sovd/v1/components", query := some "tags=powertrain" } } :=
  (decisions_agree_iff_same_spelling rfl).mpr rfl _ _

/-! ### Two spellings of one resource -/

theorem reaches_ecu (spelling : String) (whole : '/' ∉ spelling.toList) (nonempty : spelling ≠ "")
    (reads : decodeBytes spelling.toList = bytes "ecu") {path : String}
    (mounted : segments path = segments (mountPath "/sovd" (innerPath ["components", spelling]))) :
    Reaches "/sovd" path (.componentCapabilities "ecu") := by
  refine ⟨["components", spelling], by simpa using whole, ?_, mounted⟩
  have read : lastParam spelling = some "ecu" := by
    rw [lastParam, if_neg nonempty, param, percentDecode_of_bytes reads]
  exact congrArg (Option.map Route.componentCapabilities) read

/-- The component `ecu` is also reached as `%65cu`, and a policy that allows the
one spelling denies the other. -/
theorem escaped_spelling_is_decided_differently :
    ¬ ∀ (self : RegorusAuthorizer) (identity : Claims) (left right : Parts fun _ : Unit => Unit)
      (route : Route), left.method = right.method → Reaches "/sovd" left.uri.path route →
      Reaches "/sovd" right.uri.path route →
      self.authorize identity left = self.authorize identity right := by
  intro blind
  have plain : Reaches "/sovd" "/sovd/v1/components/ecu" (.componentCapabilities "ecu") :=
    reaches_ecu "ecu" (by decide) (by decide) (by decide) (by decide)
  have escaped : Reaches "/sovd" "/sovd/v1/components/%65cu" (.componentCapabilities "ecu") :=
    reaches_ecu "%65cu" (by decide) (by decide) (by decide) (by decide)
  have same := blind (onlyPath "/sovd/v1/components/ecu") { sub := "tester", exp := 0 }
    (getOf "/sovd/v1/components/ecu") (getOf "/sovd/v1/components/%65cu") _ rfl plain escaped
  have allowed : (onlyPath "/sovd/v1/components/ecu").authorize { sub := "tester", exp := 0 }
      (getOf "/sovd/v1/components/ecu") = .ok () := (onlyPath_allows _ _ _).mpr rfl
  rw [allowed] at same
  exact absurd ((onlyPath_allows _ _ _).mp same.symm) (by decide)

end OpenSovd.Rego
