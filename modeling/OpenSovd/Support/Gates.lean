import Mathlib.Logic.Function.Basic

/-! Services, the layers around them and routers of services. A gate is a layer
that decides on the request alone: it answers itself or hands a request on. Two
gates in a row are one gate, a layered router answers with the layered endpoint,
and behind a gate a service runs exactly on what the gate hands on. -/
namespace OpenSovd.Support.Fallible

/-- `?`: the rest runs on what the first part found. -/
theorem bind_eq_ok_iff {ε α β : Type} {first : Except ε α} {rest : α → Except ε β} {answer : β} :
    first >>= rest = .ok answer ↔ ∃ found, first = .ok found ∧ rest found = .ok answer := by
  cases first <;> simp [bind, Except.bind]

theorem map_eq_ok_iff {ε α β : Type} {wrap : α → β} {first : Except ε α} {answer : β} :
    first.map wrap = .ok answer ↔ ∃ found, first = .ok found ∧ wrap found = answer := by
  cases first <;> simp [Except.map]

end OpenSovd.Support.Fallible

namespace OpenSovd.Support.Gates

/-- A service answers a request and may change the state it serves from. -/
abbrev Service (ρ α σ : Type) := ρ → σ → α × σ

abbrev Layer (ρ α σ : Type) := Service ρ α σ → Service ρ α σ

variable {ρ α σ τ : Type}

/-- The layer that changes the request on its way in. -/
def mapRequest (change : ρ → ρ) : Layer ρ α σ := fun inner request => inner (change request)

/-- The service with a record of the requests it ran on. -/
def recorded (service : Service ρ α σ) : Service ρ α (σ × List ρ) := fun request s =>
  let answered := service request s.1
  (answered.1, answered.2, s.2 ++ [request])

/-! ### Gates -/

/-- Admits a request, possibly changed, or answers it. -/
abbrev Gate (ρ α : Type) := ρ → Except α ρ

namespace Gate

def layer (gate : Gate ρ α) : Layer ρ α σ := fun inner request s =>
  match gate request with
  | .ok admitted => inner admitted s
  | .error answer => (answer, s)

/-- The outer gate first. -/
def andThen (outer inner : Gate ρ α) : Gate ρ α := fun request =>
  match outer request with
  | .ok admitted => inner admitted
  | .error answer => .error answer

variable {gate : Gate ρ α} {request admitted : ρ} {answer : α}

/-- Two gates in a row are one gate. -/
theorem layer_layer (outer inner : Gate ρ α) (service : Service ρ α σ) :
    outer.layer (inner.layer service) = (outer.andThen inner).layer service := by
  funext request s
  simp only [layer, andThen]
  cases outer request <;> rfl

/-- A request that is not admitted is answered without looking at the service
or the state. -/
theorem layer_rejected (stopped : gate request = .error answer) (service : Service ρ α σ) (s : σ) :
    gate.layer service request s = (answer, s) := by
  simp only [layer, stopped]

end Gate

/-! ### Routers -/

/-- Endpoints under their route templates, and one for everything else. -/
structure Router (τ ρ α σ : Type) where
  routes : List (τ × Service ρ α σ)
  fallback : Service ρ α σ

namespace Router

/-- A layer goes around every endpoint that is there when it is added, the
fallback included. -/
def layer (router : Router τ ρ α σ) (layer : Layer ρ α σ) : Router τ ρ α σ where
  routes := router.routes.map fun route => (route.1, layer route.2)
  fallback := layer router.fallback

def merge (router other : Router τ ρ α σ) : Router τ ρ α σ where
  routes := router.routes ++ other.routes
  fallback := router.fallback

def recorded (router : Router τ ρ α σ) : Router τ ρ α (σ × List ρ) where
  routes := router.routes.map fun route => (route.1, Gates.recorded route.2)
  fallback := Gates.recorded router.fallback

/-- The endpoint for a request, by the position of the template it matches. -/
def endpoint (select : List τ → ρ → Option Nat) (router : Router τ ρ α σ) (request : ρ) :
    Service ρ α σ :=
  match (select (router.routes.map Prod.fst) request).bind fun index => router.routes[index]? with
  | some route => route.2
  | none => router.fallback

def call (select : List τ → ρ → Option Nat) (router : Router τ ρ α σ) : Service ρ α σ :=
  fun request s => router.endpoint select request request s

variable {select : List τ → ρ → Option Nat} {router : Router τ ρ α σ}

/-- A layered router picks the same endpoint and goes through the layer. -/
theorem endpoint_layer (wrap : Layer ρ α σ) (request : ρ) :
    (router.layer wrap).endpoint select request = wrap (router.endpoint select request) := by
  have same : (router.layer wrap).routes.map Prod.fst = router.routes.map Prod.fst := by
    simp [layer, Function.comp_def]
  simp only [endpoint, same]
  cases select (router.routes.map Prod.fst) request with
  | none => rfl
  | some index =>
    simp only [Option.bind_some, layer, List.getElem?_map]
    cases router.routes[index]? <;> rfl

end Router
end OpenSovd.Support.Gates
