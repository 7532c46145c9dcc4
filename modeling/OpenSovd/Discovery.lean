import Mathlib.Data.Seq.Basic
import OpenSovd.Topology
import OpenSovd.Support.RwLock

/-! Discovery: one task merges the streams of all providers and applies each
diff under one write guard, its removals first and then its components, apps
and areas. The merge may pick any stream that has an item ready, and a shutdown
may cancel the task at every await: while it starts a provider, waits for an
item, or waits for the lock. It never awaits while it holds the guard. -/
namespace OpenSovd.Discovery
open OpenSovd.Support OpenSovd.Entity OpenSovd.Topology
open RwLock (Locked)

inductive DiscoveryError where
  | transport (message : String)
  | invalidResponse (message : String)
  | other (message : String)

/-- What to remove, and what to add after that. -/
abbrev Diff (P : Type) := List EntityRef × EntityCollection P

abbrev DiscoveryStream (P : Type) := Stream'.Seq (Except DiscoveryError (Diff P))

/-- A provider, by what its `discover` returns. -/
structure DiscoveryProvider (P : Type) where
  discover : Except DiscoveryError (DiscoveryStream P)

variable {P : Type}

/-- The guard call that removes what a reference names. -/
def removeOp (entityRef : EntityRef) : TopologyOp P :=
  match entityRef.kind with
  | .component => .removeComponent entityRef.id
  | .app => .removeApp entityRef.id
  | .area => .removeArea entityRef.id

/-- The guard calls of one diff, in the order the task makes them. -/
def diffOps (diff : Diff P) : List (TopologyOp P) :=
  diff.1.map removeOp ++ diff.2.components.map .addComponent ++ diff.2.apps.map .addApp ++
    diff.2.areas.map .addArea

/-- The streams of the providers that started; the errors are only logged. -/
def streams (providers : List (DiscoveryProvider P)) : List (DiscoveryStream P) :=
  providers.filterMap fun provider => provider.discover.toOption

/-- Where the task stands. -/
inductive Phase (P : Type) where
  | starting (awaited : Nat)
  | polling
  | locking (provider : Nat) (diff : Diff P)
  | applying (provider : Nat) (diff : Diff P) (rest : List (TopologyOp P))
  | stopped

/-- Whose batch it is: a diff of some provider, or anybody else's. -/
inductive Origin (P : Type) where
  | diff (provider : Nat) (diff : Diff P)
  | other

/-- The shared topology, the discovery task and how many items it has taken
from each stream. -/
structure System (P κ ρ : Type) where
  lock : Locked (TopologyState P) (TopologyOp P) (Origin P) κ ρ
  phase : Phase P
  taken : Nat → Nat

/-- The phases in which the task is suspended at an await. -/
def Phase.Awaits : Phase P → Prop
  | .starting _ | .polling | .locking _ _ => True
  | .applying _ _ _ | .stopped => False

variable {κ ρ : Type} [DecidableEq κ]

def start (topology : TopologyState P) : System P κ ρ :=
  ⟨.new topology, .starting 0, fun _ => 0⟩

/-- The item at the head of what is left of a provider's stream. -/
def nextItem (providers : List (DiscoveryProvider P)) (taken : Nat → Nat) (p : Nat) :
    Option (Except DiscoveryError (Diff P)) :=
  match providers[p]? with
  | some ⟨.ok stream⟩ => stream.get? (taken p)
  | _ => none

/-- `run_discovery` among any other users of the lock. -/
inductive Step (providers : List (DiscoveryProvider P)) :
    System P κ ρ → System P κ ρ → Prop where
  | elsewhere {t lock who} (foreign : ∀ p diff, who ≠ some (.diff p diff))
      (step : RwLock.Step TopologyState.perform who t.lock lock) :
      Step providers t { t with lock := lock }
  | discover {t n} (here : t.phase = .starting n) (more : n < providers.length) :
      Step providers t { t with phase := .starting (n + 1) }
  | noStreams {t} (here : t.phase = .starting providers.length) (idle : streams providers = []) :
      Step providers t { t with phase := .stopped }
  | merge {t} (here : t.phase = .starting providers.length) (busy : streams providers ≠ []) :
      Step providers t { t with phase := .polling }
  | receive {t p diff} (here : t.phase = .polling)
      (item : nextItem providers t.taken p = some (.ok diff)) :
      Step providers t { t with
        phase := .locking p diff, taken := Function.update t.taken p (t.taken p + 1) }
  | skip {t p error} (here : t.phase = .polling)
      (item : nextItem providers t.taken p = some (.error error)) :
      Step providers t { t with taken := Function.update t.taken p (t.taken p + 1) }
  | ended {t} (here : t.phase = .polling) (drained : ∀ p, nextItem providers t.taken p = none) :
      Step providers t { t with phase := .stopped }
  | acquire {t p diff} (here : t.phase = .locking p diff) (free : t.lock.writer = none)
      (unread : ∀ reader, t.lock.reading reader = none) :
      Step providers t { t with
        lock := t.lock.acquire (.diff p diff), phase := .applying p diff (diffOps diff) }
  | apply {t p diff op rest batch} (here : t.phase = .applying p diff (op :: rest))
      (held : t.lock.writer = some (.diff p diff, batch)) :
      Step providers t { t with
        lock := t.lock.write TopologyState.perform (.diff p diff) batch op
        phase := .applying p diff rest }
  | release {t p diff batch} (here : t.phase = .applying p diff [])
      (held : t.lock.writer = some (.diff p diff, batch)) :
      Step providers t { t with lock := t.lock.release (.diff p diff) batch, phase := .polling }
  | shutdown {t} (suspended : t.phase.Awaits) : Step providers t { t with phase := .stopped }

abbrev Steps (providers : List (DiscoveryProvider P)) :
    System P κ ρ → System P κ ρ → Prop :=
  Relation.ReflTransGen (Step providers)

/-- The diffs of a provider among some batches, in their order. -/
def applied (p : Nat) (batches : List (Origin P × List (TopologyOp P))) : List (Diff P) :=
  batches.filterMap fun batch => match batch.1 with
    | .diff q diff => if q = p then some diff else none
    | .other => none

/-- The successful items among the first `n` of a provider's stream. -/
def successful (providers : List (DiscoveryProvider P)) (p n : Nat) : List (Diff P) :=
  match providers[p]? with
  | some ⟨.ok stream⟩ => (stream.take n).filterMap Except.toOption
  | _ => []

/-- The diff the task has taken from a provider and not completed yet. -/
def inFlight (p : Nat) : Phase P → List (Diff P)
  | .locking q diff | .applying q diff _ => if q = p then [diff] else []
  | _ => []

end OpenSovd.Discovery
