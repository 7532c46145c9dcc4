import OpenSovd.TopologyRuns

/-! Hosting seen from both sides: the app registry records a host for every
app, and a secondary index lists the apps of every component. The index is
complete after every run, since nothing drops a component's entry; it is exact
for as long as no app is overwritten under another host, because only a
removal takes an id out of the index. -/
namespace OpenSovd.HostingProofs
open OpenSovd.Support OpenSovd.Entity OpenSovd.Topology OpenSovd.TopologyRuns
open TopologyState IndexedTable

variable {P : Type} {s : TopologyState P}

/-- The two views of hosting agree: a component lists exactly the registered
apps that name it as their host, each once, and an app resolves to a
registered component exactly when that component lists it. -/
structure HostingAgrees (s : TopologyState P) : Prop where
  hosted : ∀ c a, a ∈ (s.appsOfComponent c).map App.id ↔
    ∃ app, s.getApp a = .ok app ∧ app.componentId = some c
  once : ∀ c, ((s.appsOfComponent c).map App.id).Nodup
  located : ∀ c component a, s.getComponent c = .ok component →
    (s.componentOfApp a = .ok (some component) ↔ a ∈ (s.appsOfComponent c).map App.id)

/-- The call does not move a registered app to another host. -/
def KeepsHost (s : TopologyState P) : TopologyOp P → Prop
  | .addApp app => ∀ current, s.apps.get app.id = some current →
      current.componentId = app.componentId
  | _ => True

/-- Nothing drops an entry of the hosting index. -/
theorem hosting_filed (ops : List (TopologyOp P)) :
    Filed App.componentId (hosting.table (after ops)) := by
  refine hosting.filed_of_never_dropped (fun s op group dropped => ?_) ops
  cases op <;> cases dropped

theorem keepsGroup_of_keepsHost {op : TopologyOp P} (kept : KeepsHost s op)
    (call : TableCall String (App P) String) (made : hosting.call s op = some call) :
    KeepsGroup App.componentId (hosting.table s) call := by
  cases op with
  | addApp app =>
    cases made
    exact kept
  | removeApp id =>
    cases made
    trivial
  | _ => cases made

/-- A filed and exact index is what makes the two views agree. -/
theorem hosting_agrees_of_exact {ops : List (TopologyOp P)}
    (exactly : Exact App.componentId (hosting.table (after ops))) :
    HostingAgrees (after ops) := by
  have hosted : ∀ c a, a ∈ ((after ops).appsOfComponent c).map App.id ↔
      ∃ app, (after ops).apps.get a = some app ∧ app.componentId = some c := by
    intro c a
    refine (mem_listed_keys (hosting_keyed ops)).trans ⟨fun both => exactly c a both.1, ?_⟩
    rintro ⟨app, held, host⟩
    exact ⟨hosting_filed ops a app c held host, app, held⟩
  refine ⟨fun c a => ?_, listed_keys_nodup (hosting_keyed ops), fun c component a registered => ?_⟩
  · simpa only [getApp_eq_ok_iff] using hosted c a
  · rw [getComponent_eq_ok_iff] at registered
    rw [hosted c a]
    cases held : (after ops).apps.get a with
    | none => simp [componentOfApp, held]
    | some app =>
      simp only [componentOfApp, held, App.componentId, Except.ok.injEq, Option.some.injEq,
        exists_eq_left']
      constructor
      · intro resolved
        have keyed := componentAreas_keyed ops
        rw [← keyed _ _ resolved, keyed _ _ registered]
      · rintro rfl
        exact registered

/-- Moving a registered app to another host leaves it listed by both. -/
theorem rehosting_breaks_agreement (ops : List (TopologyOp P)) {op : TopologyOp P}
    (moved : ¬ KeepsHost (after ops) op) : ¬ HostingAgrees ((after ops).perform op) := by
  cases op with
  | addApp added =>
    simp only [KeepsHost, not_forall, exists_prop] at moved
    obtain ⟨current, held, different⟩ := moved
    intro agrees
    have filed := hosting_filed ops added.id current _ held rfl
    have listed := moved_key_stays_filed App.componentId (hosting_keyed ops) rfl filed
    obtain ⟨app, found, host⟩ := (agrees.hosted _ _).mp listed
    rw [getApp_eq_ok_iff] at found
    simp only [perform_addApp, insertApp, OrderedMap.get_insert, ↓reduceIte, Option.some.injEq]
      at found
    exact different (found ▸ host.symm)
  | _ => exact absurd trivial moved

/-- **Hosting is one relation seen from two sides** in every state a run
reaches, exactly when no call of the run overwrites a registered app under
another host. -/
theorem hosting_agrees_iff_hosts_kept (ops : List (TopologyOp P)) :
    (∀ done rest, ops = done ++ rest → HostingAgrees (after done)) ↔
      ∀ done op rest, ops = done ++ op :: rest → KeepsHost (after done) op := by
  constructor
  · intro agrees done op rest shape
    by_contra moved
    have broken := rehosting_breaks_agreement done moved
    rw [← after_append_singleton] at broken
    exact broken (agrees (done ++ [op]) rest (by simp [shape]))
  · intro kept done rest shape
    refine hosting_agrees_of_exact (hosting.exact_of_groups_kept ?_)
    intro early op late split
    exact keepsGroup_of_keepsHost (kept early op (late ++ rest) (by simp [shape, split]))

/-- An app first announced on `c1` and then overwritten as located on `c2` is
still listed by `c1`. -/
theorem rehosted_app_is_listed_by_its_old_host :
    ¬ HostingAgrees (after [.addApp { id := "a", name := "A", isLocatedOn := "c1" },
      .addApp { id := "a", name := "A", isLocatedOn := "c2" }] : TopologyState Unit) := by
  intro agrees
  have listed := (agrees.hosted "c1" "a").mp (by decide)
  obtain ⟨app, found, host⟩ := listed
  cases found
  exact absurd host (by decide)

end OpenSovd.HostingProofs
