import OpenSovd.Support.IndexedTable

/-! Batches of calls on an indexed table. Removals only take out and puts only
file, so what a table holds after a batch is told by which calls are in it, and
by their order only where a key is put twice. Distinct puts may therefore come
in any order, and a batch delivered twice leaves what it left the first time,
except under a group that only the second delivery drops. -/
namespace OpenSovd.Support.IndexedTable

variable {κ ρ γ : Type} [DecidableEq κ] [DecidableEq γ] {groupOf : ρ → Option γ}
  {t u : IndexedTable κ ρ γ}

/-- The tables answer alike: every key holds the same row, and every group has
the same keys filed under it, in whatever order. -/
structure SameContents (t u : IndexedTable κ ρ γ) : Prop where
  rows : ∀ key, t.rows.get key = u.rows.get key
  index : ∀ group key, key ∈ t.index.membersOf group ↔ key ∈ u.index.membersOf group

theorem mem_listed {group : γ} {row : ρ} :
    row ∈ t.listed group ↔ ∃ key, key ∈ t.index.membersOf group ∧ t.rows.get key = some row :=
  List.mem_filterMap

theorem SameContents.mem_listed (same : SameContents t u) (group : γ) (row : ρ) :
    row ∈ t.listed group ↔ row ∈ u.listed group := by
  simp only [IndexedTable.mem_listed, same.rows, same.index]

/-! ### Puts -/

variable (groupOf) in
def putAll (t : IndexedTable κ ρ γ) (puts : List (κ × ρ)) : IndexedTable κ ρ γ :=
  puts.foldl (fun t put => t.perform groupOf (.put put.1 put.2)) t

/-- The row a key is put with last. -/
def lastPut (key : κ) (puts : List (κ × ρ)) : Option ρ :=
  (puts.filterMap fun put => if put.1 = key then some put.2 else none).getLast?

theorem lastPut_append_singleton (key : κ) (puts : List (κ × ρ)) (put : κ × ρ) :
    lastPut key (puts ++ [put]) = if put.1 = key then some put.2 else lastPut key puts := by
  unfold lastPut
  by_cases same : put.1 = key <;> simp [List.filterMap_append, same]

theorem mem_of_lastPut {key : κ} {row : ρ} {puts : List (κ × ρ)} (last : lastPut key puts = some row) :
    (key, row) ∈ puts := by
  obtain ⟨put, member, made⟩ := List.mem_filterMap.mp (List.mem_of_getLast? last)
  by_cases same : put.1 = key
  · rw [if_pos same, Option.some.injEq] at made
    rwa [← same, ← made]
  · rw [if_neg same] at made
    cases made

theorem exists_lastPut {key : κ} {puts : List (κ × ρ)} :
    (∃ row, lastPut key puts = some row) ↔ ∃ row, (key, row) ∈ puts := by
  constructor
  · rintro ⟨row, last⟩
    exact ⟨row, mem_of_lastPut last⟩
  · rintro ⟨row, member⟩
    have made : row ∈ puts.filterMap fun put => if put.1 = key then some put.2 else none :=
      List.mem_filterMap.mpr ⟨(key, row), member, if_pos rfl⟩
    cases last : lastPut key puts with
    | some new => exact ⟨new, rfl⟩
    | none =>
      rw [lastPut, List.getLast?_eq_none_iff] at last
      rw [last] at made
      cases made

theorem get_putAll (t : IndexedTable κ ρ γ) (puts : List (κ × ρ)) (key : κ) :
    (t.putAll groupOf puts).rows.get key = (lastPut key puts).or (t.rows.get key) := by
  induction puts using List.reverseRecOn with
  | nil => rfl
  | append_singleton puts put ih =>
    have step : t.putAll groupOf (puts ++ [put]) =
        (t.putAll groupOf puts).perform groupOf (.put put.1 put.2) := by simp [putAll]
    rw [step, get_perform, lastPut_append_singleton]
    by_cases same : put.1 = key
    · simp [same]
    · simp [same, Ne.symm same, ih]

theorem mem_index_putAll (t : IndexedTable κ ρ γ) (puts : List (κ × ρ)) (group : γ) (key : κ) :
    key ∈ (t.putAll groupOf puts).index.membersOf group ↔
      (∃ row, (key, row) ∈ puts ∧ groupOf row = some group) ∨ key ∈ t.index.membersOf group := by
  induction puts using List.reverseRecOn with
  | nil => simp [putAll]
  | append_singleton puts put ih =>
    have step : t.putAll groupOf (puts ++ [put]) =
        (t.putAll groupOf puts).perform groupOf (.put put.1 put.2) := by simp [putAll]
    rw [step, mem_index_perform, ih]
    constructor
    · rintro (⟨filed, rfl⟩ | ⟨row, member, filed⟩ | old)
      · exact Or.inl ⟨put.2, by simp, filed⟩
      · exact Or.inl ⟨row, List.mem_append_left _ member, filed⟩
      · exact Or.inr old
    · rintro (⟨row, member, filed⟩ | old)
      · rcases List.mem_append.mp member with earlier | last
        · exact Or.inr (Or.inl ⟨row, earlier, filed⟩)
        · cases List.mem_singleton.mp last
          exact Or.inl ⟨filed, rfl⟩
      · exact Or.inr (Or.inr old)

/-- Where every key is put once, membership tells the row of a key. -/
theorem lastPut_eq_some_iff {puts : List (κ × ρ)} (distinct : (puts.map Prod.fst).Nodup) {key : κ}
    {row : ρ} : lastPut key puts = some row ↔ (key, row) ∈ puts := by
  refine ⟨mem_of_lastPut, ?_⟩
  induction puts using List.reverseRecOn with
  | nil => exact fun member => absurd member List.not_mem_nil
  | append_singleton puts put ih =>
    intro member
    rw [List.map_append, List.map_singleton] at distinct
    obtain ⟨earlier, _, apart⟩ := List.nodup_append.mp distinct
    rw [lastPut_append_singleton]
    rcases List.mem_append.mp member with old | last
    · have other : put.1 ≠ key := by
        intro same
        exact apart key (List.mem_map_of_mem (f := Prod.fst) old) put.1 (.head _) same.symm
      rw [if_neg other]
      exact ih earlier old
    · cases List.mem_singleton.mp last
      exact if_pos rfl

/-- **Distinct puts may come in any order.** -/
theorem putAll_perm {puts puts' : List (κ × ρ)} (perm : puts.Perm puts')
    (distinct : (puts.map Prod.fst).Nodup) (t : IndexedTable κ ρ γ) :
    SameContents (t.putAll groupOf puts) (t.putAll groupOf puts') := by
  have distinct' : (puts'.map Prod.fst).Nodup := (perm.map Prod.fst).nodup_iff.mp distinct
  constructor
  · intro key
    have same : lastPut key puts = lastPut key puts' := by
      apply Option.ext
      intro row
      rw [lastPut_eq_some_iff distinct, lastPut_eq_some_iff distinct', perm.mem_iff]
    rw [get_putAll, get_putAll, same]
  · intro group key
    simp only [mem_index_putAll, perm.mem_iff]

/-! ### Removals -/

def TakesOut : TableCall κ ρ γ → Prop
  | .put _ _ => False
  | .remove _ | .drop _ => True

variable (groupOf) in
def performAll (t : IndexedTable κ ρ γ) (calls : List (TableCall κ ρ γ)) : IndexedTable κ ρ γ :=
  calls.foldl (perform groupOf) t

theorem performAll_append_singleton (t : IndexedTable κ ρ γ) (calls : List (TableCall κ ρ γ))
    (call : TableCall κ ρ γ) :
    t.performAll groupOf (calls ++ [call]) = (t.performAll groupOf calls).perform groupOf call := by
  simp [performAll]

/-- Removals keep exactly the rows whose key none of them names. -/
theorem get_takeOut (t : IndexedTable κ ρ γ) {calls : List (TableCall κ ρ γ)}
    (out : ∀ call ∈ calls, TakesOut call) {key : κ} {row : ρ} :
    (t.performAll groupOf calls).rows.get key = some row ↔
      .remove key ∉ calls ∧ t.rows.get key = some row := by
  induction calls using List.reverseRecOn with
  | nil => simp [performAll]
  | append_singleton calls call ih =>
    have earlier : ∀ call ∈ calls, TakesOut call := fun call member =>
      out call (List.mem_append_left _ member)
    rw [performAll_append_singleton, get_perform]
    cases call with
    | put own new => exact (out (.put own new) (by simp)).elim
    | drop own => simp [ih earlier]
    | remove own =>
      by_cases same : key = own
      · simp [same]
      · simp [same, ih earlier]

/-- They keep filed what was filed under no dropped group and whose row, if a
removal names the key, is of another group. -/
theorem mem_index_takeOut (t : IndexedTable κ ρ γ) {calls : List (TableCall κ ρ γ)}
    (out : ∀ call ∈ calls, TakesOut call) {group : γ} {key : κ} :
    key ∈ (t.performAll groupOf calls).index.membersOf group ↔
      key ∈ t.index.membersOf group ∧ .drop group ∉ calls ∧
        ¬ (.remove key ∈ calls ∧ ∃ row, t.rows.get key = some row ∧ groupOf row = some group) := by
  induction calls using List.reverseRecOn with
  | nil => simp [performAll]
  | append_singleton calls call ih =>
    have earlier : ∀ call ∈ calls, TakesOut call := fun call member =>
      out call (List.mem_append_left _ member)
    rw [performAll_append_singleton, mem_index_perform]
    cases call with
    | put own new => exact (out (.put own new) (by simp)).elim
    | drop own =>
      simp only [ih earlier, List.mem_append, List.mem_singleton, reduceCtorEq, or_false,
        TableCall.drop.injEq]
      tauto
    | remove own =>
      simp only [ih earlier, get_takeOut t earlier, List.mem_append, List.mem_singleton, reduceCtorEq,
        or_false, TableCall.remove.injEq]
      -- A second removal of the same key finds nothing: the first one took the row.
      by_cases same : key = own
      · subst same
        by_cases before : (.remove key : TableCall κ ρ γ) ∈ calls
        · simp [before]
        · simp only [before, false_and, not_false_eq_true, true_and, and_true, or_true]
          tauto
      · simp [same]

/-! ### A batch of removals and puts, delivered again -/

variable {outs outs' : List (TableCall κ ρ γ)} {puts : List (κ × ρ)}

/-- Both deliveries leave the same rows. -/
theorem get_redelivered (t : IndexedTable κ ρ γ) (out : ∀ call ∈ outs, TakesOut call)
    (out' : ∀ call ∈ outs', TakesOut call)
    (named : ∀ key, .remove key ∈ outs' ↔ .remove key ∈ outs) (key : κ) :
    (((t.performAll groupOf outs).putAll groupOf puts).performAll groupOf outs' |>.putAll groupOf
      puts).rows.get key = ((t.performAll groupOf outs).putAll groupOf puts).rows.get key := by
  rw [get_putAll _ _ key, get_putAll _ _ key]
  cases last : lastPut key puts with
  | some row => rfl
  | none =>
    apply Option.ext
    intro row
    simp only [Option.none_or, get_takeOut _ out', get_takeOut _ out, get_putAll, last, named]
    tauto

/-- The second delivery forgets what was filed under the groups it drops, but
for what it puts there itself. -/
theorem mem_index_redelivered (t : IndexedTable κ ρ γ) (out : ∀ call ∈ outs, TakesOut call)
    (out' : ∀ call ∈ outs', TakesOut call)
    (named : ∀ key, .remove key ∈ outs' ↔ .remove key ∈ outs) (group : γ) (key : κ) :
    key ∈ (((t.performAll groupOf outs).putAll groupOf puts).performAll groupOf outs' |>.putAll groupOf
        puts).index.membersOf group ↔
      (∃ row, (key, row) ∈ puts ∧ groupOf row = some group) ∨
        (key ∈ ((t.performAll groupOf outs).putAll groupOf puts).index.membersOf group ∧
          .drop group ∉ outs') := by
  rw [mem_index_putAll, mem_index_takeOut _ out']
  constructor
  · rintro (put | ⟨filed, undropped, -⟩)
    · exact Or.inl put
    · exact Or.inr ⟨filed, undropped⟩
  · rintro (put | ⟨filed, undropped⟩)
    · exact Or.inl put
    · by_cases put : ∃ row, (key, row) ∈ puts ∧ groupOf row = some group
      · exact Or.inl put
      · refine Or.inr ⟨filed, undropped, ?_⟩
        -- A row that is there although its key is removed was put, and by this batch.
        rintro ⟨removed, row, held, grouped⟩
        rw [get_putAll] at held
        cases last : lastPut key puts with
        | some new =>
          rw [last, Option.some_or, Option.some.injEq] at held
          exact put ⟨row, held ▸ mem_of_lastPut last, grouped⟩
        | none =>
          rw [last, Option.none_or] at held
          exact ((get_takeOut t out).mp held).1 ((named key).mp removed)

/-! ### Batches seen inside a larger state machine -/

namespace View
variable {σ α : Type} {step : σ → α → σ} {init : σ}

/-- The calls that a run makes on the table. -/
def callsAlong (view : View (κ := κ) step init groupOf) : σ → List α → List (TableCall κ ρ γ)
  | _, [] => []
  | s, op :: ops => (view.call s op).toList ++ view.callsAlong (step s op) ops

theorem table_foldl (view : View (κ := κ) step init groupOf) (ops : List α) (s : σ) :
    view.table (ops.foldl step s) = (view.table s).performAll groupOf (view.callsAlong s ops) := by
  induction ops generalizing s with
  | nil => rfl
  | cons op ops ih =>
    rw [List.foldl_cons, ih, view.simulates]
    cases made : view.call s op <;> simp [callsAlong, performAll, made]

theorem forall_callsAlong (view : View (κ := κ) step init groupOf) {p : TableCall κ ρ γ → Prop}
    {ops : List α} (each : ∀ s, ∀ op ∈ ops, ∀ call, view.call s op = some call → p call)
    (s : σ) : ∀ call ∈ view.callsAlong s ops, p call := by
  induction ops generalizing s with
  | nil => exact fun call member => absurd member List.not_mem_nil
  | cons op ops ih =>
    intro call member
    rcases List.mem_append.mp member with now | later
    · exact each s op (.head _) call (Option.mem_toList.mp now)
    · exact ih (fun s op member => each s op (List.mem_cons_of_mem _ member)) _ call later

/-- A call that a step makes or not, whatever the state, is made in a run
that has such a step. -/
theorem mem_callsAlong (view : View (κ := κ) step init groupOf) {call : TableCall κ ρ γ}
    {makes : α → Prop} {ops : List α}
    (decided : ∀ s, ∀ op ∈ ops, view.call s op = some call ↔ makes op) (s : σ) :
    call ∈ view.callsAlong s ops ↔ ∃ op ∈ ops, makes op := by
  induction ops generalizing s with
  | nil => simp [callsAlong]
  | cons op ops ih =>
    have rest := ih (fun s op member => decided s op (List.mem_cons_of_mem _ member)) (step s op)
    rw [callsAlong, List.mem_append, Option.mem_toList, decided s op (.head _), rest,
      List.exists_mem_cons_iff]

/-- A run of steps that only put leaves the table with all the puts. -/
theorem table_foldl_puts (view : View (κ := κ) step init groupOf) {put : α → Option (κ × ρ)}
    {ops : List α} (puts : ∀ s, ∀ op ∈ ops, view.call s op = (put op).map fun p => .put p.1 p.2)
    (s : σ) :
    view.table (ops.foldl step s) = (view.table s).putAll groupOf (ops.filterMap put) := by
  induction ops generalizing s with
  | nil => rfl
  | cons op ops ih =>
    have rest : ∀ s, ∀ op ∈ ops, view.call s op = (put op).map fun p => .put p.1 p.2 :=
      fun s op member => puts s op (List.mem_cons_of_mem _ member)
    rw [List.foldl_cons, ih rest, view.simulates, puts s op (.head _)]
    cases made : put op <;> simp [putAll, made]

/-- Steps that put pairwise distinct keys may come in any order. -/
theorem sameContents_of_perm (view : View (κ := κ) step init groupOf) {put : α → Option (κ × ρ)}
    {ops ops' : List α} (perm : ops.Perm ops')
    (puts : ∀ s, ∀ op ∈ ops, view.call s op = (put op).map fun p => .put p.1 p.2)
    (distinct : ((ops.filterMap put).map Prod.fst).Nodup) (s : σ) :
    SameContents (view.table (ops.foldl step s)) (view.table (ops'.foldl step s)) := by
  have puts' : ∀ s, ∀ op ∈ ops', view.call s op = (put op).map fun p => .put p.1 p.2 :=
    fun s op member => puts s op (perm.mem_iff.mpr member)
  rw [view.table_foldl_puts puts, view.table_foldl_puts puts']
  exact putAll_perm (perm.filterMap put) distinct _

end View
end OpenSovd.Support.IndexedTable
