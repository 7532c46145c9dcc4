import OpenSovd.Support.OrderedMap
import OpenSovd.Support.Runs

/-! A table of rows with a secondary index from a group to the keys filed under
it, as three calls maintain it: a put files the key under the new row's group
and does not look at the row it replaces, a remove unfiles the key from the
group of the row it found, and a drop forgets everything filed under a group.
The index answers for the rows exactly until a put changes a live row's group;
whether a row is still filed is decided by what happened since its last put. -/
namespace OpenSovd.Support

/-- Rows by key, and the keys filed under every group. -/
structure IndexedTable (κ ρ γ : Type) where
  rows : OrderedMap κ ρ
  index : GroupIndex γ κ

inductive TableCall (κ ρ γ : Type) where
  | put (key : κ) (row : ρ)
  | remove (key : κ)
  | drop (group : γ)

namespace IndexedTable
open Runs

variable {κ ρ γ : Type} [DecidableEq κ] [DecidableEq γ]

/-- `if let Some(group) = group { index.entry(group).or_default().insert(key) }`. -/
def fileUnder (index : GroupIndex γ κ) (group : Option γ) (key : κ) : GroupIndex γ κ :=
  match group with
  | none => index
  | some group => index.file group key

/-- `if let Some(group) = group && let Some(set) = index.get_mut(group) { .. }`. -/
def unfileFrom (index : GroupIndex γ κ) (group : Option γ) (key : κ) : GroupIndex γ κ :=
  match group with
  | none => index
  | some group => index.unfile group key

theorem mem_fileUnder {index : GroupIndex γ κ} {group : Option γ} {key found : κ} {probe : γ} :
    found ∈ (fileUnder index group key).membersOf probe ↔
      (group = some probe ∧ found = key) ∨ found ∈ index.membersOf probe := by
  cases group with
  | none => simp [fileUnder]
  | some group => simp [fileUnder, eq_comm]

theorem mem_unfileFrom {index : GroupIndex γ κ} {group : Option γ} {key found : κ} {probe : γ} :
    found ∈ (unfileFrom index group key).membersOf probe ↔
      ¬ (group = some probe ∧ found = key) ∧ found ∈ index.membersOf probe := by
  cases group with
  | none => simp [unfileFrom]
  | some group => simp [unfileFrom, eq_comm]

def empty : IndexedTable κ ρ γ := ⟨.empty, .empty⟩

variable (groupOf : ρ → Option γ)

def perform (t : IndexedTable κ ρ γ) : TableCall κ ρ γ → IndexedTable κ ρ γ
  | .put key row => ⟨t.rows.insert key row, fileUnder t.index (groupOf row) key⟩
  | .remove key =>
    match t.rows.get key with
    | none => t
    | some row => ⟨t.rows.shiftRemove key, unfileFrom t.index (groupOf row) key⟩
  | .drop group => ⟨t.rows, t.index.shiftRemove group⟩

/-- The rows the index resolves for a group; unknown keys are skipped. -/
def listed (t : IndexedTable κ ρ γ) (group : γ) : List ρ :=
  (t.index.membersOf group).filterMap t.rows.get

variable {groupOf} {t : IndexedTable κ ρ γ}

/-- A call changes the rows only at its own key. -/
theorem get_perform (call : TableCall κ ρ γ) (key : κ) :
    (t.perform groupOf call).rows.get key = match call with
      | .put own row => if key = own then some row else t.rows.get key
      | .remove own => if key = own then none else t.rows.get key
      | .drop _ => t.rows.get key := by
  cases call with
  | put own row => simp [perform]
  | remove own =>
    simp only [perform]
    split
    · rename_i missing
      split
      · rename_i same
        rw [same, missing]
      · rfl
    · simp
  | drop group => rfl

theorem mem_index_perform (call : TableCall κ ρ γ) (group : γ) (key : κ) :
    key ∈ (t.perform groupOf call).index.membersOf group ↔ match call with
      | .put own row => (groupOf row = some group ∧ key = own) ∨ key ∈ t.index.membersOf group
      | .remove own =>
        ¬ (key = own ∧ ∃ row, t.rows.get own = some row ∧ groupOf row = some group) ∧
          key ∈ t.index.membersOf group
      | .drop own => group ≠ own ∧ key ∈ t.index.membersOf group := by
  cases call with
  | put own row => exact mem_fileUnder
  | remove own =>
    simp only [perform]
    split
    · rename_i missing
      simp [missing]
    · rename_i removed held
      simp only [mem_unfileFrom, held, Option.some.injEq, exists_eq_left', and_comm (a := key = own)]
  | drop own => exact GroupIndex.mem_shiftRemove_group

/-! ### Keys and listings -/

/-- Every row is stored under its own key. -/
def Keyed (keyOf : ρ → κ) (t : IndexedTable κ ρ γ) : Prop :=
  ∀ key row, t.rows.get key = some row → keyOf row = key

/-- The call stores a row under its own key. -/
def PutsOwnKey (keyOf : ρ → κ) : TableCall κ ρ γ → Prop
  | .put key row => keyOf row = key
  | _ => True

theorem keyed_perform {keyOf : ρ → κ} (keyed : Keyed keyOf t) {call : TableCall κ ρ γ}
    (own : PutsOwnKey keyOf call) : Keyed keyOf (t.perform groupOf call) := by
  intro key row held
  rw [get_perform] at held
  cases call with
  | put key' row' =>
    simp only at held
    split at held
    · rename_i same
      cases held
      exact own.trans same.symm
    · exact keyed key row held
  | remove key' =>
    simp only at held
    split at held
    · cases held
    · exact keyed key row held
  | drop group => exact keyed key row held

/-- The keys of the listed rows are the filed keys that have a row. -/
theorem keys_of_listed {keyOf : ρ → κ} (keyed : Keyed keyOf t) (group : γ) :
    (t.listed group).map keyOf =
      (t.index.membersOf group).filter fun key => (t.rows.get key).isSome := by
  unfold listed
  induction t.index.membersOf group with
  | nil => rfl
  | cons key rest ih =>
    cases held : t.rows.get key with
    | none => simp [held, ih]
    | some row => simp [held, ih, keyed key row held]

theorem mem_listed_keys {keyOf : ρ → κ} (keyed : Keyed keyOf t) {group : γ} {key : κ} :
    key ∈ (t.listed group).map keyOf ↔
      key ∈ t.index.membersOf group ∧ ∃ row, t.rows.get key = some row := by
  rw [keys_of_listed keyed, List.mem_filter, Option.isSome_iff_exists]

theorem listed_keys_nodup {keyOf : ρ → κ} (keyed : Keyed keyOf t) (group : γ) :
    ((t.listed group).map keyOf).Nodup := by
  rw [keys_of_listed keyed]
  exact (GroupIndex.membersOf_nodup _ _).filter _

/-! ### Completeness and exactness of the index -/

/-- Every live row is filed under its group. -/
def Filed (groupOf : ρ → Option γ) (t : IndexedTable κ ρ γ) : Prop :=
  ∀ key row group, t.rows.get key = some row → groupOf row = some group →
    key ∈ t.index.membersOf group

theorem filed_perform (filed : Filed groupOf t) {call : TableCall κ ρ γ}
    (undropped : ∀ group, call ≠ .drop group) : Filed groupOf (t.perform groupOf call) := by
  intro key row group held grouped
  rw [get_perform] at held
  rw [mem_index_perform]
  cases call with
  | put own new =>
    simp only at held ⊢
    split at held
    · rename_i same
      cases held
      exact Or.inl ⟨grouped, same⟩
    · exact Or.inr (filed key row group held grouped)
  | remove own =>
    simp only at held ⊢
    split at held
    · cases held
    · rename_i other
      exact ⟨fun both => other both.1, filed key row group held grouped⟩
  | drop own => exact absurd rfl (undropped own)

/-- Only live rows are filed, and only under their own group. -/
def Exact (groupOf : ρ → Option γ) (t : IndexedTable κ ρ γ) : Prop :=
  ∀ group key, key ∈ t.index.membersOf group →
    ∃ row, t.rows.get key = some row ∧ groupOf row = some group

/-- The call does not put a live key under another group. -/
def KeepsGroup (groupOf : ρ → Option γ) (t : IndexedTable κ ρ γ) : TableCall κ ρ γ → Prop
  | .put key row => ∀ current, t.rows.get key = some current → groupOf current = groupOf row
  | _ => True

theorem exact_empty : Exact groupOf (empty : IndexedTable κ ρ γ) := by
  intro group key member
  simp [empty] at member

theorem exact_perform (exactly : Exact groupOf t) {call : TableCall κ ρ γ}
    (kept : KeepsGroup groupOf t call) : Exact groupOf (t.perform groupOf call) := by
  intro group key member
  rw [mem_index_perform] at member
  rw [get_perform]
  cases call with
  | put own new =>
    simp only at member ⊢
    rcases member with ⟨filed, rfl⟩ | old
    · exact ⟨new, by simp, filed⟩
    · obtain ⟨row, held, filed⟩ := exactly group key old
      by_cases same : key = own
      · subst same
        exact ⟨new, by simp, (kept row held).symm.trans filed⟩
      · exact ⟨row, by simp [same, held], filed⟩
  | remove own =>
    simp only at member ⊢
    obtain ⟨stays, old⟩ := member
    obtain ⟨row, held, filed⟩ := exactly group key old
    have other : key ≠ own := by
      rintro rfl
      exact stays ⟨rfl, row, held, filed⟩
    exact ⟨row, by simp [other, held], filed⟩
  | drop own => exact exactly group key member.2

/-- A put leaves the key listed under every group that already listed it. -/
theorem moved_key_stays_filed (groupOf : ρ → Option γ) {keyOf : ρ → κ} {key : κ} {new : ρ} {group : γ}
    (keyed : Keyed keyOf t) (own : keyOf new = key) (filed : key ∈ t.index.membersOf group) :
    key ∈ ((t.perform groupOf (.put key new)).listed group).map keyOf := by
  have ownKey : PutsOwnKey keyOf (.put (γ := γ) key new) := own
  rw [mem_listed_keys (keyed_perform keyed ownKey), mem_index_perform, get_perform]
  exact ⟨Or.inr filed, new, by simp⟩

/-! ### Tables seen inside a larger state machine -/

/-- A table that is part of the state of a larger machine, with the call each
of the machine's steps makes on it, if any. -/
structure View {σ α : Type} (step : σ → α → σ) (init : σ) (groupOf : ρ → Option γ) where
  table : σ → IndexedTable κ ρ γ
  call : σ → α → Option (TableCall κ ρ γ)
  starts : table init = empty
  simulates : ∀ s op, table (step s op) =
    match call s op with
    | none => table s
    | some call => (table s).perform groupOf call

namespace View
variable {σ α : Type} {step : σ → α → σ} {init : σ}

/-- The step puts the key under this group. -/
def Puts (view : View (κ := κ) step init groupOf) (key : κ) (group : γ) (s : σ) (op : α) : Prop :=
  ∃ row, view.call s op = some (.put key row) ∧ groupOf row = some group

def Drops (view : View (κ := κ) step init groupOf) (group : γ) (s : σ) (op : α) : Prop :=
  view.call s op = some (.drop group)

/-- **A live row is filed under its group** exactly when no drop of that group
came after a put that filed it there. This needs no condition on the run. -/
theorem filed_iff_put_since_drop (view : View (κ := κ) step init groupOf) (ops : List α)
    {key : κ} {row : ρ} {group : γ}
    (held : (view.table (ops.foldl step init)).rows.get key = some row)
    (grouped : groupOf row = some group) :
    key ∈ (view.table (ops.foldl step init)).index.membersOf group ↔
      Since step init (view.Puts key group) (view.Drops group) ops := by
  induction ops using List.reverseRecOn generalizing row with
  | nil =>
    rw [List.foldl_nil, view.starts] at held
    simp [empty] at held
  | append_singleton ops op ih =>
    rw [foldl_append_singleton] at held ⊢
    rw [since_append_singleton]
    rw [view.simulates] at held ⊢
    cases made : view.call (ops.foldl step init) op with
    | none =>
      simp only [made] at held ⊢
      simpa [Puts, Drops, made] using ih held grouped
    | some call =>
      simp only [made] at held ⊢
      rw [get_perform] at held
      rw [mem_index_perform]
      cases call with
      | put own new =>
        simp only at held ⊢
        split at held
        · rename_i same
          cases held
          subst same
          simp [Puts, made, grouped]
        · rename_i other
          simpa [Puts, Drops, made, other, Ne.symm other] using ih held grouped
      | remove own =>
        simp only at held ⊢
        split at held
        · cases held
        · rename_i other
          simpa [Puts, Drops, made, other] using ih held grouped
      | drop own =>
        simp only at held ⊢
        rw [ih held grouped]
        simp [Puts, Drops, made, and_comm, eq_comm]

theorem filed_of_never_dropped (view : View (κ := κ) step init groupOf)
    (undropped : ∀ s op group, view.call s op ≠ some (.drop group)) (ops : List α) :
    Filed groupOf (view.table (ops.foldl step init)) := by
  refine invariant_of_run (I := fun s => Filed groupOf (view.table s)) ?_ ?_ ops
  · intro key row group held
    rw [view.starts] at held
    simp [empty] at held
  · intro s op filed
    rw [view.simulates]
    cases made : view.call s op with
    | none => exact filed
    | some call => exact filed_perform filed fun group same => undropped s op group (by rw [made, same])

/-- The index stays exact for as long as no step moves a live key to another
group. -/
theorem exact_of_groups_kept (view : View (κ := κ) step init groupOf) {ops : List α}
    (kept : Guarded step init (fun s op => ∀ call, view.call s op = some call →
      KeepsGroup groupOf (view.table s) call) ops) :
    Exact groupOf (view.table (ops.foldl step init)) := by
  refine guarded_invariant (I := fun s => Exact groupOf (view.table s)) ?_ ?_ kept
  · rw [view.starts]
    exact exact_empty
  · intro s op exactly keeps
    rw [view.simulates]
    cases made : view.call s op with
    | none => exact exactly
    | some call => exact exact_perform exactly (keeps call made)

theorem keyed_of_run (view : View (κ := κ) step init groupOf) {keyOf : ρ → κ}
    (own : ∀ s op call, view.call s op = some call → PutsOwnKey keyOf call) (ops : List α) :
    Keyed keyOf (view.table (ops.foldl step init)) := by
  refine invariant_of_run (I := fun s => Keyed keyOf (view.table s)) ?_ ?_ ops
  · intro key row held
    rw [view.starts] at held
    simp [empty] at held
  · intro s op keyed
    rw [view.simulates]
    cases made : view.call s op with
    | none => exact keyed
    | some call => exact keyed_perform keyed (own s op call made)

end View
end IndexedTable
end OpenSovd.Support
