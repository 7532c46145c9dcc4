import Mathlib.Data.List.Nodup
import Mathlib.Data.List.Perm.Basic

/-! Insertion-ordered maps and sets, and an index that groups members under a
key. An insert on a present key keeps its slot, and a removal keeps the order
of the rest. Key uniqueness is a field, so a map with two slots for one key
cannot be built. -/
namespace OpenSovd.Support

/-- A map whose entries keep the order of first insertion. -/
structure OrderedMap (α β : Type) where
  entries : List (α × β)
  nodup : (entries.map Prod.fst).Nodup

namespace OrderedMap
variable {α β : Type}

def empty : OrderedMap α β := ⟨[], List.nodup_nil⟩

def keys (m : OrderedMap α β) : List α := m.entries.map Prod.fst

def values (m : OrderedMap α β) : List β := m.entries.map Prod.snd

def isEmpty (m : OrderedMap α β) : Bool := m.entries.isEmpty

variable [DecidableEq α]

def get (m : OrderedMap α β) (key : α) : Option β :=
  (m.entries.find? fun entry => entry.1 = key).map Prod.snd

/-- The entries after an insert: a present key keeps its slot. -/
def insertEntries (entries : List (α × β)) (key : α) (value : β) : List (α × β) :=
  if key ∈ entries.map Prod.fst then
    entries.map fun entry => if entry.1 = key then (key, value) else entry
  else entries ++ [(key, value)]

theorem insertEntries_keys (entries : List (α × β)) (key : α) (value : β) :
    (insertEntries entries key value).map Prod.fst =
      if key ∈ entries.map Prod.fst then entries.map Prod.fst
      else entries.map Prod.fst ++ [key] := by
  unfold insertEntries
  split
  · rw [List.map_map]
    apply List.map_congr_left
    intro entry _
    simp only [Function.comp_apply]
    split
    · rename_i same
      exact same.symm
    · rfl
  · simp

def insert (m : OrderedMap α β) (key : α) (value : β) : OrderedMap α β where
  entries := insertEntries m.entries key value
  nodup := by
    rw [insertEntries_keys]
    split
    · exact m.nodup
    · rename_i fresh
      exact List.Nodup.append m.nodup (List.nodup_singleton key)
        (List.disjoint_singleton.mpr fresh)

/-- `shift_remove`: the entries behind the removed one move up. -/
def shiftRemove (m : OrderedMap α β) (key : α) : OrderedMap α β where
  entries := m.entries.filter fun entry => entry.1 ≠ key
  nodup := m.nodup.sublist ((List.filter_sublist).map Prod.fst)

/-- Lookup is membership in the entry list, because no key has two slots. -/
theorem get_eq_some_iff {m : OrderedMap α β} {key : α} {value : β} :
    m.get key = some value ↔ (key, value) ∈ m.entries := by
  obtain ⟨entries, nodup⟩ := m
  simp only [get]
  induction entries with
  | nil => simp
  | cons head rest ih =>
    obtain ⟨fresh, restNodup⟩ := List.nodup_cons.mp nodup
    by_cases same : head.1 = key
    · subst same
      simp only [List.find?_cons, decide_true, Option.map_some, Option.some.injEq, List.mem_cons]
      constructor
      · rintro rfl
        exact Or.inl rfl
      · rintro (here | later)
        · rw [← here]
        · exact absurd (List.mem_map_of_mem (f := Prod.fst) later) fresh
    · simp only [List.find?_cons, same, decide_false, List.mem_cons]
      rw [ih restNodup]
      constructor
      · exact Or.inr
      · rintro (here | later)
        · exact absurd (congrArg Prod.fst here).symm same
        · exact later

theorem get_eq_none_iff {m : OrderedMap α β} {key : α} : m.get key = none ↔ key ∉ m.keys := by
  constructor
  · intro missing present
    obtain ⟨⟨_, value⟩, member, rfl⟩ := List.mem_map.mp present
    rw [get_eq_some_iff.mpr member] at missing
    cases missing
  · intro missing
    cases found : m.get key with
    | none => rfl
    | some value =>
      exact absurd (List.mem_map_of_mem (f := Prod.fst) (get_eq_some_iff.mp found)) missing

@[simp] theorem get_empty (key : α) : (empty : OrderedMap α β).get key = none := rfl

theorem mem_insert_entries {m : OrderedMap α β} {key probe : α} {value found : β} :
    (probe, found) ∈ (m.insert key value).entries ↔
      (probe = key ∧ found = value) ∨ (probe ≠ key ∧ (probe, found) ∈ m.entries) := by
  simp only [insert, insertEntries]
  split
  · rename_i present
    simp only [List.mem_map]
    constructor
    · rintro ⟨entry, member, shape⟩
      split at shape
      · rename_i same
        cases shape
        exact Or.inl ⟨rfl, rfl⟩
      · rename_i other
        subst shape
        exact Or.inr ⟨other, member⟩
    · rintro (⟨rfl, rfl⟩ | ⟨other, member⟩)
      · obtain ⟨entry, member, same⟩ := List.mem_map.mp present
        exact ⟨entry, member, by rw [if_pos same]⟩
      · exact ⟨(probe, found), member, by rw [if_neg other]⟩
  · rename_i fresh
    simp only [List.mem_append, List.mem_singleton, Prod.mk.injEq]
    constructor
    · rintro (member | new)
      · refine Or.inr ⟨?_, member⟩
        rintro rfl
        exact fresh (List.mem_map_of_mem (f := Prod.fst) member)
      · exact Or.inl new
    · rintro (new | ⟨_, member⟩)
      · exact Or.inr new
      · exact Or.inl member

@[simp] theorem get_insert (m : OrderedMap α β) (key probe : α) (value : β) :
    (m.insert key value).get probe = if probe = key then some value else m.get probe := by
  apply Option.ext
  intro found
  rw [get_eq_some_iff, mem_insert_entries]
  split
  · rename_i same
    simp [same, eq_comm]
  · rename_i other
    simp [other, get_eq_some_iff]

@[simp] theorem get_shiftRemove (m : OrderedMap α β) (key probe : α) :
    (m.shiftRemove key).get probe = if probe = key then none else m.get probe := by
  apply Option.ext
  intro found
  rw [get_eq_some_iff]
  simp only [shiftRemove, List.mem_filter, decide_eq_true_eq]
  split
  · rename_i same
    simp [same]
  · rename_i other
    simp [other, get_eq_some_iff]

theorem mem_keys_iff {m : OrderedMap α β} {key : α} :
    key ∈ m.keys ↔ ∃ value, m.get key = some value := by
  rw [← Option.isSome_iff_exists, Option.isSome_iff_ne_none, ne_eq, get_eq_none_iff, not_not]

theorem mem_values_iff {m : OrderedMap α β} {value : β} :
    value ∈ m.values ↔ ∃ key, m.get key = some value := by
  simp only [values, List.mem_map, get_eq_some_iff, Prod.exists, exists_eq_right]

theorem mem_keys_insert {m : OrderedMap α β} {key probe : α} {value : β} :
    probe ∈ (m.insert key value).keys ↔ probe = key ∨ probe ∈ m.keys := by
  simp only [mem_keys_iff, get_insert]
  by_cases same : probe = key <;> simp [same]

theorem mem_keys_shiftRemove {m : OrderedMap α β} {key probe : α} :
    probe ∈ (m.shiftRemove key).keys ↔ probe ∈ m.keys ∧ probe ≠ key := by
  simp only [mem_keys_iff, get_shiftRemove]
  by_cases same : probe = key <;> simp [same]

/-- A fresh key goes behind the others. -/
theorem insert_entries_of_fresh {m : OrderedMap α β} {key : α} {value : β}
    (fresh : m.get key = none) : (m.insert key value).entries = m.entries ++ [(key, value)] := by
  have absent : key ∉ m.entries.map Prod.fst := get_eq_none_iff.mp fresh
  simp only [insert, insertEntries, if_neg absent]

/-- A present key keeps its slot, and no other slot changes. -/
theorem insert_entries_of_present {m : OrderedMap α β} {key : α} {old value : β}
    (held : m.get key = some old) :
    (m.insert key value).entries =
      m.entries.map fun entry => if entry.1 = key then (key, value) else entry := by
  have present : key ∈ m.entries.map Prod.fst := mem_keys_iff.mpr ⟨old, held⟩
  simp only [insert, insertEntries, if_pos present]

/-- Putting back what a key holds changes nothing. -/
theorem insert_of_get {m : OrderedMap α β} {key : α} {value : β} (held : m.get key = some value) :
    m.insert key value = m := by
  obtain ⟨entries, nodup⟩ := m
  have same : (insert ⟨entries, nodup⟩ key value).entries = entries := by
    rw [insert_entries_of_present held]
    refine (List.map_congr_left fun entry member => ?_).trans (List.map_id entries)
    obtain ⟨probe, found⟩ := entry
    split
    · rename_i here
      subst here
      have both := (get_eq_some_iff (m := ⟨entries, nodup⟩)).mpr member
      rw [held] at both
      cases both
      rfl
    · rfl
  cases built : insert ⟨entries, nodup⟩ key value
  rw [built] at same
  cases same
  rfl

/-- Removing an absent key changes nothing. -/
theorem shiftRemove_of_missing {m : OrderedMap α β} {key : α} (missing : m.get key = none) :
    m.shiftRemove key = m := by
  obtain ⟨entries, nodup⟩ := m
  have same : entries.filter (fun entry => entry.1 ≠ key) = entries := by
    refine List.filter_eq_self.mpr fun entry member => decide_eq_true ?_
    rintro rfl
    exact get_eq_none_iff.mp missing (List.mem_map_of_mem (f := Prod.fst) member)
  simp only [shiftRemove, same]

theorem keys_insert (m : OrderedMap α β) (key : α) (value : β) :
    (m.insert key value).keys = if key ∈ m.keys then m.keys else m.keys ++ [key] :=
  insertEntries_keys m.entries key value

theorem keys_shiftRemove (m : OrderedMap α β) (key : α) :
    (m.shiftRemove key).keys = m.keys.filter fun other => other ≠ key := by
  simp only [keys, shiftRemove, List.filter_map]
  rfl

/-! ### Values under the same keys -/

section MapValues
variable {γ : Type}

omit [DecidableEq α] in
theorem eq_of_entries {m other : OrderedMap α β} (same : m.entries = other.entries) : m = other := by
  obtain ⟨entries, nodup⟩ := m
  cases same
  rfl

def mapValues (f : β → γ) (m : OrderedMap α β) : OrderedMap α γ where
  entries := m.entries.map fun entry => (entry.1, f entry.2)
  nodup := by
    rw [List.map_map]
    exact m.nodup

theorem get_mapValues (f : β → γ) (m : OrderedMap α β) (key : α) :
    (m.mapValues f).get key = (m.get key).map f := by
  unfold get mapValues
  rw [List.find?_map, Option.map_map, Option.map_map]
  rfl

theorem mapValues_insert (f : β → γ) (m : OrderedMap α β) (key : α) (value : β) :
    (m.insert key value).mapValues f = (m.mapValues f).insert key (f value) := by
  have keys : (m.mapValues f).entries.map Prod.fst = m.entries.map Prod.fst := by
    simp [mapValues, List.map_map, Function.comp_def]
  refine eq_of_entries ?_
  simp only [insert, insertEntries, keys]
  simp only [mapValues]
  split
  · simp only [List.map_map]
    refine List.map_congr_left fun entry _ => ?_
    simp only [Function.comp_apply]
    split <;> rfl
  · simp

theorem mapValues_shiftRemove (f : β → γ) (m : OrderedMap α β) (key : α) :
    (m.shiftRemove key).mapValues f = (m.mapValues f).shiftRemove key := by
  refine eq_of_entries ?_
  simp only [mapValues, shiftRemove, List.filter_map]
  rfl

theorem mapValues_congr {f g : β → γ} {m : OrderedMap α β}
    (same : ∀ key value, m.get key = some value → f value = g value) :
    m.mapValues f = m.mapValues g := by
  refine eq_of_entries (List.map_congr_left fun entry member => ?_)
  rw [same entry.1 entry.2 (get_eq_some_iff.mpr member)]

/-- When one value changes its image, that is an insert. -/
theorem mapValues_changed {f g : β → γ} {m : OrderedMap α β} {key : α} {value : β}
    (held : m.get key = some value)
    (same : ∀ other found, m.get other = some found → other ≠ key → g found = f found) :
    m.mapValues g = (m.mapValues f).insert key (g value) := by
  have image : (m.mapValues f).get key = some (f value) := by rw [get_mapValues, held]; rfl
  refine eq_of_entries ?_
  rw [insert_entries_of_present image]
  simp only [mapValues, List.map_map]
  refine List.map_congr_left fun entry member => ?_
  have here := get_eq_some_iff.mpr member
  simp only [Function.comp_apply]
  split
  · rename_i equal
    rw [equal, held] at here
    cases here
    rw [equal]
  · rename_i other
    rw [same entry.1 entry.2 here other]

end MapValues

end OrderedMap

/-- A set whose members keep the order of first insertion. -/
structure OrderedSet (α : Type) where
  members : List α
  nodup : members.Nodup

namespace OrderedSet
variable {α : Type}

def empty : OrderedSet α := ⟨[], List.nodup_nil⟩

def isEmpty (s : OrderedSet α) : Bool := s.members.isEmpty

variable [DecidableEq α]

def insert (s : OrderedSet α) (member : α) : OrderedSet α :=
  if fresh : member ∈ s.members then s
  else ⟨s.members ++ [member], List.Nodup.append s.nodup (List.nodup_singleton member)
    (List.disjoint_singleton.mpr fresh)⟩

def shiftRemove (s : OrderedSet α) (member : α) : OrderedSet α :=
  ⟨s.members.filter fun other => other ≠ member, s.nodup.sublist List.filter_sublist⟩

@[simp] theorem mem_insert {s : OrderedSet α} {member probe : α} :
    probe ∈ (s.insert member).members ↔ probe = member ∨ probe ∈ s.members := by
  unfold insert
  split
  · rename_i present
    constructor
    · exact Or.inr
    · rintro (rfl | held)
      · exact present
      · exact held
  · simp [or_comm]

@[simp] theorem mem_shiftRemove {s : OrderedSet α} {member probe : α} :
    probe ∈ (s.shiftRemove member).members ↔ probe ≠ member ∧ probe ∈ s.members := by
  simp [shiftRemove, and_comm]

end OrderedSet

/-- An index from a group to the members filed under it. A group whose last
member leaves is dropped from the index. -/
abbrev GroupIndex (α β : Type) := OrderedMap α (OrderedSet β)

namespace GroupIndex
variable {α β : Type} [DecidableEq α]

/-- `get(group).into_iter().flatten()`. -/
def membersOf (index : GroupIndex α β) (group : α) : List β :=
  match index.get group with
  | none => []
  | some set => set.members

theorem membersOf_nodup (index : GroupIndex α β) (group : α) : (index.membersOf group).Nodup := by
  unfold membersOf
  split
  · exact List.nodup_nil
  · exact OrderedSet.nodup _

@[simp] theorem membersOf_empty (group : α) :
    membersOf (OrderedMap.empty : GroupIndex α β) group = [] := rfl

/-- Dropping a group from the index forgets its members and no others. -/
@[simp] theorem mem_shiftRemove_group {index : GroupIndex α β} {group probe : α} {found : β} :
    found ∈ GroupIndex.membersOf (index.shiftRemove group) probe ↔
      probe ≠ group ∧ found ∈ index.membersOf probe := by
  simp only [membersOf, OrderedMap.get_shiftRemove]
  by_cases same : probe = group <;> simp [same]

variable [DecidableEq β]

/-- `entry(group).or_default().insert(member)`. -/
def file (index : GroupIndex α β) (group : α) (member : β) : GroupIndex α β :=
  index.insert group (((index.get group).getD OrderedSet.empty).insert member)

/-- `get_mut(group)`, `shift_remove(member)`, and `remove(group)` once empty. -/
def unfile (index : GroupIndex α β) (group : α) (member : β) : GroupIndex α β :=
  match index.get group with
  | none => index
  | some set =>
    let rest := set.shiftRemove member
    if rest.isEmpty then index.shiftRemove group else index.insert group rest

@[simp] theorem mem_file {index : GroupIndex α β} {group probe : α} {member found : β} :
    found ∈ (index.file group member).membersOf probe ↔
      (probe = group ∧ found = member) ∨ found ∈ index.membersOf probe := by
  simp only [membersOf, file, OrderedMap.get_insert]
  by_cases same : probe = group
  · subst same
    cases held : index.get probe <;> simp [OrderedSet.empty]
  · simp [same]

@[simp] theorem mem_unfile {index : GroupIndex α β} {group probe : α} {member found : β} :
    found ∈ (index.unfile group member).membersOf probe ↔
      ¬ (probe = group ∧ found = member) ∧ found ∈ index.membersOf probe := by
  unfold unfile
  cases held : index.get group with
  | none =>
    by_cases same : probe = group
    · subst same
      simp [membersOf, held]
    · simp [same]
  | some set =>
    by_cases same : probe = group
    · subst same
      have rest : found ∈ (set.shiftRemove member).members ↔
          ¬ (True ∧ found = member) ∧ found ∈ set.members := by
        simp
      -- an emptied group is dropped, and an absent group lists nothing
      by_cases emptied : (set.shiftRemove member).isEmpty = true
      · have none : (set.shiftRemove member).members = [] := List.isEmpty_iff.mp emptied
        rw [none] at rest
        simpa [membersOf, held, emptied] using rest
      · simp [membersOf, held, emptied]
    · by_cases emptied : (set.shiftRemove member).isEmpty = true <;>
        simp [membersOf, emptied, same]

end GroupIndex
end OpenSovd.Support
