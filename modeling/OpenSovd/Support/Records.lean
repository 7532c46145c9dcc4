import Mathlib.Data.List.Nodup
import Mathlib.Tactic.Common

/-! Records in a self-describing format. A writer leaves out the fields that
have no value; a reader finds its fields by name or, in a sequence, by position.
It refuses a field that is given twice and ignores those it does not know, so a
record is read back whatever stands around its fields. What comes back may
differ from what was written; the settled value is the one that does not. -/
namespace OpenSovd.Support.Records

variable {J α β : Type}

/-! ### Writing -/

/-- The fields that have a value. -/
def written (slots : List (String × Option J)) : List (String × J) :=
  slots.filterMap fun slot => slot.2.map (slot.1, ·)

/-- What is given under a name. -/
def given (name : String) (fields : List (String × J)) : List J :=
  (fields.filter fun field => field.1 = name).map Prod.snd

theorem written_append (front back : List (String × Option J)) :
    written (front ++ back) = written front ++ written back :=
  List.filterMap_append

theorem given_written_of_not_mem {slots : List (String × Option J)} {name : String}
    (absent : name ∉ slots.map Prod.fst) : given name (written slots) = [] := by
  have none : (written slots).filter (fun field => field.1 = name) = [] := by
    refine List.filter_eq_nil_iff.mpr fun field member => ?_
    obtain ⟨slot, among, held⟩ := List.mem_filterMap.mp member
    obtain ⟨value, _, rfl⟩ := Option.map_eq_some_iff.mp held
    have other : slot.1 ≠ name := fun same => absent (same ▸ List.mem_map_of_mem among)
    simpa using other
  rw [given, none, List.map_nil]

/-- A field has the value of its slot, and no other. -/
theorem given_written {slots : List (String × Option J)} (distinct : (slots.map Prod.fst).Nodup)
    {name : String} {value : Option J} (slot : (name, value) ∈ slots) :
    given name (written slots) = value.toList := by
  induction slots with
  | nil => cases slot
  | cons head rest ih =>
    obtain ⟨fresh, restDistinct⟩ := List.nodup_cons.mp distinct
    have split : given name (written (head :: rest)) =
        given name (written [head]) ++ given name (written rest) := by
      rw [← List.singleton_append, written_append]
      simp [given]
    rw [split]
    rcases List.mem_cons.mp slot with rfl | later
    · rw [given_written_of_not_mem fresh]
      cases value <;> simp [given, written]
    · have other : name ∉ [head].map Prod.fst := by
        have present : name ∈ rest.map Prod.fst := List.mem_map_of_mem (f := Prod.fst) later
        simp only [List.map_cons, List.map_nil, List.mem_singleton]
        rintro rfl
        exact fresh present
      rw [given_written_of_not_mem other, ih restDistinct later, List.nil_append]

/-- Taking another field out leaves a field as it is. -/
theorem given_without {name other : String} (different : name ≠ other)
    (fields : List (String × J)) :
    given name (fields.filter fun field => field.1 ≠ other) = given name fields := by
  rw [given, given, List.filter_filter]
  congr 1
  refine List.filter_congr fun field _ => ?_
  by_cases same : field.1 = name
  · simp [same, different]
  · simp [same]

/-! ### Reading -/

/-- A record as a reader finds it. -/
inductive Source (J : Type) where
  | named (fields : List (String × J))
  | positional (items : List J)

namespace Source

/-- The value of a field, if there is one. A position cannot be left out. -/
def field (source : Source J) (position : Nat) (name : String) : Option (Option J) :=
  match source with
  | .named fields =>
    match given name fields with
    | [] => some none
    | [value] => some (some value)
    | _ => none
  | .positional items => items[position]?.map some

def required (source : Source J) (position : Nat) (name : String) (read : J → Option α) :
    Option α := do
  match ← source.field position name with
  | none => none
  | some value => read value

def optional (source : Source J) (position : Nat) (name : String) (read : J → Option (Option α)) :
    Option (Option α) := do
  match ← source.field position name with
  | none => some none
  | some value => read value

section Given
variable {fields : List (String × J)} {position : Nat} {name : String}

theorem required_of_given {held : J} (once : given name fields = [held]) (read : J → Option α) :
    (named fields).required position name read = read held := by
  simp [required, field, once]

theorem optional_of_given {value : Option J} (held : given name fields = value.toList)
    (read : J → Option (Option α)) :
    (named fields).optional position name read = value.elim (some none) read := by
  cases value <;> simp only [optional, field, held, Option.toList] <;> rfl

end Given

/-- An optional field is what its reader makes of a value, or nothing. -/
theorem optional_eq_some {source : Source J} {position : Nat} {name : String}
    {read : J → Option (Option α)} {found : Option α}
    (read_some : source.optional position name read = some found) :
    found = none ∨ ∃ value, read value = some found := by
  obtain ⟨value, _, held⟩ := Option.bind_eq_some_iff.mp read_some
  cases value with
  | none => exact Or.inl (Option.some.inj held).symm
  | some value => exact Or.inr ⟨value, held⟩

theorem required_eq_some {source : Source J} {position : Nat} {name : String}
    {read : J → Option α} {found : α} (read_some : source.required position name read = some found) :
    ∃ value, read value = some found := by
  obtain ⟨value, _, held⟩ := Option.bind_eq_some_iff.mp read_some
  cases value with
  | none => cases held
  | some value => exact ⟨value, held⟩

end Source

/-! ### Formats -/

/-- How the fields of a record type are written and read. -/
structure Format (J α : Type) where
  names : List String
  slots : α → List (String × Option J)
  read : Source J → Option α
  slots_names : ∀ value, (slots value).map Prod.fst = names
  distinct : names.Nodup

namespace Format

/-- The record as a list of named fields. -/
def fields (format : Format J α) (value : α) : List (String × J) := written (format.slots value)

/-- What is read back, wherever the fields stand. -/
def Settles (format : Format J α) (settle : α → α) : Prop :=
  ∀ value fields, (∀ slot ∈ format.slots value, given slot.1 fields = slot.2.toList) →
    format.read (.named fields) = some (settle value)

theorem slots_distinct (format : Format J α) (value : α) :
    ((format.slots value).map Prod.fst).Nodup := by
  rw [format.slots_names]
  exact format.distinct

theorem read_fields {format : Format J α} {settle : α → α} (settles : format.Settles settle)
    (value : α) : format.read (.named (format.fields value)) = some (settle value) :=
  settles value _ fun _ slot => given_written (format.slots_distinct value) slot

end Format

/-- Whatever is read is settled. -/
def Format.Stable (format : Format J α) (settle : α → α) : Prop :=
  ∀ source value, format.read source = some value → settle value = value

/-! An outer record puts a field of its own behind the fields of an inner one. -/

section Flattened
variable {format : Format J α} {settle : α → α} {outer : String}

theorem Format.flattened_distinct (foreign : outer ∉ format.names) (value : α) (held : Option J) :
    ((format.slots value ++ [(outer, held)]).map Prod.fst).Nodup := by
  rw [List.map_append, format.slots_names]
  exact List.Nodup.append format.distinct (List.nodup_singleton outer)
    (List.disjoint_singleton.mpr foreign)

theorem Format.given_outer (foreign : outer ∉ format.names) (value : α) (held : Option J) :
    given outer (written (format.slots value ++ [(outer, held)])) = held.toList :=
  given_written (flattened_distinct foreign value held)
    (List.mem_append_right _ (List.mem_singleton.mpr rfl))

/-- The inner reader ignores the outer field. -/
theorem Format.read_flattened (settles : format.Settles settle) (foreign : outer ∉ format.names)
    (value : α) (held : Option J) :
    format.read (.named (written (format.slots value ++ [(outer, held)]))) =
      some (settle value) :=
  settles value _ fun _ among =>
    given_written (flattened_distinct foreign value held) (List.mem_append_left _ among)

/-- It does not need it either. -/
theorem Format.read_without (settles : format.Settles settle) (foreign : outer ∉ format.names)
    (value : α) (held : Option J) :
    format.read (.named ((written (format.slots value ++ [(outer, held)])).filter
      fun field => field.1 ≠ outer)) = some (settle value) := by
  refine settles value _ fun slot among => ?_
  have other : slot.1 ≠ outer := by
    rintro rfl
    refine foreign ?_
    rw [← format.slots_names value]
    exact List.mem_map_of_mem among
  rw [given_without other]
  exact given_written (flattened_distinct foreign value held) (List.mem_append_left _ among)

end Flattened

/-! ### Sequences -/

/-- Items that are read back one by one are read back together. -/
theorem mapM_settles {write : α → J} {read : J → Option α} {settle : α → α} (items : List α)
    (each : ∀ item, read (write item) = some (settle item)) :
    (items.map write).mapM read = some (items.map settle) := by
  induction items with
  | nil => rfl
  | cons item rest ih =>
    rw [List.map_cons, List.mapM_cons, each, ih]
    rfl

theorem mapM_stable {read : J → Option α} {settle : α → α}
    (each : ∀ item value, read item = some value → settle value = value) {items : List J}
    {found : List α} (all : items.mapM read = some found) : found.map settle = found := by
  induction items generalizing found with
  | nil =>
    cases all
    rfl
  | cons item rest ih =>
    rw [List.mapM_cons] at all
    obtain ⟨first, head, later⟩ := Option.bind_eq_some_iff.mp all
    obtain ⟨others, tail, same⟩ := Option.bind_eq_some_iff.mp later
    cases same
    rw [List.map_cons, each item first head, ih tail]

theorem map_eq_self_iff {settle : α → α} {items : List α} :
    items.map settle = items ↔ ∀ item ∈ items, settle item = item := by
  constructor
  · intro same item member
    exact List.map_eq_map_iff.mp (same.trans (List.map_id items).symm) item member
  · intro each
    exact (List.map_congr_left each).trans (List.map_id items)

end OpenSovd.Support.Records
