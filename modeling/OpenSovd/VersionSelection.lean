import OpenSovd.Versions

/-! The client's version selection. The advertised instances are fetched once and
kept with their vendor information as it was sent; every query gives it a type
of its own. Selecting gives all of it that type first and searches then, so one
instance with foreign vendor information hides all others. -/
namespace OpenSovd.VersionSelection
open OpenSovd.Http OpenSovd.Provider OpenSovd.Versions

/-- SOVD REST client with its transport. -/
structure Client (H : Type) where
  baseUri : Uri
  timeout : Option Nat
  http : H

/-- Client error type. `request` is whatever a request fails with. -/
inductive Error where
  | noMatchingVersion
  | json
  | invalidUri
  | request
  deriving DecidableEq, Repr

structure Discovery (H : Type) where
  inner : Client H
  cache : Option (VersionInfo Json) := none

variable {H V : Type} (fetch : Client H → Except Error (VersionInfo Json))
  (parse : String → Option Uri) (decode : Json → Option V) (pred : SovdInfo V → Bool)

namespace Discovery

/-- `get_or_try_init`: only a successful fetch is kept. -/
def info (self : Discovery H) : Discovery H × Except Error (VersionInfo Json) :=
  match self.cache with
  | some info => (self, .ok info)
  | none =>
    match fetch self.inner with
    | .error error => (self, .error error)
    | .ok info => ({ self with cache := some info }, .ok info)

/-- Vendor information that is there must decode. -/
def retype (s : SovdInfo Json) : Except Error (SovdInfo V) :=
  match s.vendorInfo with
  | none => .ok ⟨s.version, s.baseUri, none⟩
  | some vendor =>
    match decode vendor with
    | none => .error .json
    | some typed => .ok ⟨s.version, s.baseUri, some typed⟩

/-- Every advertised instance, or the first error. -/
def versions (self : Discovery H) : Discovery H × Except Error (List (SovdInfo V)) :=
  let (self, info) := self.info fetch
  (self, do (← info).sovdInfo.mapM (retype decode))

def select (self : Discovery H) : Discovery H × Except Error (Client H) :=
  let (self, listed) := self.versions fetch decode
  (self, do
    match (← listed).find? pred with
    | none => throw .noMatchingVersion
    | some advertised =>
      match parse advertised.baseUri with
      | none => throw .invalidUri
      | some baseUri => return ⟨baseUri, self.inner.timeout, self.inner.http⟩)

end Discovery

open OpenSovd.VersionSelection.Discovery

/-! ### What selecting should find -/

/-- The instance has no vendor information, or some of the type asked for. -/
def Decodable (s : SovdInfo Json) : Prop := ∃ typed, retype decode s = .ok typed

/-- It is decodable and satisfies the predicate. -/
def Fits (s : SovdInfo Json) : Prop := ∃ typed, retype decode s = .ok typed ∧ pred typed = true

def FirstFit (advertised : List (SovdInfo Json)) (s : SovdInfo Json) : Prop :=
  ∃ before after, advertised = before ++ s :: after ∧ Fits decode pred s ∧
    ∀ earlier ∈ before, ¬ Fits decode pred earlier

/-- The first instance that fits is selected where its URI parses, and there is
no matching version exactly when nothing fits. -/
structure SelectsFirstFit (discovery : Discovery H) (advertised : List (SovdInfo Json)) :
    Prop where
  found : ∀ s baseUri, FirstFit decode pred advertised s → parse s.baseUri = some baseUri →
    (discovery.select fetch parse decode pred).2 =
      .ok ⟨baseUri, discovery.inner.timeout, discovery.inner.http⟩
  none : (discovery.select fetch parse decode pred).2 = .error .noMatchingVersion ↔
    ∀ s ∈ advertised, ¬ Fits decode pred s

/-! ### What it finds -/

variable {decode pred}

theorem retype_error {s : SovdInfo Json} {error : Error} (failed : retype decode s = .error error) :
    error = .json := by
  unfold retype at failed
  split at failed
  · cases failed
  · split at failed <;> cases failed
    rfl

theorem retype_baseUri {s : SovdInfo Json} {typed : SovdInfo V} (read : retype decode s = .ok typed) :
    typed.baseUri = s.baseUri := by
  unfold retype at read
  split at read
  · cases read
    rfl
  · split at read <;> cases read
    rfl

/-- One instance that does not decode is the end of all of them. -/
theorem mapM_retype_foreign {advertised : List (SovdInfo Json)}
    (foreign : ¬ ∀ s ∈ advertised, Decodable decode s) :
    advertised.mapM (retype decode) = .error .json := by
  induction advertised with
  | nil => exact absurd nofun foreign
  | cons s rest ih =>
    rw [List.mapM_cons]
    cases read : retype decode s with
    | error error =>
      rw [retype_error read]
      rfl
    | ok typed =>
      have later : ¬ ∀ s ∈ rest, Decodable decode s := fun all =>
        foreign (List.forall_mem_cons.mpr ⟨⟨typed, read⟩, all⟩)
      rw [ih later]
      rfl

/-- Where all decode, searching the typed list is searching for a fit. -/
theorem find_typed {advertised : List (SovdInfo Json)}
    (all : ∀ s ∈ advertised, Decodable decode s) :
    ∃ typed, advertised.mapM (retype decode) = .ok typed ∧
      ((typed.find? pred = none ∧ ∀ s ∈ advertised, ¬ Fits decode pred s) ∨
        ∃ s t, typed.find? pred = some t ∧ retype decode s = .ok t ∧
          FirstFit decode pred advertised s) := by
  induction advertised with
  | nil => exact ⟨[], rfl, Or.inl ⟨rfl, nofun⟩⟩
  | cons s rest ih =>
    obtain ⟨⟨first, read⟩, others⟩ := List.forall_mem_cons.mp all
    obtain ⟨typed, listed, searched⟩ := ih others
    refine ⟨first :: typed, by rw [List.mapM_cons, read, listed]; rfl, ?_⟩
    by_cases fits : pred first = true
    · refine Or.inr ⟨s, first, by simp [fits], read, [], rest, rfl, ⟨first, read, fits⟩, nofun⟩
    · have misses : ¬ Fits decode pred s := by
        rintro ⟨other, reread, fits'⟩
        cases read.symm.trans reread
        exact fits fits'
      rw [List.find?_cons_of_neg fits]
      rcases searched with ⟨missing, none⟩ | ⟨s', t, found, read', before, after, shape, fits', earlier⟩
      · exact Or.inl ⟨missing, List.forall_mem_cons.mpr ⟨misses, none⟩⟩
      · refine Or.inr ⟨s', t, found, read', s :: before, after, by rw [shape]; rfl, fits', ?_⟩
        exact List.forall_mem_cons.mpr ⟨misses, earlier⟩

/-- There is one first fit at most. -/
theorem FirstFit.unique {advertised : List (SovdInfo Json)} {s s' : SovdInfo Json}
    (first : FirstFit decode pred advertised s) (first' : FirstFit decode pred advertised s') :
    s = s' := by
  obtain ⟨before, after, shape, fits, earlier⟩ := first
  obtain ⟨before', after', shape', fits', earlier'⟩ := first'
  rcases List.append_eq_append_iff.mp (shape.symm.trans shape') with
    ⟨between, front, back⟩ | ⟨between, front, back⟩
  · cases between with
    | nil => exact (List.cons.inj back).1
    | cons head tail =>
      cases (List.cons.inj back).1
      exact absurd fits (earlier' s (by simp [front]))
  · cases between with
    | nil => exact (List.cons.inj back).1.symm
    | cons head tail =>
      cases (List.cons.inj back).1
      exact absurd fits' (earlier s' (by simp [front]))

theorem FirstFit.fits {advertised : List (SovdInfo Json)} {s : SovdInfo Json}
    (first : FirstFit decode pred advertised s) : s ∈ advertised ∧ Fits decode pred s := by
  obtain ⟨before, after, rfl, fits, _⟩ := first
  exact ⟨by simp, fits⟩

theorem exists_firstFit {advertised : List (SovdInfo Json)}
    (some : ∃ s ∈ advertised, Fits decode pred s) : ∃ s, FirstFit decode pred advertised s := by
  classical
  obtain ⟨s, member, fits⟩ := some
  have found : (advertised.find? fun s => Fits decode pred s).isSome := by
    rw [List.find?_isSome]
    exact ⟨s, member, by simpa using fits⟩
  obtain ⟨first, held⟩ := Option.isSome_iff_exists.mp found
  obtain ⟨fits', before, after, shape, earlier⟩ := List.find?_eq_some_iff_append.mp held
  exact ⟨first, before, after, shape, by simpa using fits', by simpa using earlier⟩

/-- A discovery that has fetched its instances. -/
def fetched (inner : Client H) (advertised : List (SovdInfo Json)) : Discovery H :=
  { inner, cache := some ⟨advertised⟩ }

theorem select_fetched (inner : Client H) (advertised : List (SovdInfo Json)) :
    ((fetched inner advertised).select fetch parse decode pred).2 =
      (advertised.mapM (retype decode) >>= fun listed =>
        match listed.find? pred with
        | none => throw .noMatchingVersion
        | some advertised =>
          match parse advertised.baseUri with
          | none => throw .invalidUri
          | some baseUri => return ⟨baseUri, inner.timeout, inner.http⟩) := rfl

/-- Where all decode, the search finds the first fit. -/
theorem selectsFirstFit_of_decodable (inner : Client H) {advertised : List (SovdInfo Json)}
    (all : ∀ s ∈ advertised, Decodable decode s) :
    SelectsFirstFit fetch parse decode pred (fetched inner advertised) advertised := by
  obtain ⟨typed, listed, searched⟩ := @find_typed V decode pred advertised all
  rcases searched with ⟨missing, nothing⟩ | ⟨s, t, found, read, first⟩
  · have answer : ((fetched inner advertised).select fetch parse decode pred).2 =
        .error .noMatchingVersion := by
      rw [select_fetched, listed]
      simp only [bind, Except.bind, missing]
      rfl
    refine ⟨fun s baseUri first => ?_, iff_of_true answer nothing⟩
    exact absurd first.fits.2 (nothing s first.fits.1)
  · have answer : ((fetched inner advertised).select fetch parse decode pred).2 =
        match parse s.baseUri with
        | none => .error .invalidUri
        | some baseUri => .ok ⟨baseUri, inner.timeout, inner.http⟩ := by
      rw [select_fetched, listed, ← retype_baseUri read]
      simp only [bind, Except.bind, found]
      cases parse t.baseUri <;> rfl
    refine ⟨fun s' baseUri first' parsed => ?_, iff_of_false ?_ ?_⟩
    · rw [answer, first.unique first', parsed]
      rfl
    · rw [answer]
      cases parse s.baseUri <;> nofun
    · exact fun nothing => nothing s first.fits.1 first.fits.2

/-- One instance that does not decode hides every first fit that parses. -/
theorem selectsFirstFit_iff_of_foreign (inner : Client H) {advertised : List (SovdInfo Json)}
    (foreign : ¬ ∀ s ∈ advertised, Decodable decode s) :
    SelectsFirstFit fetch parse decode pred (fetched inner advertised) advertised ↔
      ∃ s, FirstFit decode pred advertised s ∧ parse s.baseUri = none := by
  have answer : ((fetched inner advertised).select fetch parse decode pred).2 = .error .json := by
    rw [select_fetched, mapM_retype_foreign foreign]
    rfl
  constructor
  · intro law
    have fit : ¬ ∀ s ∈ advertised, ¬ Fits decode pred s := by
      intro nothing
      have reported := law.none.mpr nothing
      rw [answer] at reported
      cases reported
    obtain ⟨s, first⟩ := exists_firstFit (by simpa using fit)
    refine ⟨s, first, ?_⟩
    cases parsed : parse s.baseUri with
    | none => rfl
    | some baseUri =>
      have found := law.found s baseUri first parsed
      rw [answer] at found
      cases found
  · rintro ⟨s, first, unparsed⟩
    refine ⟨fun s' baseUri first' parsed => ?_, iff_of_false ?_ ?_⟩
    · rw [first'.unique first, unparsed] at parsed
      cases parsed
    · rw [answer]
      nofun
    · exact fun nothing => nothing s first.fits.1 first.fits.2

/-- **Selecting finds the first instance that fits** exactly when all of them
decode, or the first fit cannot be reached anyway. -/
theorem selects_first_fit_iff (inner : Client H) (advertised : List (SovdInfo Json)) :
    SelectsFirstFit fetch parse decode pred (fetched inner advertised) advertised ↔
      (∀ s ∈ advertised, Decodable decode s) ∨
        ∃ s, FirstFit decode pred advertised s ∧ parse s.baseUri = none := by
  by_cases all : ∀ s ∈ advertised, Decodable decode s
  · exact iff_of_true (selectsFirstFit_of_decodable fetch parse inner all) (Or.inl all)
  · rw [or_iff_right all]
    exact selectsFirstFit_iff_of_foreign fetch parse inner all

/-- Default vendor info type. -/
structure VendorInfo where
  version : String
  name : String

/-- The derived `Deserialize`; an array gives the fields in order. -/
def VendorInfo.fromJson : Json → Option VendorInfo
  | .object fields =>
    match (fields.filter fun field => field.1 = "version").map Prod.snd,
      (fields.filter fun field => field.1 = "name").map Prod.snd with
    | [.string version], [.string name] => some ⟨version, name⟩
    | _, _ => none
  | .array [.string version, .string name] => some ⟨version, name⟩
  | _ => none

def otherVendor : SovdInfo Json :=
  ⟨"1.0", "http://other/v1", some (.object [("build", .number 42 0)])⟩

def wanted : SovdInfo Json := ⟨"1.1", "http://ours/v1", none⟩

/-- A client at `http://ours` that has found both. -/
def mixedVendors : Discovery Unit :=
  fetched ⟨{ scheme := some "http", authority := some "ours", path := "/" }, none, ()⟩
    [otherVendor, wanted]

/-- Versions are told apart, whatever the vendor. -/
def isWanted (s : SovdInfo VendorInfo) : Bool := s.version == "1.1"

/-- The other vendor's information hides the instance that is wanted. -/
theorem foreign_vendor_hides_match :
    (mixedVendors.select (fun _ => .error .request) (fun text => some { path := text })
        VendorInfo.fromJson isWanted).2 = .error .json ∧
      FirstFit VendorInfo.fromJson isWanted [otherVendor, wanted] wanted ∧
      ¬ SelectsFirstFit (fun _ => .error .request) (fun text => some { path := text })
        VendorInfo.fromJson isWanted mixedVendors [otherVendor, wanted] := by
  have answer : (mixedVendors.select (fun _ => .error .request) (fun text => some { path := text })
      VendorInfo.fromJson isWanted).2 = .error .json := rfl
  have first : FirstFit VendorInfo.fromJson isWanted [otherVendor, wanted] wanted := by
    refine ⟨[otherVendor], [], rfl, ⟨⟨"1.1", "http://ours/v1", none⟩, rfl, rfl⟩, ?_⟩
    intro earlier member
    cases List.mem_singleton.mp member
    rintro ⟨typed, read, _⟩
    cases read
  refine ⟨answer, first, fun law => ?_⟩
  have found := law.found _ _ first rfl
  rw [answer] at found
  cases found

end OpenSovd.VersionSelection
