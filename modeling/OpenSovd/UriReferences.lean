import OpenSovd.Addressing
import OpenSovd.Support.UriSyntax

/-! The server's links as URI references. The set of characters that are escaped
in a segment lists what a path must not contain, and leaves three out that no
URI may contain; an id with one of them makes every link to it invalid. -/
namespace OpenSovd.UriReferences
open OpenSovd.Support.PercentEncoding OpenSovd.Support.UriSyntax OpenSovd.Entity OpenSovd.Routes
open OpenSovd.Addressing

/-- Neither escaped nor allowed: the backslash, the caret and the vertical bar. -/
def unescaped : List Char := [Char.ofNat 0x5c, '^', '|']

/-- The id has none of them. -/
def Escapable (id : String) : Prop := ∀ char ∈ id.toList, char ∉ unescaped

/-! ### Segments -/

/-- Every other ASCII character is escaped or may stand in a segment. -/
theorem escaped_or_pchar_iff : ∀ n < 0x80,
    (pathSegmentEncodeSet.contains (UInt8.ofNat n) = true ∨
      isPchar (Char.ofUInt8 (UInt8.ofNat n)) = true) ↔ Char.ofUInt8 (UInt8.ofNat n) ∉ unescaped := by
  decide

theorem ascii_of_unescaped {char : Char} (member : char ∈ unescaped) :
    ∃ byte < 0x80, Char.ofUInt8 byte = char := by
  simp only [unescaped, List.mem_cons, List.not_mem_nil, or_false] at member
  rcases member with rfl | rfl | rfl
  · exact ⟨0x5c, by decide, rfl⟩
  · exact ⟨0x5e, by decide, rfl⟩
  · exact ⟨0x7c, by decide, rfl⟩

theorem isPchar_of_isHexDigit (char : Char) (digit : char.isHexDigit = true) : isPchar char = true := by
  simp [isPchar, isUnreserved, isAlphanum_of_isHexDigit digit]

/-- An encoded id is a segment exactly when it has none of the three. -/
theorem segment_encode_iff (id : String) : Segment (encodePathSegment id).toList ↔ Escapable id := by
  have percent : pathSegmentEncodeSet.contains '%'.toUInt8 = true := by decide
  refine (encoded_utf8PercentEncode_iff percent isPchar_of_isHexDigit).trans ?_
  have table (byte : UInt8) (ascii : byte < 0x80) :=
    escaped_or_pchar_iff byte.toNat ascii
  simp only [UInt8.ofNat_toNat] at table
  constructor
  · intro fine char member among
    obtain ⟨byte, ascii, rfl⟩ := ascii_of_unescaped among
    exact (table byte ascii).mp (fine byte ascii member) among
  · intro fine byte ascii member
    exact (table byte ascii).mpr (fine _ member)

/-! ### Links -/

theorem toList_pathOf (segs : List String) : (pathOf segs).toList = slashed (segs.map String.toList) := by
  induction segs with
  | nil => rfl
  | cons seg rest ih =>
    rw [pathOf_cons]
    simp [slashed, ih]

/-- The words of the route templates. -/
def routeWords : List String :=
  ["components", "apps", "areas", "hosts", "belongs-to", "is-located-on", "contains",
    "data-categories", "data-groups", "data"]

theorem segment_of_word {word : String} (member : word ∈ routeWords) : Segment word.toList := by
  have plain : routeWords.all (fun word => word.toList.all isPchar) = true := rfl
  exact .of_all (List.all_eq_true.mp (List.all_eq_true.mp plain word member))

theorem segmentsWith_cases {encode : String → String} {route : Route} {seg : String}
    (member : seg ∈ route.segmentsWith encode) :
    seg ∈ routeWords ∨ ∃ id ∈ route.params, seg = encode id := by
  cases route <;> simp_all [Route.segmentsWith, Route.params, routeWords] <;> tauto

/-- Every parameter of a route is one of its segments. -/
theorem mem_segmentsWith {encode : String → String} {route : Route} {id : String}
    (member : id ∈ route.params) : encode id ∈ route.segmentsWith encode := by
  cases route <;> simp_all [Route.segmentsWith, Route.params] <;> tauto

/-- An id keeps them in a link, and no reference has one. -/
theorem unescaped_mem_encode {id : String} {char : Char} (member : char ∈ id.toList)
    (among : char ∈ unescaped) :
    char ∈ (encodePathSegment id).toList ∧ isUriChar char = false := by
  have kept : ∀ char ∈ unescaped, pathSegmentEncodeSet.contains char.toUInt8 = false ∧
      isUriChar char = false :=
    List.forall_mem_cons.mpr ⟨⟨rfl, rfl⟩,
      List.forall_mem_cons.mpr ⟨⟨rfl, rfl⟩, List.forall_mem_singleton.mpr ⟨rfl, rfl⟩⟩⟩
  obtain ⟨byte, ascii, rfl⟩ := ascii_of_unescaped among
  refine ⟨?_, (kept _ among).2⟩
  rw [encodePathSegment, utf8PercentEncode, String.toList_ofList]
  refine literal_mem_flatMap ascii ?_ member
  have own := (kept _ among).1
  rw [← eq_toUInt8_of_ofUInt8 rfl] at own
  simp [own]

/-- The link to a route is a reference exactly when its ids are escapable. -/
theorem link_valid_iff {base : String} (valid : IsBase base.toList) (route : Route) :
    IsUriReference (base ++ pathOf (route.segmentsWith encodePathSegment)).toList ↔
      ∀ id ∈ route.params, Escapable id := by
  rw [String.toList_append, toList_pathOf]
  constructor
  · intro reference id param char member among
    obtain ⟨written, foreign⟩ := unescaped_mem_encode member among
    have inside : char ∈ slashed ((route.segmentsWith encodePathSegment).map String.toList) :=
      List.mem_flatMap.mpr ⟨_, List.mem_map_of_mem (mem_segmentsWith param), .tail _ written⟩
    have fine := reference.uriChars char (List.mem_append_right _ inside)
    rw [foreign] at fine
    cases fine
  · intro fine
    refine (valid.below fun seg member => ?_).uriReference
    obtain ⟨text, among, rfl⟩ := List.mem_map.mp member
    rcases segmentsWith_cases among with word | ⟨id, param, rfl⟩
    · exact segment_of_word word
    · exact (segment_encode_iff id).mpr (fine id param)

/-- The link to an entity is the link to its route. -/
theorem entityHref_valid_iff {base : String} (valid : IsBase base.toList) (entityRef : EntityRef) :
    IsUriReference (entityHref base entityRef).toList ↔ Escapable entityRef.id := by
  have one : (entityRoute entityRef).params = [entityRef.id] := by
    obtain ⟨kind, id⟩ := entityRef
    cases kind <;> rfl
  have link := link_valid_iff valid (entityRoute entityRef)
  rw [one, List.forall_mem_singleton] at link
  rw [entityHref_path]
  exact link

theorem hrefs_valid_iff {base : String} (valid : IsBase base.toList) (id : String) :
    ∀ href ∈ [componentHref base id, appHref base id, areaHref base id],
      (IsUriReference href.toList ↔ Escapable id) := by
  intro href member
  simp only [List.mem_cons, List.not_mem_nil, or_false] at member
  rcases member with rfl | rfl | rfl
  · exact entityHref_valid_iff valid (.component id)
  · exact entityHref_valid_iff valid (.app id)
  · exact entityHref_valid_iff valid (.area id)

/-- **Encoded segments and the links made of them are valid** exactly when the
id has no backslash, caret or vertical bar. -/
theorem encoded_segments_valid_iff (id : String) :
    (Segment (encodePathSegment id).toList ↔ Escapable id) ∧
      (∀ base : String, IsBase base.toList →
        ∀ href ∈ [componentHref base id, appHref base id, areaHref base id],
          (IsUriReference href.toList ↔ Escapable id)) ∧
      ∀ base : String, IsBase base.toList → ∀ route : Route,
        (IsUriReference (base ++ pathOf (route.segmentsWith encodePathSegment)).toList ↔
          ∀ param ∈ route.params, Escapable param) :=
  ⟨segment_encode_iff id, fun _ valid => hrefs_valid_iff valid id, fun _ valid => link_valid_iff valid⟩

theorem localhost_base : IsBase "http://localhost/sovd/v1".toList := by
  have plain {allowed : Char → Bool} {text : List Char} (fine : text.all allowed = true) :
      Encoded allowed text := .of_all (List.all_eq_true.mp fine)
  refine ⟨"http".toList, "localhost".toList, ["sovd".toList, "v1".toList],
    ⟨⟨'h', "ttp".toList, rfl, rfl⟩, List.all_eq_true.mp rfl⟩, ?_, ?_, rfl⟩
  · exact ⟨[], "localhost".toList, [], rfl, .regName (plain rfl), Or.inl rfl, Or.inl rfl⟩
  · exact List.forall_mem_cons.mpr ⟨plain rfl, List.forall_mem_singleton.mpr (plain rfl)⟩

theorem engine_href_valid :
    IsUriReference (componentHref "http://localhost/sovd/v1" "engine control").toList :=
  ((encoded_segments_valid_iff "engine control").2.1 _ localhost_base _ (.head _)).mpr
    (by simp [Escapable, unescaped])

/-- The caret is passed through. -/
theorem caret_href_invalid :
    encodePathSegment "v^2" = "v^2" ∧ ¬ Segment (encodePathSegment "v^2").toList ∧
      ¬ IsUriReference (componentHref "http://localhost/sovd/v1" "v^2").toList := by
  have caret : ¬ Escapable "v^2" := by simp [Escapable, unescaped]
  exact ⟨by rfl, mt (segment_encode_iff _).mp caret,
    mt ((hrefs_valid_iff localhost_base "v^2") _ (.head _)).mp caret⟩

end OpenSovd.UriReferences
