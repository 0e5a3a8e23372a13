import LiveTable.Proofs.Splitting
import LiveTable.Proofs.Trimming
import LiveTable.ResourceKind
import Mathlib

namespace LiveTable

namespace Text

theorem lower_char_cases (c : Char) : c.toLower = c ∨ 97 ≤ c.toLower.toNat ∧ c.toLower.toNat ≤ 122 := by
  by_cases upper : c.isUpper = true
  · have letter : c.isAlpha = true := by rw [Char.isAlpha, upper, Bool.true_or]
    have lower : c.toLower.isLower = true := by rw [Char.isLower_toLower_eq_isAlpha, letter]
    rw [Char.isLower, Bool.and_eq_true, decide_eq_true_eq, decide_eq_true_eq] at lower
    exact .inr lower
  · exact .inl (Char.toLower_eq_of_not_isUpper upper)

theorem letter_visible (c : Char) (least : 97 ≤ c.toNat) (most : c.toNat ≤ 122) : isBlank c = false := by
  have other (d : Char) (away : d.toNat < 97 ∨ 122 < d.toNat) : c ≠ d := by
    rintro rfl
    omega
  have controls : ¬ c ≤ '\r' := fun below => absurd (Nat.le_trans least below) (by decide)
  have spaces : ¬ '\u2000' ≤ c := fun below => absurd (Nat.le_trans below most) (by decide)
  simp [isBlank, controls, spaces, other ' ' (by decide), other '\u0085' (by decide), other '\u00a0' (by decide),
    other '\u1680' (by decide), other '\u2028' (by decide), other '\u2029' (by decide), other '\u202f' (by decide),
    other '\u205f' (by decide), other '\u3000' (by decide)]

theorem lower_visible (c : Char) (visible : isBlank c = false) : isBlank c.toLower = false := by
  rcases lower_char_cases c with same | ⟨least, most⟩
  · rw [same, visible]
  · exact letter_visible _ least most

theorem lower_slash (c : Char) (slash : c.toLower = '/') : c = '/' := by
  rcases lower_char_cases c with same | ⟨least, _⟩
  · rw [← same, slash]
  · rw [slash] at least
    exact absurd least (by decide)

theorem lower_chars (s : String) : (asciiLower s).toList = s.toList.map Char.toLower := by
  rw [asciiLower, String.toList_ofList]

theorem lower_again (s : String) : asciiLower (asciiLower s) = asciiLower s := by
  rw [asciiLower, lower_chars, List.map_map, asciiLower]
  exact congrArg String.ofList (List.map_congr_left fun c _ => Char.toLower_toLower_eq_toLower c)

theorem lower_filled (s : String) : asciiLower s = "" ↔ s = "" := by
  rw [← String.toList_eq_nil_iff, lower_chars, List.map_eq_nil_iff, String.toList_eq_nil_iff]

end Text

namespace ResourceKind

structure Part (s : String) : Prop where
  visible : ∀ c ∈ s.toList, Text.isBlank c = false
  whole : '/' ∉ s.toList

theorem part_iff (s : String) : (s.toList.all fun c => !Text.isBlank c && c != '/') = true ↔ Part s := by
  simp only [List.all_eq_true, Bool.and_eq_true, Bool.not_eq_eq_eq_not, Bool.not_true, bne_iff_ne]
  constructor
  · exact fun each => ⟨fun c member => (each c member).1, fun slash => (each '/' slash).2 rfl⟩
  · exact fun part c member => ⟨part.visible c member, fun slash => part.whole (slash ▸ member)⟩

instance (s : String) : Decidable (Part s) := decidable_of_iff _ (part_iff s)

theorem Part.empty : Part "" := ⟨nofun, nofun⟩

theorem Part.lower {s : String} (part : Part s) : Part (Text.asciiLower s) := by
  constructor
  · rw [Text.lower_chars]
    intro c member
    obtain ⟨d, given, rfl⟩ := List.mem_map.mp member
    exact Text.lower_visible d (part.visible d given)
  · rw [Text.lower_chars]
    intro member
    obtain ⟨d, given, slash⟩ := List.mem_map.mp member
    exact part.whole (Text.lower_slash d slash ▸ given)

theorem split_part (token part : String) (visible : ∀ c ∈ token.toList, Text.isBlank c = false)
    (member : part ∈ Text.splitOnChar '/' token) : Part part := by
  rw [Text.split_on_char] at member
  obtain ⟨chars, given, rfl⟩ := List.mem_map.mp member
  obtain ⟨absent, kept⟩ := Text.split_parts '/' token.toList chars given
  constructor
  · rw [String.toList_ofList]
    exact fun c inside => visible c (kept c inside)
  · rwa [String.toList_ofList]

def places (k : ResourceKind) : List String :=
  if k.group.isEmpty then [k.version, k.plural] else [k.group, k.version, k.plural]

theorem key_places (k : ResourceKind) : k.key = "/".intercalate k.places := by
  unfold key apiVersion places
  split <;> rfl

structure Placed (k : ResourceKind) : Prop where
  group : Part k.group
  version : Part k.version
  plural : Part k.plural

instance (k : ResourceKind) : Decidable (Placed k) :=
  decidable_of_iff (Part k.group ∧ Part k.version ∧ Part k.plural)
    ⟨fun ⟨group, version, plural⟩ => ⟨group, version, plural⟩,
      fun placed => ⟨placed.group, placed.version, placed.plural⟩⟩

theorem Placed.parts {k : ResourceKind} (placed : Placed k) : ∀ part ∈ k.places, Part part := by
  unfold places
  split
  · simp only [List.forall_mem_cons]
    exact ⟨placed.version, placed.plural, nofun⟩
  · simp only [List.forall_mem_cons]
    exact ⟨placed.group, placed.version, placed.plural, nofun⟩

theorem Placed.key_visible {k : ResourceKind} (placed : Placed k) : ∀ c ∈ k.key.toList, Text.isBlank c = false := by
  have slash : ∀ c ∈ "/".toList, Text.isBlank c = false := by simp [Text.isBlank]
  unfold key apiVersion
  split
  · simp only [String.toList_append, List.forall_mem_append]
    exact ⟨⟨placed.version.visible, slash⟩, placed.plural.visible⟩
  · simp only [String.toList_append, List.forall_mem_append]
    exact ⟨⟨⟨⟨placed.group.visible, slash⟩, placed.version.visible⟩, slash⟩, placed.plural.visible⟩

theorem split_joined (parts : List String) (filled : parts ≠ []) (free : ∀ part ∈ parts, Part part) :
    Text.splitOnChar '/' ("/".intercalate parts) = parts := by
  have slashless : ∀ chars ∈ parts.map String.toList, '/' ∉ chars := by
    intro chars member
    obtain ⟨part, given, rfl⟩ := List.mem_map.mp member
    exact (free part given).whole
  have joined : ("/".intercalate parts).toList = ['/'].intercalate (parts.map String.toList) :=
    String.toList_intercalate
  rw [Text.split_on_char, joined, List.splitOn_intercalate '/' slashless (by simpa using filled), List.map_map]
  refine (List.map_congr_left fun part _ => ?_).trans (List.map_id parts)
  exact String.ofList_toList

theorem named_known (token : String) (e : Known) (named : ofName? token = some e) : e ∈ known := by
  simp only [ofName?] at named
  exact List.mem_of_find?_eq_some named

theorem names_whole : ∀ e ∈ known, ∀ name ∈ e.names, '/' ∉ name.toList := by decide +kernel

theorem slash_unnamed (token : String) (visible : ∀ c ∈ token.toList, Text.isBlank c = false)
    (slash : '/' ∈ token.toList) : ofName? token = none := by
  unfold ofName?
  rw [Text.trim_visible_text visible, List.find?_eq_none]
  intro e member named
  have inside : '/' ∈ (Text.asciiLower token).toList := by
    rw [Text.lower_chars]
    exact List.mem_map.mpr ⟨'/', slash, by decide⟩
  exact names_whole e member _ (List.contains_iff_mem.mp named) inside

theorem Placed.key_read {k : ResourceKind} (placed : Placed k) :
    parse? k.key = ofCoordinates? k.group k.version k.plural := by
  have slash : '/' ∈ k.key.toList := by simp [key]
  unfold parse?
  rw [slash_unnamed k.key placed.key_visible slash, Text.trim_visible_text placed.key_visible, key_places,
    split_joined k.places (by unfold places; split <;> simp) placed.parts, places]
  by_cases bare : k.group.isEmpty = true
  · rw [if_pos bare, String.isEmpty_iff.mp bare]
  · rw [if_neg bare]

structure Custom (k : ResourceKind) : Prop where
  placed : Placed k
  versioned : k.version ≠ ""
  listed : k.plural ≠ ""
  lower : Text.asciiLower k.plural = k.plural
  bare : k = ⟨k.group, k.version, "", k.plural, true⟩
  unknown : known.find? (fun e =>
    e.kind.group == k.group && e.kind.version == k.version && e.kind.plural == k.plural) = none

theorem coordinates_cases (group version plural : String) (k : ResourceKind)
    (free : Part group ∧ Part version ∧ Part plural) (read : ofCoordinates? group version plural = some k) :
    (∃ e ∈ known, e.kind = k) ∨ Custom k := by
  unfold ofCoordinates? at read
  split at read
  · simp at read
  case isFalse filled =>
    simp only [Bool.or_eq_true, String.isEmpty_iff, not_or] at filled
    rw [Option.some_inj] at read
    cases found : known.find? fun e =>
        e.kind.group == group && e.kind.version == version && e.kind.plural == Text.asciiLower plural with
    | some e =>
        left
        refine ⟨e, List.mem_of_find?_eq_some found, ?_⟩
        rw [← read, found]
        rfl
    | none =>
        right
        rw [found] at read
        subst read
        exact {
          placed := ⟨free.1, free.2.1, free.2.2.lower⟩, versioned := filled.1
          listed := fun empty => filled.2 ((Text.lower_filled plural).mp empty)
          lower := Text.lower_again plural, bare := rfl, unknown := found }

theorem parsed_cases (token : String) (k : ResourceKind) (visible : ∀ c ∈ token.toList, Text.isBlank c = false)
    (read : parse? token = some k) : (∃ e ∈ known, e.kind = k) ∨ Custom k := by
  unfold parse? at read
  cases named : ofName? token with
  | some e =>
      rw [named] at read
      exact .inl ⟨e, named_known token e named, Option.some_inj.mp read⟩
  | none =>
      simp only [named, Text.trim_visible_text visible] at read
      have free (part : String) (member : part ∈ Text.splitOnChar '/' token) : Part part :=
        split_part token part visible member
      split at read
      case h_1 version plural parts =>
        rw [parts] at free
        exact coordinates_cases "" version plural k ⟨.empty, free version (by simp), free plural (by simp)⟩ read
      case h_2 group version plural parts =>
        rw [parts] at free
        exact coordinates_cases group version plural k
          ⟨free group (by simp), free version (by simp), free plural (by simp)⟩ read
      case h_3 => simp at read

theorem known_placed : ∀ e ∈ known, Placed e.kind := by decide +kernel

theorem known_coordinates :
    ∀ e ∈ known, ofCoordinates? e.kind.group e.kind.version e.kind.plural = some e.kind := by
  decide +kernel

theorem Custom.coordinates {k : ResourceKind} (custom : Custom k) :
    ofCoordinates? k.group k.version k.plural = some k := by
  have filled : ¬ (k.version.isEmpty || k.plural.isEmpty) = true := by
    simp [custom.versioned, custom.listed]
  simp only [ofCoordinates?, if_neg filled, custom.lower, custom.unknown]
  exact congrArg some custom.bare.symm

theorem key_parses (token : String) (k : ResourceKind) (visible : ∀ c ∈ token.toList, Text.isBlank c = false)
    (read : parse? token = some k) : parse? k.key = some k := by
  rcases parsed_cases token k visible read with ⟨e, member, rfl⟩ | custom
  · rw [(known_placed e member).key_read, known_coordinates e member]
  · rw [custom.placed.key_read, custom.coordinates]

theorem keys_tell_kinds (s t : String) (j k : ResourceKind) (first : ∀ c ∈ s.toList, Text.isBlank c = false)
    (second : ∀ c ∈ t.toList, Text.isBlank c = false) (read : parse? s = some j) (other : parse? t = some k) :
    parse? j.key = some j ∧ parse? k.key = some k ∧ (j.key = k.key ↔ j = k) := by
  have one := key_parses s j first read
  have two := key_parses t k second other
  refine ⟨one, two, fun same => ?_, congrArg key⟩
  rw [same, two, Option.some_inj] at one
  exact one.symm

theorem deploy_and_widgets :
    parse? "apps/v1/deployments" = some ⟨"apps", "v1", "Deployment", "deployments", true⟩ ∧
      parse? "example.com/v1/widgets" = some ⟨"example.com", "v1", "", "widgets", true⟩ ∧
      key ⟨"apps", "v1", "Deployment", "deployments", true⟩ ≠ key ⟨"example.com", "v1", "", "widgets", true⟩ := by
  obtain ⟨named, placed, told⟩ := keys_tell_kinds "Deploy" "example.com/v1/Widgets"
    ⟨"apps", "v1", "Deployment", "deployments", true⟩ ⟨"example.com", "v1", "", "widgets", true⟩
    (by simp [Text.isBlank]) (by simp [Text.isBlank]) (by decide +kernel) (by decide +kernel)
  exact ⟨named, placed, mt told.mp (by decide)⟩

end ResourceKind

end LiveTable
