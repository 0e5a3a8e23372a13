import LiveTable.Proofs.Splitting
import LiveTable.Proofs.Toast
import LiveTable.Proofs.Trimming

namespace LiveTable

namespace Labels

-- A text that keeps its place in a pair: nothing in it ends the key or the pair, and nothing is trimmed off.
structure Plain (s : String) : Prop where
  comma : ',' ∉ s.toList
  equals : '=' ∉ s.toList
  start : ∀ c ∈ s.toList.head?, Text.isBlank c = false
  stop : ∀ c ∈ s.toList.getLast?, Text.isBlank c = false

theorem visible_end (c? : Option Char) :
    c?.all (fun c => !Text.isBlank c) = true ↔ ∀ c ∈ c?, Text.isBlank c = false := by
  cases c? <;> simp

instance (s : String) : Decidable (Plain s) :=
  decidable_of_iff (',' ∉ s.toList ∧ '=' ∉ s.toList ∧ s.toList.head?.all (fun c => !Text.isBlank c) = true ∧
      s.toList.getLast?.all (fun c => !Text.isBlank c) = true)
    ⟨fun ⟨comma, equals, start, stop⟩ => ⟨comma, equals, (visible_end _).mp start, (visible_end _).mp stop⟩,
      fun plain => ⟨plain.comma, plain.equals, (visible_end _).mpr plain.start, (visible_end _).mpr plain.stop⟩⟩

theorem Plain.trimmed {s : String} (plain : Plain s) : Text.trimChars s.toList = s.toList :=
  Text.trim_visible_ends plain.start plain.stop

structure Writable (labels : List (String × String)) : Prop where
  keys : ∀ label ∈ labels, Plain label.1 ∧ label.1 ≠ ""
  values : ∀ label ∈ labels, Plain label.2
  distinct : (labels.map Prod.fst).Nodup

def pairText (label : String × String) : List Char := label.1.toList ++ '=' :: label.2.toList

theorem pair_read (key value : String) (plain : Plain key) (filled : key ≠ "") (free : Plain value) :
    pair? (pairText (key, value)) = some (key, value) := by
  have before : ∀ c ∈ key.toList, (c != '=') = true := by
    intro c member
    exact bne_iff_ne.mpr fun same => plain.equals (same ▸ member)
  have split : (pairText (key, value)).dropWhile (· != '=') = '=' :: value.toList ∧
      (pairText (key, value)).takeWhile (· != '=') = key.toList := by
    rw [pairText, List.dropWhile_append_of_pos before, List.takeWhile_append_of_pos before]
    simp
  have named : key.toList.isEmpty = false := by simpa using filled
  simp [pair?, split.1, split.2, plain.trimmed, free.trimmed, named, free.equals]

theorem write_chars (labels : List (String × String)) :
    (write labels).toList = [','].intercalate (labels.map pairText) := by
  rw [write, String.toList_intercalate, List.map_map]
  congr 1
  refine List.map_congr_left fun label _ => ?_
  simp [pairText]

theorem parse_write (labels : List (String × String)) (writable : Writable labels) :
    parse (write labels) = labels := by
  rw [parse, write_chars, Text.split_at_char]
  by_cases vacant : labels = []
  · rw [vacant]
    rfl
  · have free : ∀ part ∈ labels.map pairText, ',' ∉ part := by
      intro part member
      obtain ⟨label, given, rfl⟩ := List.mem_map.mp member
      simp [pairText, (writable.keys label given).1.comma, (writable.values label given).comma]
    rw [List.splitOn_intercalate ',' free (by simpa using vacant), List.filterMap_map]
    have each : ∀ label ∈ labels, (pair? ∘ pairText) label = some label := by
      intro label given
      obtain ⟨plain, filled⟩ := writable.keys label given
      exact pair_read label.1 label.2 plain filled (writable.values label given)
    rw [List.filterMap_congr each, List.filterMap_some]

theorem lookup_member (labels : List (String × String)) (distinct : (labels.map Prod.fst).Nodup)
    (key value : String) (member : (key, value) ∈ labels) : lookup key labels = some value := by
  cases found : labels.reverse.find? (·.1 == key) with
  | none =>
      have absent := List.find?_eq_none.mp found (key, value) (List.mem_reverse.mpr member)
      simp at absent
  | some label =>
      have known := List.mem_reverse.mp (List.mem_of_find?_eq_some found)
      have named := List.find?_some found
      have same : label = (key, value) := List.inj_on_of_nodup_map distinct known member (beq_iff_eq.mp named)
      rw [lookup, found, same]
      rfl

theorem lookup_absent (labels : List (String × String)) (key : String) (absent : ∀ value, (key, value) ∉ labels) :
    lookup key labels = none := by
  rw [lookup, Option.map_eq_none_iff, List.find?_eq_none]
  rintro ⟨other, value⟩ member same
  rw [beq_iff_eq] at same
  exact absent value (same ▸ List.mem_reverse.mp member)

end Labels

theorem Header.labelize_column (h : Header) (places : List Nat) (labels : List String) (shown : Nat) (label : String)
    (known : ∀ place ∈ places, ∃ c, h[place]? = some c) (read : labels[shown]? = some label) :
    (h.labelize places labels)[places.length + shown]? = some (Column.named label) := by
  have sized := h.kept_length places known
  rw [labelize, List.getElem?_append_right (by omega), sized, Nat.add_sub_cancel_left, List.getElem?_map, read]
  rfl

namespace Table

section

variable (t : Table) (labels : List String) (place : Nat) (found : t.header.indexOf? labelsName true = some place)

include found

theorem labelize_events (asking : labels.isEmpty = false) : (t.labelize labels).events.toList =
    t.events.toList.map (·.labelize t.labelPlaces place labels) := by
  rw [labelize_asking t labels place found asking]
  exact t.events.map_list _

theorem labelize_column (shown : Nat) (label : String) (read : labels[shown]? = some label) :
    (t.labelize labels).header[t.labelPlaces.length + shown]? = some (Column.named label) := by
  have asking : labels.isEmpty = false := List.isEmpty_eq_false_iff.mpr (List.ne_nil_of_mem (List.mem_of_getElem? read))
  rw [labelize_asking t labels place found asking]
  refine t.header.labelize_column t.labelPlaces labels shown label (fun kept member => ?_) read
  exact (label_places_named t kept member).imp fun _ => And.left

end

theorem written_labels_shown (labels : List (String × String)) (writable : Labels.Writable labels) :
    Labels.parse (Labels.write labels) = labels ∧
      ∀ (t : Table) (asked : List String) (place : Nat), t.header.indexOf? labelsName true = some place →
        ∀ (i : Nat) (e : RowEvent), t.events.toList[i]? = some e →
          e.row.fields[place]? = some (Labels.write labels) →
          ∀ (shown : Nat) (label : String), asked[shown]? = some label →
            (t.labelize asked).header[t.labelPlaces.length + shown]? = some (Column.named label) ∧
              ∃ f, (t.labelize asked).events.toList[i]? = some f ∧ f.id = e.id ∧
                (∀ value, (label, value) ∈ labels →
                  f.row.fields[t.labelPlaces.length + shown]? = some value) ∧
                ((∀ value, (label, value) ∉ labels) →
                  f.row.fields[t.labelPlaces.length + shown]? = some "") := by
  have parsed := Labels.parse_write labels writable
  refine ⟨parsed, fun t asked place found i e there written shown label read => ?_⟩
  have asking : asked.isEmpty = false := List.isEmpty_eq_false_iff.mpr (List.ne_nil_of_mem (List.mem_of_getElem? read))
  have field : e.row.field place = Labels.write labels := by
    rw [Row.field, List.getD_eq_getElem?_getD, written, Option.getD_some]
  have cell := e.row.label_field t.labelPlaces place asked shown label read
  rw [field, parsed] at cell
  refine ⟨t.labelize_column asked place found shown label read, e.labelize t.labelPlaces place asked, ?_, rfl,
    fun value member => ?_, fun absent => ?_⟩
  · rw [labelize_events t asked place found asking, List.getElem?_map, there]
    rfl
  · rw [Labels.lookup_member labels writable.distinct label value member] at cell
    exact cell
  · rw [Labels.lookup_absent labels label absent] at cell
    exact cell

def webLabels : List (String × String) := [("app", "web server"), ("canary", "")]

def labelledPod : Table :=
  ⟨[nameName, labelsName].map Column.named, .ofList [.plain .added ⟨"a", ["a", Labels.write webLabels]⟩], "all"⟩

theorem web_labels_shown :
    Labels.Writable webLabels ∧ Labels.write webLabels = "app=web server,canary=" ∧
      Labels.parse (Labels.write webLabels) = webLabels ∧
      (labelledPod.labelize ["tier", "app"]).header[2]? = some (Column.named "app") ∧
      ∃ f, (labelledPod.labelize ["tier", "app"]).events.toList[0]? = some f ∧
        f.row.fields[2]? = some "web server" := by
  have writable : Labels.Writable webLabels := ⟨by decide, by decide, by decide⟩
  have shown := (written_labels_shown webLabels writable).2 labelledPod ["tier", "app"] 1 (by decide) 0 _ rfl rfl 1
    "app" rfl
  obtain ⟨column, f, there, _, value, _⟩ := shown
  exact ⟨writable, by decide, (written_labels_shown webLabels writable).1, column, f, there,
    value "web server" (by decide)⟩

end Table

end LiveTable
