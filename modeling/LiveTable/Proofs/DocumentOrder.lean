import LiveTable.Json.Printer
import LiveTable.Proofs.Declaration
import LiveTable.Query.Path.Basic

namespace LiveTable

namespace Json

abbrev Part := Option String × Json

def parts : Json → List Part
  | array items => items.map (none, ·)
  | object members => members.map fun (key, v) => (some key, v)
  | _ => []

def inside? : Json → List Nat → Option Json
  | v, [] => some v
  | v, i :: rest => v.parts[i]?.bind fun part => part.2.inside? rest

-- No object anywhere in the value has a key twice.
def Keyed (v : Json) : Prop := ∀ p members, v.inside? p = some (object members) → (members.map Prod.fst).Nodup

theorem part_smaller (v : Json) (part : Part) (member : part ∈ v.parts) : sizeOf part.2 < sizeOf v := by
  cases v with
  | array items =>
      obtain ⟨item, given, rfl⟩ := List.mem_map.mp member
      have smaller := List.sizeOf_lt_of_mem given
      simp only [array.sizeOf_spec]
      omega
  | object members =>
      obtain ⟨⟨key, item⟩, given, rfl⟩ := List.mem_map.mp member
      have smaller := List.sizeOf_lt_of_mem given
      simp only [object.sizeOf_spec, Prod.mk.sizeOf_spec] at smaller ⊢
      omega
  | _ => cases member

theorem part_induction {motive : Json → Prop} (step : ∀ v : Json, (∀ part ∈ v.parts, motive part.2) → motive v)
    (v : Json) : motive v :=
  step v fun part _ => part_induction step part.2
termination_by sizeOf v
decreasing_by
  rename_i member
  exact part_smaller v part member

theorem inside_cons (v : Json) (i : Nat) (part : Part) (read : v.parts[i]? = some part) (rest : List Nat) :
    v.inside? (i :: rest) = part.2.inside? rest := by
  rw [inside?, read]
  rfl

theorem keyed_part (v : Json) (keyed : v.Keyed) (part : Part) (member : part ∈ v.parts) : part.2.Keyed := by
  obtain ⟨i, read⟩ := List.mem_iff_getElem?.mp member
  intro p members held
  exact keyed (i :: p) members (inside_cons v i part read p ▸ held)

theorem keyed_of_parts (v : Json) (own : ∀ members, v = object members → (members.map Prod.fst).Nodup)
    (within : ∀ part ∈ v.parts, part.2.Keyed) : v.Keyed := by
  intro p members held
  cases p with
  | nil => exact own members (Option.some.inj held)
  | cons i rest =>
      obtain ⟨part, read, deeper⟩ := Option.bind_eq_some_iff.mp held
      exact within part (List.mem_of_getElem? read) rest members deeper

def keyText : Option String → String
  | none => ""
  | some key => renderString key ++ ":"

def partText (part : Part) : String := keyText part.1 ++ part.2.render

def lengthBefore : List String → Nat → Nat
  | text :: rest, i + 1 => text.length + 1 + lengthBefore rest i
  | _, _ => 0

def startOf : Json → List Nat → Nat
  | _, [] => 0
  | v, i :: rest =>
    match v.parts[i]? with
    | none => 0
    | some part =>
      1 + lengthBefore (v.parts.map partText) i + (keyText part.1).length + part.2.startOf rest

theorem render_items_map (items : List Json) : renderItems items = items.map render := by
  induction items with
  | nil => rfl
  | cons item rest ih => rw [renderItems, ih, List.map_cons]

theorem render_members_map (members : List (String × Json)) :
    renderMembers members = members.map fun (key, v) => renderString key ++ ":" ++ v.render := by
  induction members with
  | nil => rfl
  | cons member rest ih => rw [renderMembers, ih, List.map_cons]

theorem render_parts (v : Json) (part : Part) (member : part ∈ v.parts) :
    ∃ opening closing, v.render = opening ++ ",".intercalate (v.parts.map partText) ++ closing ∧ opening.length = 1 := by
  cases v with
  | array items =>
      refine ⟨"[", "]", ?_, rfl⟩
      rw [render, render_items_map, parts, List.map_map]
      simp [Function.comp_def, partText, keyText]
  | object members =>
      refine ⟨"\x7b", "\x7d", ?_, rfl⟩
      rw [render, render_members_map, parts, List.map_map]
      simp [Function.comp_def, partText, keyText]
  | _ => cases member

theorem part_text_at (v : Json) (i : Nat) (part : Part) (read : v.parts[i]? = some part) :
    (v.parts.map partText)[i]? = some (partText part) := by
  rw [List.getElem?_map, read]
  rfl

theorem joined_at (texts : List String) (i : Nat) (text : String) (read : texts[i]? = some text) :
    ∃ before after, ",".intercalate texts = before ++ text ++ after ∧ before.length = lengthBefore texts i := by
  induction texts generalizing i with
  | nil => cases read
  | cons first rest ih =>
      cases i with
      | zero =>
          obtain rfl : first = text := Option.some.inj read
          cases rest with
          | nil => exact ⟨"", "", by simp, rfl⟩
          | cons next rest =>
              refine ⟨"", "," ++ ",".intercalate (next :: rest), ?_, rfl⟩
              rw [String.intercalate_cons_cons]
              simp [String.append_assoc]
      | succ i =>
          obtain ⟨before, after, joined, sized⟩ := ih i (by simpa using read)
          cases rest with
          | nil => cases read
          | cons next rest =>
              refine ⟨first ++ "," ++ before, after, ?_, ?_⟩
              · rw [String.intercalate_cons_cons, joined]
                simp [String.append_assoc]
              · rw [String.length_append, String.length_append, sized, lengthBefore]
                rfl

theorem length_before_later (texts : List String) (i j : Nat) (text : String) (read : texts[i]? = some text)
    (later : i < j) : lengthBefore texts i + text.length + 1 ≤ lengthBefore texts j := by
  induction texts generalizing i j with
  | nil => cases read
  | cons first rest ih =>
      obtain ⟨j, rfl⟩ := Nat.exists_eq_add_one_of_ne_zero (Nat.ne_of_gt (Nat.zero_lt_of_lt later))
      cases i with
      | zero =>
          obtain rfl : first = text := Option.some.inj read
          simp only [lengthBefore]
          omega
      | succ i =>
          have passed := ih i j (by simpa using read) (Nat.lt_of_succ_lt_succ later)
          simp only [lengthBefore]
          omega

theorem text_at (v : Json) (p : List Nat) (w : Json) (held : v.inside? p = some w) :
    ∃ before after, v.render = before ++ w.render ++ after ∧ before.length = v.startOf p := by
  induction p generalizing v with
  | nil =>
      obtain rfl : v = w := Option.some.inj held
      exact ⟨"", "", by simp, rfl⟩
  | cons i rest ih =>
      obtain ⟨part, read, within⟩ := Option.bind_eq_some_iff.mp held
      obtain ⟨opening, closing, written, single⟩ := render_parts v part (List.mem_of_getElem? read)
      obtain ⟨earlier, later, joined, sized⟩ := joined_at _ i _ (part_text_at v i part read)
      obtain ⟨before, after, split, placed⟩ := ih part.2 within
      refine ⟨opening ++ earlier ++ keyText part.1 ++ before, after ++ later ++ closing, ?_, ?_⟩
      · rw [written, joined, partText, split]
        simp [String.append_assoc]
      · simp [startOf, read, single, sized, placed]

theorem start_within (v : Json) (p : List Nat) (w : Json) (held : v.inside? p = some w) :
    v.startOf p ≤ v.render.length := by
  obtain ⟨before, after, written, placed⟩ := text_at v p w held
  rw [written, ← placed, String.length_append, String.length_append, Nat.add_assoc]
  exact Nat.le_add_right _ _

theorem start_mono (p q : List Nat) (less : p < q) (v a b : Json) (first : v.inside? p = some a)
    (second : v.inside? q = some b) : v.startOf p < v.startOf q := by
  induction p generalizing q v with
  | nil =>
      cases q with
      | nil => exact absurd less (List.lt_irrefl _)
      | cons j q =>
          obtain ⟨part, read, _⟩ := Option.bind_eq_some_iff.mp second
          simp only [startOf, read]
          omega
  | cons i p ih =>
      cases q with
      | nil => exact absurd less (List.not_lt_nil _)
      | cons j q =>
          obtain ⟨left, readLeft, within⟩ := Option.bind_eq_some_iff.mp first
          obtain ⟨right, readRight, behind⟩ := Option.bind_eq_some_iff.mp second
          rcases List.cons_lt_cons_iff.mp less with earlier | ⟨rfl, deeper⟩
          · have passed := length_before_later _ i j _ (part_text_at v i left readLeft) earlier
            have bounded := start_within left.2 p a within
            simp only [partText, String.length_append] at passed
            simp only [startOf, readLeft, readRight]
            omega
          · obtain rfl : left = right := Option.some.inj (readLeft.symm.trans readRight)
            simp only [startOf, readLeft]
            exact Nat.add_lt_add_left (ih q deeper left.2 within behind) _

end Json

namespace Path

open Json (Part parts inside? startOf)

def bears (name : String) (part : Part) : Bool := name == "*" || part.1 == some name

def partsNamed (name : String) (v : Json) : List Nat :=
  (List.range v.parts.length).filter fun i => v.parts[i]?.any (bears name)

mutual

-- The places in the order in which the descent comes to them: first the parts of the name, then what is inside of
-- each part.
def visited (name : String) : Json → List (List Nat)
  | .array items => (partsNamed name (.array items)).map ([·]) ++ visitedItems name 0 items
  | .object members => (partsNamed name (.object members)).map ([·]) ++ visitedMembers name 0 members
  | _ => []

def visitedItems (name : String) : Nat → List Json → List (List Nat)
  | _, [] => []
  | i, v :: rest => (visited name v).map (i :: ·) ++ visitedItems name (i + 1) rest

def visitedMembers (name : String) : Nat → List (String × Json) → List (List Nat)
  | _, [] => []
  | i, (_, v) :: rest => (visited name v).map (i :: ·) ++ visitedMembers name (i + 1) rest

end

inductive Selects (name : String) : Json → List Nat → Prop where
  | part {v : Json} {i : Nat} {part : Part} (read : v.parts[i]? = some part) (named : bears name part = true) :
      Selects name v [i]
  | deeper {v : Json} {i : Nat} {part : Part} {rest : List Nat} (read : v.parts[i]? = some part)
      (within : Selects name part.2 rest) : Selects name v (i :: rest)

def visitedInside (name : String) (v : Json) : List (List Nat) :=
  v.parts.zipIdx.flatMap fun (part, i) => (visited name part.2).map (i :: ·)

theorem visited_items (name : String) (i : Nat) (items : List Json) :
    visitedItems name i items =
      ((items.map ((none, ·) : Json → Part)).zipIdx i).flatMap fun (part, i) => (visited name part.2).map (i :: ·) := by
  induction items generalizing i with
  | nil => rfl
  | cons v rest ih => rw [visitedItems, ih, List.map_cons, List.zipIdx_cons, List.flatMap_cons]

theorem visited_members (name : String) (i : Nat) (members : List (String × Json)) :
    visitedMembers name i members =
      ((members.map fun (key, v) => ((some key, v) : Part)).zipIdx i).flatMap fun (part, i) =>
        (visited name part.2).map (i :: ·) := by
  induction members generalizing i with
  | nil => rfl
  | cons v rest ih => rw [visitedMembers, ih, List.map_cons, List.zipIdx_cons, List.flatMap_cons]

theorem visited_parts (name : String) (v : Json) :
    visited name v = (partsNamed name v).map ([·]) ++ visitedInside name v := by
  cases v with
  | array items => rw [visited, visited_items]; rfl
  | object members => rw [visited, visited_members]; rfl
  | _ => rfl

theorem mem_parts_named (name : String) (v : Json) (i : Nat) :
    i ∈ partsNamed name v ↔ ∃ part, v.parts[i]? = some part ∧ bears name part = true := by
  rw [partsNamed, List.mem_filter, Option.any_eq_true, List.mem_range, and_iff_right_iff_imp]
  rintro ⟨part, read, _⟩
  exact (List.getElem?_eq_some_iff.mp read).1

theorem mem_visited_inside (name : String) (v : Json) (p : List Nat) :
    p ∈ visitedInside name v ↔
      ∃ i part rest, p = i :: rest ∧ v.parts[i]? = some part ∧ rest ∈ visited name part.2 := by
  rw [visitedInside, List.mem_flatMap]
  constructor
  · rintro ⟨⟨part, i⟩, member, within⟩
    obtain ⟨rest, deeper, rfl⟩ := List.mem_map.mp within
    exact ⟨i, part, rest, rfl, List.mem_zipIdx_iff_getElem?.mp member, deeper⟩
  · rintro ⟨i, part, rest, rfl, read, deeper⟩
    exact ⟨(part, i), List.mem_zipIdx_iff_getElem?.mpr read, List.mem_map_of_mem deeper⟩

theorem mem_visited (name : String) (v : Json) (p : List Nat) : p ∈ visited name v ↔ Selects name v p := by
  constructor
  · intro member
    induction v using Json.part_induction generalizing p with
    | step v ih =>
        rw [visited_parts, List.mem_append] at member
        rcases member with own | inside
        · obtain ⟨i, named, rfl⟩ := List.mem_map.mp own
          obtain ⟨part, read, bearing⟩ := (mem_parts_named name v i).mp named
          exact .part read bearing
        · obtain ⟨i, part, rest, rfl, read, deeper⟩ := (mem_visited_inside name v p).mp inside
          exact .deeper read (ih part (List.mem_of_getElem? read) rest deeper)
  · intro selected
    induction selected with
    | part read named =>
        rw [visited_parts, List.mem_append]
        exact .inl (List.mem_map_of_mem ((mem_parts_named name _ _).mpr ⟨_, read, named⟩))
    | deeper read _ ih =>
        rw [visited_parts, List.mem_append]
        exact .inr ((mem_visited_inside name _ _).mpr ⟨_, _, _, rfl, read, ih⟩)

theorem selected_proper (name : String) (v : Json) (p : List Nat) (selected : Selects name v p) : p ≠ [] := by
  cases selected <;> exact List.cons_ne_nil _ _

-- A relation that holds in the parts, and of what is inside of one part and of a later one, holds along the whole
-- descent, if it holds of the parts of the name and of what is inside.
theorem visited_pairwise (name : String) (v : Json) (before : List Nat → List Nat → Prop)
    (across : ∀ i j p q, i < j → before (i :: p) (j :: q)) (under : ∀ i p q, before p q → before (i :: p) (i :: q))
    (within : ∀ part ∈ v.parts, (visited name part.2).Pairwise before)
    (ahead : ∀ j i q, Selects name v [j] → Selects name v (i :: q) → q ≠ [] → before [j] (i :: q)) :
    (visited name v).Pairwise before := by
  rw [visited_parts, List.pairwise_append]
  refine ⟨?_, ?_, fun p own q inside => ?_⟩
  · refine List.pairwise_map.mpr (List.Pairwise.filter _ ?_)
    exact List.pairwise_lt_range.imp fun {i j} less => across i j [] [] less
  · rw [visitedInside, List.pairwise_flatMap]
    refine ⟨fun ⟨part, i⟩ member => ?_, ?_⟩
    · have read := List.mem_zipIdx_iff_getElem?.mp member
      exact List.pairwise_map.mpr ((within part (List.mem_of_getElem? read)).imp fun {p q} => under i p q)
    · have ascending : (v.parts.zipIdx.map Prod.snd).Pairwise (· < ·) := by
        rw [List.zipIdx_map_snd]
        exact List.pairwise_lt_range'
      refine (List.pairwise_map.mp ascending).imp fun {a b} less p first q second => ?_
      obtain ⟨p, _, rfl⟩ := List.mem_map.mp first
      obtain ⟨q, _, rfl⟩ := List.mem_map.mp second
      exact across a.2 b.2 p q less
  · obtain ⟨j, named, rfl⟩ := List.mem_map.mp own
    obtain ⟨part, read, bearing⟩ := (mem_parts_named name v j).mp named
    obtain ⟨i, other, rest, rfl, there, deeper⟩ := (mem_visited_inside name v q).mp inside
    have selected := (mem_visited name other.2 rest).mp deeper
    exact ahead j i rest (.part read bearing) (.deeper there selected) (selected_proper name other.2 rest selected)

theorem visited_once (name : String) (v : Json) : (visited name v).Nodup := by
  induction v using Json.part_induction with
  | step v ih =>
      refine visited_pairwise name v (· ≠ ·) ?_ ?_ ih ?_
      · rintro i j p q less same
        exact absurd (List.cons.inj same).1 (Nat.ne_of_lt less)
      · exact fun i p q apart same => apart (List.cons.inj same).2
      · exact fun j i q _ _ deeper same => deeper (List.cons.inj same).2.symm

-- Nothing of the name is inside of a part, where another part that bears the name comes behind it.
def LastFilled (name : String) (v : Json) : Prop :=
  ∀ p i j q, i < j → Selects name v (p ++ [j]) → Selects name v (p ++ i :: q) → q = []

theorem last_filled_part (name : String) (v : Json) (filled : LastFilled name v) (part : Part)
    (member : part ∈ v.parts) : LastFilled name part.2 := by
  obtain ⟨k, read⟩ := List.mem_iff_getElem?.mp member
  exact fun p i j q less later inside => filled (k :: p) i j q less (.deeper read later) (.deeper read inside)

theorem visited_ascending (name : String) (v : Json) (filled : LastFilled name v) :
    (visited name v).Pairwise (· < ·) := by
  induction v using Json.part_induction with
  | step v ih =>
      refine visited_pairwise name v (· < ·) ?_ ?_ ?_ ?_
      · exact fun i j p q less => List.cons_lt_cons_iff.mpr (.inl less)
      · exact fun i p q less => List.cons_lt_cons_iff.mpr (.inr ⟨rfl, less⟩)
      · exact fun part member => ih part member (last_filled_part name v filled part member)
      · intro j i q named inside deeper
        rcases Nat.lt_trichotomy i j with earlier | rfl | later
        · exact absurd (filled [] i j q earlier named inside) deeper
        · obtain ⟨k, rest, rfl⟩ := List.exists_cons_of_ne_nil deeper
          exact List.cons_lt_cons_iff.mpr (.inr ⟨rfl, List.nil_lt_cons k rest⟩)
        · exact List.cons_lt_cons_iff.mpr (.inl later)

theorem selected_named (name : String) (v : Json) (j : Nat) (selected : Selects name v [j]) :
    j ∈ partsNamed name v := by
  cases selected with
  | part read named => exact (mem_parts_named name v j).mpr ⟨_, read, named⟩
  | deeper _ within => exact absurd rfl (selected_proper _ _ _ within)

theorem selected_inside (name : String) (v : Json) (i : Nat) (q : List Nat) (selected : Selects name v (i :: q))
    (deeper : q ≠ []) : ∃ part, v.parts[i]? = some part ∧ Selects name part.2 q := by
  cases selected with
  | part _ _ => exact absurd rfl deeper
  | deeper read within => exact ⟨_, read, within⟩

theorem visited_first (name : String) (v : Json) (p : List Nat) (i j : Nat) (q : List Nat)
    (named : Selects name v (p ++ [j])) (inside : Selects name v (p ++ i :: q)) (deeper : q ≠ []) :
    [p ++ [j], p ++ i :: q].Sublist (visited name v) := by
  induction p generalizing v with
  | nil =>
      obtain ⟨part, read, within⟩ := selected_inside name v i q inside deeper
      have later : i :: q ∈ visitedInside name v :=
        (mem_visited_inside name v _).mpr ⟨i, part, q, rfl, read, (mem_visited name part.2 q).mpr within⟩
      have own : [j] ∈ (partsNamed name v).map ([·]) := List.mem_map_of_mem (selected_named name v j named)
      rw [visited_parts]
      exact (List.singleton_sublist.mpr own).append (List.singleton_sublist.mpr later)
  | cons k p ih =>
      obtain ⟨part, read, within⟩ := selected_inside name v k (p ++ [j]) named (by simp)
      obtain ⟨again, there, behind⟩ := selected_inside name v k (p ++ i :: q) inside (by simp)
      obtain rfl : part = again := Option.some.inj (read.symm.trans there)
      have block : (visited name part.2).map (k :: ·) ∈
          v.parts.zipIdx.map fun (part, i) => (visited name part.2).map (i :: ·) :=
        List.mem_map.mpr ⟨(part, k), List.mem_zipIdx_iff_getElem?.mpr read, rfl⟩
      rw [visited_parts]
      exact (((ih part.2 within behind).map (k :: ·)).trans (List.sublist_flatten_of_mem block)).trans
        (List.sublist_append_right _ _)

theorem selected_held (name : String) (v : Json) (p : List Nat) (selected : Selects name v p) :
    ∃ w, v.inside? p = some w := by
  induction selected with
  | part read _ => exact ⟨_, Json.inside_cons _ _ _ read []⟩
  | deeper read _ ih =>
      obtain ⟨w, held⟩ := ih
      exact ⟨w, (Json.inside_cons _ _ _ read _).trans held⟩

theorem visited_ordered_iff (name : String) (v : Json) :
    (visited name v).Pairwise (fun p q => v.startOf p < v.startOf q) ↔ LastFilled name v := by
  constructor
  · intro ordered p i j q less named inside
    by_contra deeper
    obtain ⟨a, first⟩ := selected_held name v _ inside
    obtain ⟨b, second⟩ := selected_held name v _ named
    have placed : v.startOf (p ++ i :: q) < v.startOf (p ++ [j]) :=
      Json.start_mono _ _ (List.append_left_lt (List.cons_lt_cons_iff.mpr (.inl less))) v a b first second
    have visits := ordered.sublist (visited_first name v p i j q named inside deeper)
    have before := (List.pairwise_cons.mp visits).1 _ (List.mem_singleton_self _)
    omega
  · intro filled
    refine (visited_ascending name v filled).imp_of_mem fun {p q} left right less => ?_
    obtain ⟨a, first⟩ := selected_held name v p ((mem_visited name v p).mp left)
    obtain ⟨b, second⟩ := selected_held name v q ((mem_visited name v q).mp right)
    exact Json.start_mono p q less v a b first second

theorem filter_by_key (name : String) (members : List (String × Json)) (distinct : (members.map Prod.fst).Nodup) :
    (members.filter (·.1 == name)).map Prod.snd = (Json.lookup name members).toList := by
  induction members with
  | nil => rfl
  | cons member rest ih =>
      obtain ⟨fresh, later⟩ := List.nodup_cons.mp distinct
      by_cases same : member.1 = name
      · have others : rest.filter (·.1 == name) = [] := by
          refine List.filter_eq_nil_iff.mpr fun other known again => fresh ?_
          rw [same, ← beq_iff_eq.mp again]
          exact List.mem_map_of_mem known
        simp [Json.lookup, same, others]
      · simpa [Json.lookup, same] using ih later

def ownValues (name : String) : Json → List Json
  | .array items => if name = "*" then items else []
  | .object members => if name = "*" then members.map (·.2) else (Json.lookup name members).toList
  | _ => []

theorem own_values (name : String) (v : Json) (keyed : v.Keyed) :
    (v.parts.filter (bears name)).map Prod.snd = ownValues name v := by
  by_cases all : name = "*"
  · have every : v.parts.filter (bears name) = v.parts :=
      List.filter_eq_self.mpr fun part _ => by simp [bears, all]
    rw [every]
    cases v <;> simp [parts, ownValues, all, Function.comp_def]
  · have byKey : bears name = fun part => part.1 == some name := by
      funext part
      simp [bears, all]
    rw [byKey]
    cases v with
    | array items => simp [parts, ownValues, all]
    | object members =>
        have distinct := keyed [] members rfl
        simpa [parts, ownValues, all, List.filter_map, Function.comp_def] using filter_by_key name members distinct
    | _ => rfl

theorem descendants_of_items_each (name : String) (items : List Json) :
    descendantsOfItems name items = items.flatMap (descendants name) := by
  induction items with
  | nil => rfl
  | cons v rest ih => rw [descendantsOfItems, ih, List.flatMap_cons]

theorem descendants_of_members_each (name : String) (members : List (String × Json)) :
    descendantsOfMembers name members = members.flatMap (descendants name ·.2) := by
  induction members with
  | nil => rfl
  | cons member rest ih => rw [descendantsOfMembers, ih, List.flatMap_cons]

theorem descendants_parts (name : String) (v : Json) :
    descendants name v = ownValues name v ++ v.parts.flatMap (descendants name ·.2) := by
  cases v with
  | array items => rw [descendants, descendants_of_items_each, parts, List.flatMap_map]; rfl
  | object members => rw [descendants, descendants_of_members_each, parts, List.flatMap_map]; rfl
  | _ => rfl

theorem named_values (name : String) (v : Json) (keyed : v.Keyed) :
    (partsNamed name v).map (v.inside? [·]) = (ownValues name v).map some := by
  have alone (i : Nat) : v.inside? [i] = v.parts[i]?.map Prod.snd := by
    cases read : v.parts[i]? <;> simp [inside?, read]
  calc (partsNamed name v).map (v.inside? [·])
    _ = (((List.range v.parts.length).map (v.parts[·]?)).filter (·.any (bears name))).map (Option.map Prod.snd) := by
      rw [List.filter_map, List.map_map]
      exact List.map_congr_left fun i _ => alone i
    _ = ((v.parts.filter (bears name)).map Prod.snd).map some := by
      rw [read_by_place, List.filter_map, List.map_map, List.map_map]
      rfl
    _ = (ownValues name v).map some := by rw [own_values name v keyed]

theorem visited_values (name : String) (v : Json) (keyed : v.Keyed) :
    (visited name v).map v.inside? = (descendants name v).map some := by
  induction v using Json.part_induction with
  | step v ih =>
      have inside : (visitedInside name v).map v.inside? = (v.parts.flatMap (descendants name ·.2)).map some := by
        have each : ∀ entry ∈ v.parts.zipIdx, ((visited name entry.1.2).map (entry.2 :: ·)).map v.inside? =
            (descendants name entry.1.2).map some := by
          rintro ⟨part, i⟩ member
          have read := List.mem_zipIdx_iff_getElem?.mp member
          have known := List.mem_of_getElem? read
          rw [← ih part known (Json.keyed_part v keyed part known), List.map_map]
          exact List.map_congr_left fun p _ => Json.inside_cons v i part read p
        rw [visitedInside, List.map_flatMap, List.flatMap_congr each, List.map_flatMap]
        conv_rhs => rw [← List.zipIdx_map_fst 0 v.parts, List.flatMap_map]
      rw [visited_parts, descendants_parts, List.map_append, List.map_append, inside, List.map_map]
      exact congrArg (· ++ _) (named_values name v keyed)

/-- A descent selects each part of the name, at any depth and at one place once: the selected values are those at the
places in the order in which it comes to them. That is the order in which they start in the compact text exactly
when nothing of the name is inside of a part, where another part that bears the name comes behind it. -/
theorem descent_ordered_iff (name : String) (doc : Json) (keyed : doc.Keyed) :
    (∀ p v, doc.inside? p = some v →
        ∃ before after, doc.render = before ++ v.render ++ after ∧ before.length = doc.startOf p) ∧
      ((⟨[.descend name]⟩ : Path).find doc).map some = (visited name doc).map doc.inside? ∧
      (∀ p, p ∈ visited name doc ↔ Selects name doc p) ∧
      (visited name doc).Nodup ∧
      ((visited name doc).Pairwise (fun p q => doc.startOf p < doc.startOf q) ↔
        ∀ p i j q, i < j → Selects name doc (p ++ [j]) → Selects name doc (p ++ i :: q) → q = []) := by
  refine ⟨Json.text_at doc, ?_, mem_visited name doc, visited_once name doc, visited_ordered_iff name doc⟩
  rw [visited_values name doc keyed, Path.find, selectFrom, selectFrom, List.flatMap_singleton]
  rfl

def innerAndOuter : Json := .object [("a", .object [("b", .number (.int 1))]), ("b", .number (.int 2))]

theorem inner_and_outer_keyed : innerAndOuter.Keyed := by
  have plain (n : Number) : (Json.number n).Keyed := Json.keyed_of_parts _ nofun nofun
  have inner : (Json.object [("b", .number (.int 1))]).Keyed := by
    refine Json.keyed_of_parts _ ?_ (by simpa [parts] using plain (.int 1))
    rintro _ ⟨⟩
    decide
  refine Json.keyed_of_parts _ ?_ (by simpa [innerAndOuter, parts] using ⟨inner, plain (.int 2)⟩)
  rintro _ ⟨⟩
  decide

theorem inner_and_outer_visited :
    innerAndOuter.Keyed ∧ visited "b" innerAndOuter = [[1], [0, 0]] ∧ (visited "b" innerAndOuter).Nodup ∧
      ((⟨[.descend "b"]⟩ : Path).find innerAndOuter).map some = [[1], [0, 0]].map innerAndOuter.inside? := by
  have descent := descent_ordered_iff "b" innerAndOuter inner_and_outer_keyed
  exact ⟨inner_and_outer_keyed, by decide, descent.2.2.2.1, descent.2.1⟩

theorem outer_before_inner :
    innerAndOuter.render = "\x7b\"a\":\x7b\"b\":1\x7d,\"b\":2\x7d" ∧
      innerAndOuter.startOf [0, 0] = 10 ∧ innerAndOuter.startOf [1] = 17 ∧
      innerAndOuter.inside? [0, 0] = some (.number (.int 1)) ∧ innerAndOuter.inside? [1] = some (.number (.int 2)) ∧
      (⟨[.descend "b"]⟩ : Path).find innerAndOuter = [.number (.int 2), .number (.int 1)] := by
  refine ⟨by decide +kernel, by decide +kernel, by decide +kernel, rfl, rfl, rfl⟩

end Path

end LiveTable
