import LiveTable.Proofs.Invariant
import LiveTable.Proofs.Trimming
import Mathlib.Data.List.NodupEquivFin

namespace LiveTable

namespace Text

-- Every character of one text has a place in the other, and the places keep the order of the characters.
def Embeds (part text : List Char) : Prop :=
  ∃ place : Fin part.length ↪o Fin text.length, ∀ i, part.get i = text.get (place i)

theorem subsequence_sublist (part text : List Char) : isSubsequence part text = true ↔ part.Sublist text := by
  fun_induction isSubsequence part text with
  | case1 text => simp
  | case2 c cs => simp
  -- The first `c` is as good as any later one: what comes behind a later one comes behind the first one too.
  | case3 c cs ds ih => rw [ih, List.cons_sublist_cons]
  | case4 c cs d ds other ih =>
      rw [ih]
      refine ⟨fun found => found.cons d, fun found => ?_⟩
      cases found with
      | cons _ later => exact later
      | cons_cons _ _ => exact absurd rfl other

theorem subsequence_embeds (part text : List Char) : isSubsequence part text = true ↔ Embeds part text :=
  (subsequence_sublist part text).trans List.sublist_iff_exists_fin_orderEmbedding_get_eq

instance (part text : List Char) : Decidable (Embeds part text) := decidable_of_iff _ (subsequence_embeds part text)

end Text

theorem RowFilter.selection_fuzzy (query part : String) :
    selection query = .fuzzy part ↔ ∃ wanted, Text.trim query = "-f " ++ wanted ∧ part = Text.trim wanted := by
  have written (wanted : String) : Text.trim query = "-f " ++ wanted ↔
      Text.trimChars query.toList = '-' :: 'f' :: ' ' :: wanted.toList := by
    rw [← String.toList_inj, Text.trim_text, String.toList_append]
    rfl
  simp only [written]
  constructor
  · intro selected
    unfold selection at selected
    split at selected
    · cases selected
    · rename_i rest marked
      cases selected
      refine ⟨String.ofList rest, ?_, ?_⟩
      · rw [marked, String.toList_ofList]
      · rw [Text.trim, String.toList_ofList]
    · cases selected
    · cases selected
  · rintro ⟨wanted, marked, rfl⟩
    rw [selection, marked]
    rfl

namespace Table

theorem fuzzy_embeds (t : Table) (part : String) :
    t.fuzzy part = t.keep fun e => Text.Embeds (Text.lower part).toList (Text.lower e.id).toList := by
  refine congrArg t.keep (funext fun e => ?_)
  rw [Bool.eq_iff_iff, decide_eq_true_iff]
  exact Text.subsequence_embeds _ _

theorem fuzzy_keeps_embedded (t : Table) (query wanted : String) (fuzzy : Text.trim query = "-f " ++ wanted) :
    t.filter ⟨false, query⟩ = { t with events := .reindex (t.events.toList.filter fun e =>
        Text.Embeds (Text.lower (Text.trim wanted)).toList (Text.lower e.id).toList) } ∧
      t.filter ⟨true, query⟩ = t.toast.filter ⟨false, query⟩ := by
  have selected := (RowFilter.selection_fuzzy query _).mpr ⟨wanted, fuzzy, rfl⟩
  have kept : t.filter ⟨false, query⟩ = t.fuzzy (Text.trim wanted) := by
    simp only [filter, select, selected, Bool.false_eq_true, if_false]
  refine ⟨?_, rfl⟩
  rw [kept, fuzzy_embeds, keep, RowEvents.filter_reindex]

def numberedPods : Table :=
  ⟨[Column.named nameName], .ofList [.plain .added ⟨"ns1/db-1", ["db-1"]⟩,
    ⟨.updated, ⟨"ns11/Web-1", ["Web-1"]⟩, ["web-1"]⟩, .plain .unchanged ⟨"1/Webs11", ["Webs11"]⟩], "all"⟩

theorem updated_pod_found :
    Text.trim " -f  S1WB1 " = "-f " ++ " S1WB1" ∧
      (numberedPods.filter ⟨false, " -f  S1WB1 "⟩).events.toList = [⟨.updated, ⟨"ns11/Web-1", ["Web-1"]⟩, ["web-1"]⟩] := by
  have fuzzy : Text.trim " -f  S1WB1 " = "-f " ++ " S1WB1" := by decide
  refine ⟨fuzzy, ?_⟩
  rw [(fuzzy_keeps_embedded numberedPods _ _ fuzzy).1]
  decide +kernel

end Table

end LiveTable
