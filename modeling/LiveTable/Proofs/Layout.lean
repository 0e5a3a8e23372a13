import LiveTable.Proofs.Declaration
import LiveTable.Proofs.Difference
import LiveTable.Proofs.Hydration
import LiveTable.Proofs.Provenance
import LiveTable.Resource.Registry

namespace LiveTable

namespace ColumnSpecs

theorem merge_into_length (columns : List Column) (builtin : Column) :
    (mergeInto columns builtin).length = columns.length := by
  induction columns with
  | nil => rfl
  | cons c rest ih =>
      rw [mergeInto]
      split
      · rfl
      · rw [List.length_cons, List.length_cons, ih]

theorem merged_length (columns : List Column) (builtins : Header) :
    (builtins.foldl mergeInto columns).length = columns.length := by
  induction builtins generalizing columns with
  | nil => rfl
  | cons builtin rest ih => rw [List.foldl_cons, ih, merge_into_length]

theorem header_length (specs : ColumnSpecs) (builtin : Header) :
    (specs.header builtin).length = specs.length + (specs.others builtin).length := by
  rw [header, List.length_append, merged_length, List.length_map, List.length_map]

theorem places_length (builtin : Header) (p : Column → Bool) :
    ((List.range builtin.length).filter fun i => builtin[i]?.any p).length = (builtin.filter p).length := by
  calc ((List.range builtin.length).filter fun i => builtin[i]?.any p).length
      = (((List.range builtin.length).map (builtin[·]?)).filter (Option.any p)).length := by
          rw [List.filter_map, List.length_map]
          rfl
    _ = ((builtin.map some).filter (Option.any p)).length := by rw [read_by_place]
    _ = (builtin.filter p).length := by
          rw [List.filter_map, List.length_map]
          rfl

theorem realize_length (now : Int) (specs : ColumnSpecs) (object : Json) (builtin : Header) (row : Row) :
    (specs.realize now object builtin row).fields.length = (specs.header builtin).length := by
  rw [header_length, realize, List.length_append, List.length_map, List.length_map,
    places_length builtin fun c => !specs.declares c, others]

end ColumnSpecs

namespace Renderer

theorem rendering_row {α : Type} (read : Json → Except ReadError α) (row? : α → Option Row) (object : Json) (row : Row)
    (rendered : rendering read row? object = some (.ok row)) : ∃ a, read object = .ok a ∧ row? a = some row := by
  unfold rendering at rendered
  cases found : read object with
  | error e => simp [found] at rendered
  | ok a =>
      rw [found] at rendered
      obtain ⟨made, given, same⟩ := Option.map_eq_some_iff.mp rendered
      cases same
      exact ⟨a, rfl, given⟩

def Fits (r : Renderer) : Prop :=
  ∀ now ns object row, r.render now ns object = some (.ok row) → row.fields.length = (r.header ns).length

-- A kind of which every object that can be read has a row, with a cell for each column.
def Total (r : Renderer) : Prop :=
  ∃ (α : Type) (read : Json → Except ReadError α) (row : Int → String → α → Row),
    (∀ now ns, r.render now ns = rendering read (some ∘ row now ns)) ∧
      ∀ now ns a, (row now ns a).fields.length = (r.header ns).length

theorem Total.fits {r : Renderer} (total : r.Total) : r.Fits := by
  obtain ⟨α, read, row, renders, sized⟩ := total
  intro now ns object made rendered
  rw [renders] at rendered
  obtain ⟨a, _, given⟩ := rendering_row read _ object made rendered
  cases given
  exact sized now ns a

theorem Total.completes {r : Renderer} (total : r.Total) (now : Int) (ns : String) (object : Json) :
    r.render now ns object ≠ none := by
  obtain ⟨α, read, row, renders, _⟩ := total
  rw [renders, rendering]
  cases read object <;> simp

theorem pods_fit : Pod.renderer.Fits := by
  intro now ns object made rendered
  obtain ⟨p, _, given⟩ := rendering_row Pod.read _ object made rendered
  obtain ⟨restarts, _, more⟩ := Option.bind_eq_some_iff.mp given
  obtain ⟨requested, _, further⟩ := Option.bind_eq_some_iff.mp more
  obtain ⟨limited, _, row⟩ := Option.bind_eq_some_iff.mp further
  cases row
  rfl

theorem registered_total : ∀ entry ∈ registered, entry = ("v1/pods", Pod.renderer) ∨ entry.2.Total := by
  simp only [registered, List.forall_mem_cons]
  refine ⟨.inl trivial, ?_, ?_, ?_, ?_, ?_, ?_, ?_, ?_, ?_, ?_, ?_, ?_, ?_, ?_, ?_, ?_, List.forall_mem_nil _⟩
  · exact .inr ⟨_, Service.read, fun now _ => Service.row now, fun _ _ => rfl, fun _ _ _ => rfl⟩
  · exact .inr ⟨_, Node.read, fun now _ => Node.row now, fun _ _ => rfl, fun _ _ _ => rfl⟩
  · exact .inr ⟨_, Namespace.read, fun now _ => Namespace.row now, fun _ _ => rfl, fun _ _ _ => rfl⟩
  · exact .inr ⟨_, ConfigMap.read, fun now _ => ConfigMap.row now, fun _ _ => rfl, fun _ _ _ => rfl⟩
  · exact .inr ⟨_, Secret.read, fun now _ => Secret.row now, fun _ _ => rfl, fun _ _ _ => rfl⟩
  · exact .inr ⟨_, ServiceAccount.read, fun now _ => ServiceAccount.row now, fun _ _ => rfl, fun _ _ _ => rfl⟩
  · exact .inr ⟨_, Volume.read, fun now _ => Volume.row now, fun _ _ => rfl, fun _ _ _ => rfl⟩
  · exact .inr ⟨_, VolumeClaim.read, fun now _ => VolumeClaim.row now, fun _ _ => rfl, fun _ _ _ => rfl⟩
  · exact .inr ⟨_, ClusterEvent.read, fun now _ => ClusterEvent.row now, fun _ _ => rfl, fun _ _ _ => rfl⟩
  · exact .inr ⟨_, Deployment.read, fun now _ => Deployment.row now, fun _ _ => rfl, fun _ _ _ => rfl⟩
  · exact .inr ⟨_, StatefulSet.read, fun now _ => StatefulSet.row now, fun _ _ => rfl, fun _ _ _ => rfl⟩
  · exact .inr ⟨_, DaemonSet.read, fun now _ => DaemonSet.row now, fun _ _ => rfl, fun _ _ _ => rfl⟩
  · exact .inr ⟨_, ReplicaSet.read, fun now _ => ReplicaSet.row now, fun _ _ => rfl, fun _ _ _ => rfl⟩
  · exact .inr ⟨_, Job.read, fun now _ => Job.row now, fun _ _ => rfl, fun _ _ _ => rfl⟩
  · exact .inr ⟨_, CronJob.read, fun now _ => CronJob.row now, fun _ _ => rfl, fun _ _ _ => rfl⟩
  · exact .inr ⟨_, Ingress.read, fun now _ => Ingress.row now, fun _ _ => rfl, fun _ _ _ => rfl⟩

theorem plain_total : plain.Total := by
  refine ⟨_, readMetadata, plainRow, fun _ _ => rfl, fun now ns m => ?_⟩
  simp only [plainRow, plain, plainHeader]
  split <;> rfl

theorem of_key_cases (key : String) : (key, ofKey key) ∈ registered ∨ ofKey key = plain := by
  rw [ofKey]
  cases found : registered.lookup key with
  | none => exact .inr rfl
  | some r =>
      obtain ⟨before, after, split, _⟩ := List.lookup_eq_some_iff.mp found
      exact .inl (by simp [split])

theorem of_key_total (key : String) : key = "v1/pods" ∧ ofKey key = Pod.renderer ∨ (ofKey key).Total := by
  rcases of_key_cases key with member | others
  · exact (registered_total _ member).imp_left Prod.mk.inj
  · exact .inr (others ▸ plain_total)

theorem of_key_fits (key : String) : (ofKey key).Fits := by
  rcases of_key_total key with ⟨_, pods⟩ | total
  · exact pods ▸ pods_fit
  · exact total.fits

end Renderer

namespace Table

theorem lay_row_length (now : Int) (builtin : Header) (specs : ColumnSpecs) (object : Json) (row : Row)
    (fits : row.fields.length = builtin.length) :
    (layRow now builtin specs object row).fields.length = (layout builtin specs).length := by
  unfold layRow layout
  split
  · exact fits
  · exact ColumnSpecs.realize_length now specs object builtin row

theorem relayout_length (t : Table) (h : Header) : (t.relayout h).header.length = h.length := by
  unfold relayout
  split
  · rename_i same
    simpa using congrArg List.length ((Header.same_looks _ _).mp same)
  · rfl

theorem reconcile_rows (now : Int) (t next : Table) (r : Renderer) (specs : ColumnSpecs) (objects : List Json)
    (fits : r.Fits) (completed : t.reconcile? now r specs objects = some (next, .ok ())) :
    ∃ h rows, next = (t.relayout h).update rows ∧ ∀ row ∈ rows, row.fields.length = h.length := by
  have renders := reconcile_renders now t r specs objects (by simp [completed])
  rw [reconcile_completes now t r specs objects renders] at completed
  split at completed
  · cases completed
  · cases completed
    refine ⟨_, _, rfl, fun row member => ?_⟩
    obtain ⟨object, _, made⟩ := List.mem_filterMap.mp member
    obtain ⟨rendered, given, rfl⟩ := Option.map_eq_some_iff.mp made
    exact lay_row_length now _ specs object _ (fits now t.ns object rendered (r.row_rendered now t.ns object _ given))

def RowsFit (t : Table) : Prop := ∀ e ∈ t.events.toList, e.row.fields.length = t.header.length

theorem update_rows_fit (t : Table) (rows : List Row) (indexed : t.events.Indexed)
    (fit : ∀ row ∈ rows, row.fields.length = t.header.length) : (t.update rows).RowsFit := by
  intro e member
  have last := List.mem_of_getLast? (update_last t rows indexed e member)
  exact fit e.row (List.mem_filter.mp last).1

theorem reconcile_rows_fit (now : Int) (t next : Table) (r : Renderer) (specs : ColumnSpecs) (objects : List Json)
    (outcome : Except String Unit) (sound : t.events.Sound) (fits : r.Fits) (fit : t.RowsFit)
    (completed : t.reconcile? now r specs objects = some (next, outcome)) : next.RowsFit := by
  rcases reconcile_cases now t next r specs objects outcome completed with ⟨_, rfl, _⟩ | ⟨_, _, _, rfl⟩
  · exact fit
  · obtain ⟨h, rows, rfl, sized⟩ := reconcile_rows now t next r specs objects fits completed
    refine update_rows_fit _ rows (relayout_sound t h sound).indexed fun row member => ?_
    rw [relayout_length, sized row member]

theorem rows_fit_within (t next : Table) (header : next.header = t.header)
    (events : ∀ e ∈ next.events.toList, e ∈ t.events.toList) (fit : t.RowsFit) : next.RowsFit :=
  fun e member => by rw [header, fit e (events e member)]

theorem filter_header (t : Table) (f : RowFilter) : (t.filter f).header = t.header :=
  kept_header t _ (filter_cases t f)

def Operation.Rendered : Operation → Prop
  | .setHeader _ | .update _ => False
  | .reconcile _ renderer _ _ => ∃ key, renderer = Renderer.ofKey key
  | _ => True

theorem perform_rows_fit (t next : Table) (operation : Operation) (rendered : operation.Rendered)
    (sound : t.events.Sound) (fit : t.RowsFit) (performed : t.perform? operation = some next) : next.RowsFit := by
  cases operation with
  | setHeader header => exact rendered.elim
  | update rows => exact rendered.elim
  | reconcile now renderer specs objects =>
      obtain ⟨key, rfl⟩ := rendered
      obtain ⟨⟨table, outcome⟩, completed, rfl⟩ := Option.map_eq_some_iff.mp performed
      exact reconcile_rows_fit now t table _ specs objects outcome sound (Renderer.of_key_fits key) fit completed
  | delete id =>
      cases performed
      exact rows_fit_within t _ rfl (delete_events t id) fit
  | clear =>
      cases performed
      intro e member
      cases member
  | reset ns =>
      cases performed
      intro e member
      cases member
  | sort column =>
      obtain ⟨permuted, header, _⟩ := sort_only_permutes t next column performed
      exact rows_fit_within t next header (fun e => permuted.mem_iff.mp) fit
  | filter f =>
      cases performed
      exact rows_fit_within t _ (filter_header t f) (filter_events t f) fit

theorem history_rows_fit (t next : Table) (history : List Operation) (rendered : ∀ op ∈ history, op.Rendered)
    (sound : t.events.Sound) (fit : t.RowsFit) (performed : history.foldlM perform? t = some next) : next.RowsFit := by
  induction history generalizing t with
  | nil =>
      cases performed
      exact fit
  | cons operation rest ih =>
      obtain ⟨after, first, others⟩ := Option.bind_eq_some_iff.mp performed
      refine ih after (fun op member => rendered op (.tail _ member)) ?_ ?_ others
      · exact perform_sound t after operation sound first
      · exact perform_rows_fit t after operation (rendered operation (.head _)) sound fit first

theorem rows_fit_header (ns : String) (history : List Operation) (rendered : ∀ op ∈ history, op.Rendered) (t : Table)
    (performed : history.foldlM perform? (new ns) = some t) :
    ∀ e ∈ t.events.toList, e.row.fields.length = t.header.length ∧ e.delta.length = t.header.length := by
  intro e member
  have fit := history_rows_fit (new ns) t history rendered RowEvents.sound_empty nofun performed e member
  exact ⟨fit, (arrived_length e (history_arrived (new ns) t history nofun performed e member)).trans fit⟩

def twoEvents : List Json :=
  ["a", "b"].map fun name =>
    .object [("apiVersion", .string "v1"), ("kind", .string "Event"),
      ("metadata", .object [("name", .string name), ("namespace", .string "x")])]

def nameFirst : ColumnSpecs := (ColumnSpecs.parse ["NAME", "FROM:.metadata.namespace", "COUNT"]).toOption.getD []

def relaidEvents : List Operation :=
  [.reconcile 0 (Renderer.ofKey "v1/events") [] twoEvents, .sort ⟨nameName, false⟩,
    .reconcile 60 (Renderer.ofKey "v1/events") nameFirst twoEvents, .delete "x/a",
    .reconcile 120 (Renderer.ofKey "x.io/v1/widgets") nameFirst twoEvents]

theorem relaid_events_fit :
    ∃ t ∈ relaidEvents.foldlM perform? (new "all"), t.events.ids = ["x/a", "x/b"] ∧
      ∀ e ∈ t.events.toList, e.row.fields.length = 7 ∧ e.delta.length = 7 := by
  have rendered : ∀ op ∈ relaidEvents, op.Rendered := by
    simp only [relaidEvents, List.forall_mem_cons]
    exact ⟨⟨_, rfl⟩, trivial, ⟨_, rfl⟩, trivial, ⟨_, rfl⟩, nofun⟩
  have laid : (relaidEvents.foldlM perform? (new "all")).map (fun t => (t.events.ids, t.header.length)) =
      some (["x/a", "x/b"], 7) := by decide +kernel
  obtain ⟨t, performed, same⟩ := Option.map_eq_some_iff.mp laid
  rw [Prod.mk.injEq] at same
  refine ⟨t, performed, same.1, fun e member => ?_⟩
  have fit := rows_fit_header "all" relaidEvents rendered t performed e member
  rwa [same.2] at fit

end Table

end LiveTable
