import BehaviorTree.Proofs.Document.Reading
import BehaviorTree.Proofs.Document.Timestamp

/-! # Reading a document that was written

The text of a document is read as the document again, with the usual texts in the place of absent
ones, if its coordinates are finite (`parse_render`).  It is not read at all if one of them is not,
because what is not finite is written as null (`finite_of_parse_render`), or if an integer in it is
too long (`short_of_parse_render`). -/

namespace BehaviorTree

open BehaviorTree.Text Document Document.Checked Json

/-! ### Members of entries -/

/-- The members of an argument. -/
def ParamEntry.members (entry : ParamEntry) : List (String × Option Json) :=
  [("name", entry.name.map .text), ("value", entry.value.map .text)]

/-- The members of a blackboard field. -/
def FieldEntry.members (entry : FieldEntry) : List (String × Option Json) :=
  [("key", entry.key.map .text), ("value", entry.value.map .text),
   ("comment", entry.comment.map .text)]

/-- The members of a node. -/
def NodeEntry.members (entry : NodeEntry) : List (String × Option Json) :=
  [("id", some (.number (.int entry.id))), ("type", some (.text entry.kind.text)),
   ("name", entry.name.map .text), ("x", some (.number (.float entry.x))),
   ("y", some (.number (.float entry.y))), ("func", entry.func.map .text),
   ("policy", entry.policy.map .text), ("comment", entry.comment.map .text),
   ("params", entry.params.map (Json.list ParamEntry.toJson)),
   ("decoratorType", entry.decorator.map fun kind => .text kind.text),
   ("repeaterCount", entry.repeaterCount.map .text),
   ("timeoutDuration", entry.timeoutDuration.map .text),
   ("retryCount", entry.retryCount.map .text),
   ("cooldownDuration", entry.cooldownDuration.map .text),
   ("waitDuration", entry.waitDuration.map .text), ("subtree", entry.subtree.map .text),
   ("fields", entry.fields.map (Json.list FieldEntry.toJson))]

/-- The members of a connection. -/
def LinkEntry.members (entry : LinkEntry) : List (String × Option Json) :=
  [("from", some (.number (.int entry.source))), ("to", some (.number (.int entry.target))),
   ("order", entry.order.map fun n => .number (.int n)), ("fromPoint", entry.fromPoint.map .text),
   ("toPoint", entry.toPoint.map .text)]

/-- The members of a document, with the texts that its timestamps are written as. -/
def Document.members (time : Timestamp → String) (d : Document) : List (String × Option Json) :=
  [("nodes", some (Json.list NodeEntry.toJson d.nodes)),
   ("connections", some (Json.list LinkEntry.toJson d.connections)),
   ("version", some (.text d.version)),
   ("createdAt", d.created.map fun t => .text (time t)),
   ("lastModified", d.modified.map fun t => .text (time t))]

theorem ParamEntry.toJson_eq (entry : ParamEntry) :
    entry.toJson = .object (present entry.members) := by
  simp [toJson, members, present, optional_map]

theorem FieldEntry.toJson_eq (entry : FieldEntry) :
    entry.toJson = .object (present entry.members) := by
  simp [toJson, members, present, optional_map]

theorem NodeEntry.toJson_eq (entry : NodeEntry) :
    entry.toJson = .object (present entry.members) := by
  simp only [toJson, members, present, optional_map, List.flatMap_cons, List.flatMap_nil,
    Detail.all, NodeEntry.detail, Detail.key, List.append_nil, List.append_assoc]
  rfl

theorem LinkEntry.toJson_eq (entry : LinkEntry) :
    entry.toJson = .object (present entry.members) := by
  simp only [toJson, members, present, optional_map, List.flatMap_cons, List.flatMap_nil,
    List.append_nil, List.append_assoc]
  rfl

theorem Document.value_eq (time : Timestamp → String) (d : Document) :
    d.value time = .object (present (d.members time)) := by
  simp only [value, graphFields, members, present, optional_map, List.flatMap_cons,
    List.flatMap_nil, List.append_nil, List.append_assoc]
  rfl

theorem ParamEntry.nodup_members (entry : ParamEntry) :
    (entry.members.map Prod.fst).Nodup := by
  change ["name", "value"].Nodup
  decide

theorem FieldEntry.nodup_members (entry : FieldEntry) :
    (entry.members.map Prod.fst).Nodup := by
  change ["key", "value", "comment"].Nodup
  decide

theorem NodeEntry.nodup_members (entry : NodeEntry) : (entry.members.map Prod.fst).Nodup := by
  change ["id", "type", "name", "x", "y", "func", "policy", "comment", "params", "decoratorType",
    "repeaterCount", "timeoutDuration", "retryCount", "cooldownDuration", "waitDuration", "subtree",
    "fields"].Nodup
  decide

theorem LinkEntry.nodup_members (entry : LinkEntry) : (entry.members.map Prod.fst).Nodup := by
  change ["from", "to", "order", "fromPoint", "toPoint"].Nodup
  decide

theorem Document.nodup_members (time : Timestamp → String) (d : Document) :
    ((d.members time).map Prod.fst).Nodup := by
  change ["nodes", "connections", "version", "createdAt", "lastModified"].Nodup
  decide

/-! ### What is read -/

/-- The argument that is read of the text of one. -/
def ParamEntry.reread (entry : ParamEntry) : ParamEntry :=
  ⟨entry.name.or (some ""), entry.value.or (some "")⟩

/-- The blackboard field that is read of the text of one. -/
def FieldEntry.reread (entry : FieldEntry) : FieldEntry :=
  ⟨entry.key.or (some ""), entry.value.or (some ""), entry.comment.or (some "")⟩

/-- The node that is read of the text of one. -/
def NodeEntry.reread (entry : NodeEntry) : NodeEntry :=
  { entry with
    name := entry.name.or (some "")
    params := entry.params.map (·.map ParamEntry.reread)
    fields := entry.fields.map (·.map FieldEntry.reread) }

/-- The connection that is read of the text of one. -/
def LinkEntry.reread (entry : LinkEntry) : LinkEntry :=
  { entry with
    fromPoint := entry.fromPoint.or (some "right")
    toPoint := entry.toPoint.or (some "left") }

/-- The document that is read of the text of one. -/
def Document.reread (d : Document) : Document :=
  { d with
    nodes := d.nodes.map NodeEntry.reread
    connections := d.connections.map LinkEntry.reread }

theorem ParamEntry.reread_reread (entry : ParamEntry) : entry.reread.reread = entry.reread := by
  simp only [reread, Option.or_assoc, Option.or_self]

theorem FieldEntry.reread_reread (entry : FieldEntry) : entry.reread.reread = entry.reread := by
  simp only [reread, Option.or_assoc, Option.or_self]

theorem NodeEntry.reread_reread (entry : NodeEntry) : entry.reread.reread = entry.reread := by
  simp only [reread, Option.or_assoc, Option.or_self, Option.map_map, Function.comp_def, List.map_map,
    ParamEntry.reread_reread, FieldEntry.reread_reread]

theorem LinkEntry.reread_reread (entry : LinkEntry) : entry.reread.reread = entry.reread := by
  simp only [reread, Option.or_assoc, Option.or_self]

theorem ParamEntry.param_reread (entry : ParamEntry) : entry.reread.param = entry.param := by
  obtain ⟨name, value⟩ := entry
  cases name <;> cases value <;> rfl

theorem FieldEntry.field_reread (entry : FieldEntry) : entry.reread.field = entry.field := by
  obtain ⟨key, value, comment⟩ := entry
  cases key <;> cases value <;> cases comment <;> rfl

theorem NodeEntry.node_reread (entry : NodeEntry) : entry.reread.node = entry.node := by
  have hname : (entry.name.or (some "")).getD "" = entry.name.getD "" := by
    cases entry.name <;> rfl
  have hparams : ∀ entries : List ParamEntry,
      (entries.map ParamEntry.reread).map ParamEntry.param = entries.map ParamEntry.param := by
    intro entries
    rw [List.map_map]
    exact List.map_congr_left fun entry _ => entry.param_reread
  have hfields : ∀ entries : List FieldEntry,
      (entries.map FieldEntry.reread).map FieldEntry.field = entries.map FieldEntry.field := by
    intro entries
    rw [List.map_map]
    exact List.map_congr_left fun entry _ => entry.field_reread
  simp only [NodeEntry.node, NodeEntry.reread, hname, Option.map_map, Function.comp_def, hparams,
    hfields]

theorem LinkEntry.link_reread (entry : LinkEntry) : entry.reread.link = entry.link := by
  obtain ⟨source, target, order, fromPoint, toPoint⟩ := entry
  cases fromPoint <;> cases toPoint <;> rfl

/-- What is read has the graph of what was written. -/
theorem Document.toGraph_reread (d : Document) : d.reread.toGraph = d.toGraph := by
  have hnodes : (d.nodes.map NodeEntry.reread).map NodeEntry.node = d.nodes.map NodeEntry.node := by
    rw [List.map_map]
    exact List.map_congr_left fun entry _ => entry.node_reread
  have hlinks : (d.connections.map LinkEntry.reread).map LinkEntry.link =
      d.connections.map LinkEntry.link := by
    rw [List.map_map]
    exact List.map_congr_left fun entry _ => entry.link_reread
  rw [toGraph, toGraph, reread, hnodes, hlinks]

/-! ### Reading the members -/

theorem map_printed_text (o : Option String) : (o.map Json.text).map printed = o.map .text := by
  cases o <;> rfl

theorem printed_list {α : Type} (encode : α → Json) (items : List α) :
    printed (Json.list encode items) = .array (items.map fun item => printed (encode item)) := by
  rw [Json.list, printed, printedItems_eq_map, List.map_map]
  rfl

theorem printed_object (members : List (String × Option Json)) :
    printed (.object (present members)) = .object (present (printedMembers members)) := by
  rw [printed, printedFields_present]

section members

variable {members : List (String × Option Json)} (hkeys : (members.map Prod.fst).Nodup)

include hkeys

theorem lookup?_printed {key : String} {o : Option Json} (h : (key, o) ∈ members) :
    lookup? key (present (printedMembers members)) = o.map printed :=
  lookup?_present (by rwa [map_fst_printedMembers]) (List.mem_map.2 ⟨_, h, rfl⟩)

theorem textField_printed {lib : Library} (hlib : lib.Reads) (key : String) (o : Option String)
    (h : (key, o.map .text) ∈ members) (absent : Option String) :
    textField lib key absent (present (printedMembers members)) = .ok (o.or absent) :=
  textField_eq hlib ((lookup?_printed hkeys h).trans (map_printed_text o)) absent

end members

section library

variable {lib : Library} (hlib : lib.Reads)

include hlib

theorem paramEntry_printed (entry : ParamEntry) :
    paramEntry lib (printed entry.toJson) = .ok entry.reread := by
  have hname := textField_printed entry.nodup_members hlib "name" entry.name
    (by simp [ParamEntry.members]) (some "")
  have hvalue := textField_printed entry.nodup_members hlib "value" entry.value
    (by simp [ParamEntry.members]) (some "")
  rw [entry.toJson_eq, printed_object, paramEntry]
  simp only [fieldsOf, bind, Except.bind, hname, hvalue]
  rfl

theorem fieldEntry_printed (entry : FieldEntry) :
    fieldEntry lib (printed entry.toJson) = .ok entry.reread := by
  have hkey := textField_printed entry.nodup_members hlib "key" entry.key
    (by simp [FieldEntry.members]) (some "")
  have hvalue := textField_printed entry.nodup_members hlib "value" entry.value
    (by simp [FieldEntry.members]) (some "")
  have hcomment := textField_printed entry.nodup_members hlib "comment" entry.comment
    (by simp [FieldEntry.members]) (some "")
  rw [entry.toJson_eq, printed_object, fieldEntry]
  simp only [fieldsOf, bind, Except.bind, hkey, hvalue, hcomment]
  rfl

omit hlib in
/-- A list of entries is read if each entry is. -/
theorem list_printed {α : Type} {encode : α → Json} {read : Json → Checked α} {reread : α → α}
    {items : List α} (h : ∀ item ∈ items, read (printed (encode item)) = .ok (reread item)) :
    list read (printed (Json.list encode items)) = .ok (items.map reread) := by
  rw [printed_list, list_eq_ok_iff, List.forall₂_map_left_iff, List.forall₂_map_right_iff]
  exact List.forall₂_same.2 h

omit hlib in
/-- So is a list that may be absent. -/
theorem listField_printed {α : Type} {encode : α → Json} {read : Json → Checked α}
    {reread : α → α} (h : ∀ item, read (printed (encode item)) = .ok (reread item))
    {members : List (String × Option Json)} (hkeys : (members.map Prod.fst).Nodup) (key : String)
    (o : Option (List α)) (hmem : (key, o.map (Json.list encode)) ∈ members) :
    default [key] none (nullable (list read)) (present (printedMembers members)) =
      .ok (o.map (·.map reread)) := by
  refine field_eq_ok (lookup?_printed hkeys hmem) nofun (fun v hv => ?_) (fun hnone => ?_)
  · obtain ⟨items, rfl⟩ : ∃ items, o = some items := by
      cases o with
      | none => cases hv
      | some items => exact ⟨items, rfl⟩
    obtain rfl := Option.some.inj hv
    refine nullable_of_ne_null ?_ (list_printed fun item _ => h item)
    rw [printed_list]
    nofun
  · cases o with
    | none => rfl
    | some items => cases hnone

section node

variable (entry : NodeEntry)

omit hlib in
theorem NodeEntry.mem_members_detail (d : Detail) :
    (d.key, (entry.detail d).map .text) ∈ entry.members := by
  cases d <;> simp [NodeEntry.members, Detail.key, NodeEntry.detail]

theorem detail_printed (d : Detail) :
    Document.detail lib d (present (printedMembers entry.members)) = .ok (entry.detail d) := by
  have hother : d.name = d.key ∨ d.name ∉ entry.members.map Prod.fst := by
    cases d <;> simp [NodeEntry.members, Detail.name, Detail.key]
  have hread :=
    (lookup?_printed entry.nodup_members (entry.mem_members_detail d)).trans (map_printed_text _)
  refine field_eq_ok hread ?_ (fun v hv => ?_) (fun hnone => ?_)
  · intro other hmem'
    obtain rfl := List.mem_singleton.1 hmem'
    refine hother.imp_right fun h => lookup?_present_of_notMem ?_
    rwa [map_fst_printedMembers]
  · obtain ⟨s, hs, rfl⟩ := Option.map_eq_some_iff.1 hv
    rw [hs]
    exact nullable_text hlib s
  · rw [Option.map_eq_none_iff.1 hnone]

omit hlib in
theorem decorator_printed :
    default ["decoratorType", "decorator_type"] none decorator
      (present (printedMembers entry.members)) = .ok entry.decorator := by
  have hmem : ("decoratorType", entry.decorator.map fun kind => .text kind.text) ∈
      entry.members := by simp [NodeEntry.members]
  have hread := lookup?_printed entry.nodup_members hmem
  refine field_eq_ok hread ?_ (fun v hv => ?_) (fun hnone => ?_)
  · intro other hmem
    obtain rfl := List.mem_singleton.1 hmem
    refine Or.inr (lookup?_present_of_notMem ?_)
    rw [map_fst_printedMembers]
    simp [NodeEntry.members]
  · cases hd : entry.decorator with
    | none =>
        rw [hd] at hv
        cases hv
    | some kind =>
        rw [hd] at hv
        obtain rfl := Option.some.inj hv
        cases kind <;> rfl
  · cases hd : entry.decorator with
    | none => rfl
    | some kind =>
        rw [hd] at hnone
        cases hnone

theorem coordinate_printed (key : String) {x : Float}
    (hmem : (key, some (.number (.float x))) ∈ entry.members) (hx : x.isFinite = true) :
    default [key] 0.0 (double lib) (present (printedMembers entry.members)) = .ok x := by
  have hread := lookup?_printed entry.nodup_members hmem
  refine field_eq_ok hread nofun (fun v hv => ?_) nofun
  obtain rfl := Option.some.inj hv
  rw [printed, if_pos hx]
  exact double_float hlib hx

/-- A coordinate that is not finite is not read. -/
theorem finite_of_coordinate_printed {key : String} {x y : Float}
    (hmem : (key, some (.number (.float x))) ∈ entry.members)
    (h : default [key] 0.0 (double lib) (present (printedMembers entry.members)) = .ok y) :
    x.isFinite = true := by
  have hread := read_of_field_eq_ok (lookup?_printed entry.nodup_members hmem) h
  by_contra hx
  rw [printed, if_neg hx] at hread
  exact hlib.double_null y (mapError_eq_ok_iff.1 hread)

/-- **A node with finite coordinates is read as it was written.** -/
theorem nodeEntry_printed (hx : entry.x.isFinite = true) (hy : entry.y.isFinite = true) :
    nodeEntry lib (printed entry.toJson) = .ok entry.reread := by
  have hkeys := entry.nodup_members
  have hid : required ["id"] (integer lib) (present (printedMembers entry.members)) =
      .ok entry.id :=
    field_eq_ok (lookup?_printed hkeys (o := some (.number (.int entry.id)))
      (by simp [NodeEntry.members])) nofun
      (fun v hv => by cases hv; exact integer_int hlib entry.id) nofun
  have hkind : required ["type"]
      (fun value => ofExcept (Coercion.oneOf NodeKind.ofText? .notNodeKind value))
      (present (printedMembers entry.members)) = .ok entry.kind :=
    field_eq_ok (lookup?_printed hkeys (o := some (.text entry.kind.text))
      (by simp [NodeEntry.members])) nofun
      (fun v hv => by cases hv; cases entry.kind <;> rfl) nofun
  have hname := textField_printed hkeys hlib "name" entry.name
    (by simp [NodeEntry.members]) (some "")
  have hx := coordinate_printed hlib entry "x" (by simp [NodeEntry.members]) hx
  have hy := coordinate_printed hlib entry "y" (by simp [NodeEntry.members]) hy
  have hfunc := textField_printed hkeys hlib "func" entry.func
    (by simp [NodeEntry.members]) none
  have hpolicy := textField_printed hkeys hlib "policy" entry.policy
    (by simp [NodeEntry.members]) none
  have hcomment := textField_printed hkeys hlib "comment" entry.comment
    (by simp [NodeEntry.members]) none
  have hparams := listField_printed (paramEntry_printed hlib) hkeys "params" entry.params
    (by simp [NodeEntry.members])
  have hdecorator := decorator_printed entry
  have hfields := listField_printed (fieldEntry_printed hlib) hkeys "fields" entry.fields
    (by simp [NodeEntry.members])
  rw [entry.toJson_eq, printed_object, nodeEntry]
  simp only [fieldsOf, bind, Except.bind, hid, hkind, hname, hx, hy, hfunc, hpolicy, hcomment,
    hparams, hdecorator, detail_printed hlib entry, hfields, Option.or_none]
  rfl

/-- **A node that is read has finite coordinates.** -/
theorem finite_of_nodeEntry_printed {answer : NodeEntry}
    (h : nodeEntry lib (printed entry.toJson) = .ok answer) :
    entry.x.isFinite = true ∧ entry.y.isFinite = true := by
  rw [entry.toJson_eq, printed_object, nodeEntry] at h
  obtain ⟨members, hmembers, h⟩ := bind_eq_ok_iff.1 h
  obtain rfl := Except.ok.inj hmembers
  obtain ⟨_, -, h⟩ := bind_eq_ok_iff.1 h
  obtain ⟨_, -, h⟩ := bind_eq_ok_iff.1 h
  obtain ⟨_, -, h⟩ := bind_eq_ok_iff.1 h
  obtain ⟨x, hx, h⟩ := bind_eq_ok_iff.1 h
  obtain ⟨y, hy, h⟩ := bind_eq_ok_iff.1 h
  exact ⟨finite_of_coordinate_printed hlib entry (by simp [NodeEntry.members]) hx,
    finite_of_coordinate_printed hlib entry (by simp [NodeEntry.members]) hy⟩

end node

theorem pointField_printed (entry : LinkEntry) (key other : String) (o : Option String)
    (hmem : (key, o.map .text) ∈ entry.members) (hother : other ∉ entry.members.map Prod.fst)
    (absent : Option String) :
    default [key, other] absent (nullable (text lib)) (present (printedMembers entry.members)) =
      .ok (o.or absent) := by
  have hread := (lookup?_printed entry.nodup_members hmem).trans (map_printed_text _)
  refine field_eq_ok hread ?_ (fun v hv => ?_) (fun hnone => ?_)
  · intro other' hmem'
    obtain rfl := List.mem_singleton.1 hmem'
    exact Or.inr (lookup?_present_of_notMem (by rwa [map_fst_printedMembers]))
  · obtain ⟨s, rfl, rfl⟩ := Option.map_eq_some_iff.1 hv
    exact nullable_text hlib s
  · rw [Option.map_eq_none_iff.1 hnone]
    rfl

theorem end_printed (entry : LinkEntry) (key other : String) (n : ℤ)
    (hmem : (key, some (.number (.int n))) ∈ entry.members)
    (hother : other ∉ entry.members.map Prod.fst) :
    required [key, other] (integer lib) (present (printedMembers entry.members)) = .ok n := by
  refine field_eq_ok (lookup?_printed entry.nodup_members hmem) ?_
    (fun v hv => by cases hv; exact integer_int hlib n) nofun
  intro other' hmem'
  obtain rfl := List.mem_singleton.1 hmem'
  exact Or.inr (lookup?_present_of_notMem (by rwa [map_fst_printedMembers]))

/-- **A connection is read as it was written.** -/
theorem linkEntry_printed (entry : LinkEntry) :
    linkEntry lib (printed entry.toJson) = .ok entry.reread := by
  have hsource := end_printed hlib entry "from" "from_id" entry.source
    (by simp [LinkEntry.members]) (by simp [LinkEntry.members])
  have htarget := end_printed hlib entry "to" "to_id" entry.target
    (by simp [LinkEntry.members]) (by simp [LinkEntry.members])
  have horder : default ["order"] none (nullable (integer lib))
      (present (printedMembers entry.members)) = .ok entry.order := by
    have hmem : ("order", entry.order.map fun n => .number (.int n)) ∈ entry.members := by
      simp [LinkEntry.members]
    have hread := lookup?_printed entry.nodup_members hmem
    cases ho : entry.order with
    | none =>
        rw [ho] at hread
        exact field_eq_ok hread nofun nofun fun _ => rfl
    | some n =>
        rw [ho] at hread
        refine field_eq_ok hread nofun (fun v hv => ?_) nofun
        obtain rfl := Option.some.inj hv
        exact nullable_of_ne_null (by simp [printed]) (integer_int hlib n)
  have hfrom := pointField_printed hlib entry "fromPoint" "from_point" entry.fromPoint
    (by simp [LinkEntry.members]) (by simp [LinkEntry.members])
    (some "right")
  have hto := pointField_printed hlib entry "toPoint" "to_point" entry.toPoint
    (by simp [LinkEntry.members]) (by simp [LinkEntry.members]) (some "left")
  rw [entry.toJson_eq, printed_object, linkEntry]
  simp only [fieldsOf, bind, Except.bind, hsource, htarget, horder, hfrom, hto]
  rfl

end library

/-! ### Documents -/

/-- A document whose text can be read: its integers are short enough, and its timestamps valid. -/
structure Document.Writable (d : Document) : Prop where
  nodes : ∀ entry ∈ d.nodes, isWritable entry.id = true
  connections : ∀ entry ∈ d.connections, isWritable entry.source = true ∧
    isWritable entry.target = true ∧ ∀ n ∈ entry.order, isWritable n = true
  created : ∀ t ∈ d.created, t.Valid
  modified : ∀ t ∈ d.modified, t.Valid

/-- All coordinates of a document are finite. -/
def Document.Finite (d : Document) : Prop :=
  ∀ entry ∈ d.nodes, entry.x.isFinite = true ∧ entry.y.isFinite = true

theorem readable_map {α : Type} (encode : α → Json) (h : ∀ a, Readable (encode a))
    (o : Option α) : ReadableIfSome (o.map encode) := by
  cases o with
  | none => trivial
  | some a => exact h a

theorem readable_map_text (o : Option String) : ReadableIfSome (o.map .text) :=
  readable_map Json.text (fun _ => trivial) o

theorem readable_list {α : Type} {encode : α → Json} {items : List α}
    (h : ∀ item ∈ items, Readable (encode item)) : Readable (Json.list encode items) := by
  rw [Json.list, Readable, readableItems_iff]
  intro v hv
  obtain ⟨item, hitem, rfl⟩ := List.mem_map.1 hv
  exact h item hitem

theorem ParamEntry.readable (entry : ParamEntry) : Readable entry.toJson := by
  rw [entry.toJson_eq]
  refine readable_present entry.nodup_members ?_
  simp [members, readable_map_text]

theorem FieldEntry.readable (entry : FieldEntry) : Readable entry.toJson := by
  rw [entry.toJson_eq]
  refine readable_present entry.nodup_members ?_
  simp [members, readable_map_text]

theorem NodeEntry.readable {entry : NodeEntry} (h : isWritable entry.id = true) :
    Readable entry.toJson := by
  have hparams : ReadableIfSome (entry.params.map (Json.list ParamEntry.toJson)) :=
    readable_map _ (fun _ => readable_list fun param _ => param.readable) _
  have hfields : ReadableIfSome (entry.fields.map (Json.list FieldEntry.toJson)) :=
    readable_map _ (fun _ => readable_list fun field _ => field.readable) _
  have hdecorator : ReadableIfSome (entry.decorator.map fun kind => .text kind.text) :=
    readable_map (fun kind : DecoratorKind => .text kind.text) (fun _ => trivial) _
  rw [entry.toJson_eq]
  refine readable_present entry.nodup_members ?_
  simp [members, readable_map_text, hparams, hfields, hdecorator, readableIfSome_some, Readable, h]

theorem LinkEntry.readable {entry : LinkEntry} (hsource : isWritable entry.source = true)
    (htarget : isWritable entry.target = true) (horder : ∀ n ∈ entry.order, isWritable n = true) :
    Readable entry.toJson := by
  have hoption : ReadableIfSome (entry.order.map fun n => .number (.int n)) := by
    cases h : entry.order with
    | none => trivial
    | some n => exact horder n h
  rw [entry.toJson_eq]
  refine readable_present entry.nodup_members ?_
  simp [members, readable_map_text, hoption, readableIfSome_some, Readable, hsource, htarget]

/-- The integers of a document are short enough to be written and read. -/
structure Document.Short (d : Document) : Prop where
  nodes : ∀ entry ∈ d.nodes, isWritable entry.id = true
  connections : ∀ entry ∈ d.connections, isWritable entry.source = true ∧
    isWritable entry.target = true ∧ ∀ n ∈ entry.order, isWritable n = true

theorem Document.Writable.short {d : Document} (h : d.Writable) : d.Short :=
  ⟨h.nodes, h.connections⟩

theorem Document.Short.readable {d : Document} (h : d.Short) (time : Timestamp → String) :
    Readable (d.value time) := by
  have hnodes : Readable (Json.list NodeEntry.toJson d.nodes) :=
    readable_list fun entry hentry => NodeEntry.readable (h.nodes entry hentry)
  have hconnections : Readable (Json.list LinkEntry.toJson d.connections) :=
    readable_list fun entry hentry =>
      have hlink := h.connections entry hentry
      LinkEntry.readable hlink.1 hlink.2.1 hlink.2.2
  have htime : ∀ o : Option Timestamp, ReadableIfSome (o.map fun t => .text (time t)) :=
    readable_map (fun t : Timestamp => .text (time t)) fun _ => trivial
  rw [d.value_eq]
  refine readable_present (d.nodup_members time) ?_
  simp [Document.members, htime, readableIfSome_some, hnodes, hconnections, Readable]

theorem hasText_of_mem {fields : List (String × Json)} (h : (Json.object fields).hasText = true)
    {k : String} {v : Json} (hfield : (k, v) ∈ fields) : v.hasText = true := by
  rw [hasText, fieldsHaveText_iff] at h
  exact h _ hfield

theorem hasText_of_mem_list {α : Type} {encode : α → Json} {items : List α}
    (h : (Json.list encode items).hasText = true) {item : α} (hitem : item ∈ items) :
    (encode item).hasText = true := by
  rw [Json.list, hasText, itemsHaveText_iff] at h
  exact h _ (List.mem_map_of_mem hitem)

namespace Document

variable {d : Document}

/-- **If the text of a document is a document value, its integers are short enough.** -/
theorem short_of_hasText {time : Timestamp → String} (h : (d.value time).hasText = true) :
    d.Short := by
  have hnodes : (Json.list NodeEntry.toJson d.nodes).hasText = true :=
    hasText_of_mem h (k := "nodes") (by simp [graphFields])
  have hconnections : (Json.list LinkEntry.toJson d.connections).hasText = true :=
    hasText_of_mem h (k := "connections") (by simp [graphFields])
  refine ⟨fun entry hentry => ?_, fun entry hentry => ?_⟩
  · have hentry := hasText_of_mem_list hnodes hentry
    exact hasText_of_mem hentry (k := "id") (v := .number (.int entry.id)) (by simp)
  · have hentry := hasText_of_mem_list hconnections hentry
    refine ⟨?_, ?_, fun n hn => ?_⟩
    · exact hasText_of_mem hentry (k := "from") (v := .number (.int entry.source)) (by simp)
    · exact hasText_of_mem hentry (k := "to") (v := .number (.int entry.target)) (by simp)
    · exact hasText_of_mem hentry (k := "order") (v := .number (.int n))
        (by simp [Json.optional, Option.mem_def.1 hn])

section library

variable {lib : Library} (hlib : lib.Reads)

include hlib

theorem timestamp_printed (d : Document) (key other : String) (o : Option Timestamp)
    (hmem : (key, o.map fun t => .text (lib.time t)) ∈ d.members lib.time)
    (hother : other ∉ (d.members lib.time).map Prod.fst) (ho : ∀ t ∈ o, t.Valid) :
    timestamp lib [key, other] (present (printedMembers (d.members lib.time))) = .ok o := by
  refine field_eq_ok (lookup?_printed (d.nodup_members _) hmem) ?_ (fun v hv => ?_)
    (fun hnone => ?_)
  · intro other' hmem'
    obtain rfl := List.mem_singleton.1 hmem'
    exact Or.inr (lookup?_present_of_notMem (by rwa [map_fst_printedMembers]))
  · cases o with
    | none => cases hv
    | some t =>
        obtain rfl := Option.some.inj hv
        rw [printed]
        refine nullable_of_ne_null (by simp) ?_
        rw [Checked.ofExcept, hlib.timestamp_time (ho t rfl)]
        rfl
  · cases o with
    | none => rfl
    | some t => cases hnone

theorem nodes_printed (hfinite : d.Finite) :
    default ["nodes"] [] (list (nodeEntry lib)) (present (printedMembers (d.members lib.time))) =
      .ok (d.nodes.map NodeEntry.reread) :=
  field_eq_ok (lookup?_printed (d.nodup_members _)
    (o := some (Json.list NodeEntry.toJson d.nodes)) (by simp [members])) nofun
    (fun v hv => by
      obtain rfl := Option.some.inj hv
      exact list_printed fun entry hentry =>
        nodeEntry_printed hlib entry (hfinite entry hentry).1 (hfinite entry hentry).2) nofun

theorem connections_printed (d : Document) :
    default ["connections"] [] (list (linkEntry lib))
      (present (printedMembers (d.members lib.time))) = .ok (d.connections.map LinkEntry.reread) :=
  field_eq_ok (lookup?_printed (d.nodup_members _)
    (o := some (Json.list LinkEntry.toJson d.connections)) (by simp [members])) nofun
    (fun v hv => by
      obtain rfl := Option.some.inj hv
      exact list_printed fun entry _ => linkEntry_printed hlib entry) nofun

/-- **A document with finite coordinates is read of its value.** -/
theorem ofFields_printed (h : d.Writable) (hfinite : d.Finite) :
    ofFields lib (present (printedMembers (d.members lib.time))) = .ok d.reread := by
  have hversion : default ["version"] documentVersion (text lib)
      (present (printedMembers (d.members lib.time))) = .ok d.version :=
    field_eq_ok (lookup?_printed (d.nodup_members _) (o := some (.text d.version))
      (by simp [members])) nofun (fun v hv => by cases hv; exact text_text hlib d.version) nofun
  have hcreated := timestamp_printed hlib d "createdAt" "created_at" d.created
    (by simp [members]) (by simp [members]) h.created
  have hmodified := timestamp_printed hlib d "lastModified" "last_modified" d.modified
    (by simp [members]) (by simp [members]) h.modified
  rw [ofFields]
  simp only [bind, Except.bind, nodes_printed hlib hfinite, connections_printed hlib d, hversion,
    hcreated, hmodified]
  rfl

/-- So is one whose graph can be built. -/
theorem document_printed (h : d.Writable) (hfinite : d.Finite) {g : Graph}
    (hg : d.toGraph = .ok g) : lib.document (printed (d.value lib.time)) = .ok d.reread := by
  rw [d.value_eq, printed_object, Library.document, ofFields_printed hlib h hfinite]
  simp only [Except.mapError, bind, Except.bind, d.toGraph_reread, hg]
  rfl

omit hlib in
/-- What is read of the value of a document is read of its members. -/
theorem ofFields_of_document_printed {answer : Document}
    (h : lib.document (printed (d.value lib.time)) = .ok answer) :
    ofFields lib (present (printedMembers (d.members lib.time))) = .ok answer := by
  rw [d.value_eq, printed_object, Library.document] at h
  obtain ⟨read, hfields, h⟩ := bind_eq_ok_iff.1 h
  obtain ⟨g, -, h⟩ := bind_eq_ok_iff.1 h
  rw [← Except.ok.inj h]
  exact mapError_eq_ok_iff.1 hfields

/-- **If the members of a document are read, its coordinates are finite.** -/
theorem finite_of_ofFields_printed {answer : Document}
    (h : ofFields lib (present (printedMembers (d.members lib.time))) = .ok answer) :
    d.Finite := by
  obtain ⟨nodes, hnodes, -⟩ := bind_eq_ok_iff.1 h
  have hlist := read_of_field_eq_ok (lookup?_printed (d.nodup_members _)
    (o := some (Json.list NodeEntry.toJson d.nodes)) (by simp [members])) hnodes
  rw [printed_list] at hlist
  intro entry hentry
  obtain ⟨answer, hanswer⟩ := exists_of_mem_list hlist (List.mem_map_of_mem hentry)
  exact finite_of_nodeEntry_printed hlib entry hanswer

end library

end Document

/-! ### Texts -/

namespace Library

variable {lib : Library} {half : Char} {d : Document}

theorem read_eq_ok_iff {value : Json} : lib.read value = .ok d ↔ lib.document value = .ok d :=
  mapError_eq_ok_iff

/-- A document is read of a text if it is that of the value of the text. -/
theorem parse_eq_ok_iff {s : String} : lib.parse half s = .ok d ↔
    ∃ value, Json.parse half s = .ok value ∧ lib.document value = .ok d := by
  rw [parse, bind_eq_ok_iff]
  exact exists_congr fun value => and_congr mapError_eq_ok_iff read_eq_ok_iff

/-- A document is read of bytes if it is that of the value of their characters. -/
theorem parseBytes_eq_ok_iff {bytes : List UInt8} : lib.parseBytes half bytes = .ok d ↔
    ∃ cs, decodeBytes? half bytes = some cs ∧
      ∃ value, Json.parseChars half cs = .ok value ∧ lib.document value = .ok d := by
  unfold parseBytes
  cases hcs : decodeBytes? half bytes with
  | none =>
      constructor
      · intro h
        cases h
      · rintro ⟨cs, hnone, -⟩
        cases hnone
  | some cs =>
      have hread : (Json.parseChars half cs).mapError (readFault cs) >>= lib.read = .ok d ↔
          ∃ value, Json.parseChars half cs = .ok value ∧ lib.document value = .ok d := by
        rw [bind_eq_ok_iff]
        exact exists_congr fun value => and_congr mapError_eq_ok_iff read_eq_ok_iff
      refine hread.trans ⟨fun h => ⟨cs, rfl, h⟩, ?_⟩
      rintro ⟨cs', hsame, h⟩
      obtain rfl := Option.some.inj hsame
      exact h

end Library

namespace Document

variable {d : Document}

/-- **The text of a document with finite coordinates is read as the document.** -/
theorem parse_render (h : d.Writable) (hfinite : d.Finite) {g : Graph} (hg : d.toGraph = .ok g)
    (indent : Option ℕ) : parse (d.render indent) = .ok d.reread :=
  Library.parse_eq_ok_iff.2 ⟨_, Json.parse_render (h.short.readable _) indent,
    document_printed (Library.reads_standard _) h hfinite hg⟩

/-- **If the text of a document is read, its integers are short enough.** -/
theorem short_of_parse_render {indent : Option ℕ} {answer : Document}
    (hread : parse (d.render indent) = .ok answer) : d.Short := by
  obtain ⟨value, hvalue, -⟩ := Library.parse_eq_ok_iff.1 hread
  exact short_of_hasText (Json.hasText_of_parse_render hvalue)

/-- What is read of the text of a document is read of its members. -/
theorem ofFields_of_parse_render {indent : Option ℕ} {answer : Document}
    (hread : parse (d.render indent) = .ok answer) :
    ofFields (Library.standard privateHalf) (present (printedMembers (d.members Timestamp.document))) =
      .ok answer := by
  have hreadable := (short_of_parse_render hread).readable Timestamp.document
  obtain ⟨value, hvalue, h⟩ := Library.parse_eq_ok_iff.1 hread
  rw [render, toJson, Json.parse_render hreadable] at hvalue
  obtain rfl := Except.ok.inj hvalue
  exact ofFields_of_document_printed h

/-- **If the text of a document is read, its coordinates are finite.** -/
theorem finite_of_parse_render {indent : Option ℕ} {answer : Document}
    (hread : parse (d.render indent) = .ok answer) : d.Finite :=
  finite_of_ofFields_printed (Library.reads_standard _) (ofFields_of_parse_render hread)

/-- The nodes and connections that are read of the text of a document are those of the document. -/
theorem entries_of_parse_render {indent : Option ℕ} {answer : Document}
    (hread : parse (d.render indent) = .ok answer) : answer.nodes = d.nodes.map NodeEntry.reread ∧
      answer.connections = d.connections.map LinkEntry.reread := by
  obtain ⟨nodes, hnodes, h⟩ := bind_eq_ok_iff.1 (ofFields_of_parse_render hread)
  obtain ⟨connections, hconnections, h⟩ := bind_eq_ok_iff.1 h
  iterate 3 obtain ⟨_, -, h⟩ := bind_eq_ok_iff.1 h
  obtain rfl := Except.ok.inj h
  have hlib := Library.reads_standard privateHalf
  have hnodes' := nodes_printed hlib (finite_of_parse_render hread)
  have hconnections' := connections_printed hlib d
  exact ⟨Except.ok.inj (hnodes.symm.trans hnodes'),
    Except.ok.inj (hconnections.symm.trans hconnections')⟩

/-- What was read of the text of a document has finite coordinates too. -/
theorem finite_answer_of_parse_render {indent : Option ℕ} {answer : Document}
    (hread : parse (d.render indent) = .ok answer) : answer.Finite := by
  intro entry hentry
  rw [(entries_of_parse_render hread).1] at hentry
  obtain ⟨old, hold, rfl⟩ := List.mem_map.1 hentry
  exact finite_of_parse_render hread old hold

/-- What was read of the text of a document does not change when it is written and read again. -/
theorem reread_of_parse_render {indent : Option ℕ} {answer : Document}
    (hread : parse (d.render indent) = .ok answer) : answer.reread = answer := by
  obtain ⟨hnodes, hconnections⟩ := entries_of_parse_render hread
  have hsame : answer.reread = { answer with
      nodes := answer.nodes.map NodeEntry.reread
      connections := answer.connections.map LinkEntry.reread } := rfl
  rw [hsame, hnodes, hconnections, List.map_map, List.map_map]
  simp only [Function.comp_def, NodeEntry.reread_reread, LinkEntry.reread_reread]
  rw [← hnodes, ← hconnections]

/-- What is read of the text of a document is the document. -/
theorem eq_reread_of_parse_render (h : d.Writable) {indent : Option ℕ} {answer : Document}
    (hread : parse (d.render indent) = .ok answer) : answer = d.reread := by
  have hfields := ofFields_of_parse_render hread
  have hfields' :=
    ofFields_printed (Library.reads_standard privateHalf) h (finite_of_parse_render hread)
  exact Except.ok.inj (hfields.symm.trans hfields')

end Document
end BehaviorTree
