import BehaviorTree.Proofs.Document.OfGraph

/-! # Loading what was written

Graphs are read leniently: what can be taken for an integer, a coordinate or a text is taken for it.
Of what was written the lenient reader makes the node and the link of each entry (`nodeOf_toJson`,
`linkOf_toJson`), so the fields of a document are read as the graph of the document
(`ofJson_graphFields`).

A graph is written as its document is, without the timestamps.  So a well-formed graph is read back
up to what a document does not keep (`ofJson_toJson`), and of a graph that was itself read only the
sign of a zero coordinate is lost (`ofJson_toJson_of_ofJson`). -/

namespace BehaviorTree

open BehaviorTree.Graph Json

/-! ### The values of what was written -/

theorem Param.toJson_entry (param : Param) : param.entry.toJson = param.toJson := rfl

theorem Field.toJson_entry (field : Field) : field.entry.toJson = field.toJson := rfl

theorem Node.toJson_entry (node : Node) : node.entry.toJson = node.toJson := by
  have hparams : Json.optional "params" (Json.list ParamEntry.toJson) node.entry.params =
      Json.optional "params" (Json.list Param.toJson) node.params := by
    rw [Node.entry]
    cases node.params with
    | none => rfl
    | some params => simp [Json.optional, Json.list, Function.comp_def, Param.toJson_entry]
  have hfields : Json.optional "fields" (Json.list FieldEntry.toJson) node.entry.fields =
      Json.optional "fields" (Json.list Field.toJson) node.fields := by
    rw [Node.entry]
    cases node.fields with
    | none => rfl
    | some fields => simp [Json.optional, Json.list, Function.comp_def, Field.toJson_entry]
  have hdetail : ∀ d, node.entry.detail d = node.detail d := by
    intro d
    cases d <;> rfl
  rw [NodeEntry.toJson, Node.toJson, hparams, hfields]
  simp only [hdetail]
  rfl

theorem Connection.toJson_entry (c : Connection) : c.entry.toJson = c.toJson := rfl

/-- A graph is written as the fields of any of its documents. -/
theorem Graph.toJson_eq (g : Graph) (created modified : Timestamp) :
    g.toJson = .object (Document.ofGraph g created modified).graphFields := by
  simp only [Graph.toJson, Document.graphFields, Document.ofGraph, Json.list, List.map_map,
    Function.comp_def, Node.toJson_entry, Connection.toJson_entry]

namespace Graph

/-! ### Reading members -/

/-- A written list is read item by item. -/
theorem mapM_encoded {α β : Type} {encode : α → Json} {read : Json → Except Fault β}
    {decode : α → β} (hread : ∀ a, read (encode a) = .ok (decode a)) (items : List α) :
    (items.map encode).mapM read = .ok (items.map decode) :=
  mapM_map_eq_ok fun a _ => hread a

/-- A coordinate is read as the number it is; a zero counts as unset and becomes the plain zero. -/
theorem coordinateOf_float (x : Float) :
    coordinateOf (.number (.float x)) = .ok (unsignedZero x) := by
  unfold coordinateOf unsignedZero
  cases h : x == 0.0 with
  | true => simp [isSet, h]
  | false => simp [isSet, h, coordinate, Number.toFloat?]

section members

variable {members : List (String × Option Json)} (hkeys : (members.map Prod.fst).Nodup)
  {key : String}

include hkeys

theorem textAt_present {o : Option String} (h : (key, o.map .text) ∈ members) :
    textAt key (present members) = .ok (o.getD "") := by
  rw [textAt, lookup?_present hkeys h]
  cases o <;> rfl

theorem integerAt_present {n : Int} (h : (key, some (.number (.int n))) ∈ members) :
    integerAt key (present members) = .ok n := by
  rw [integerAt, lookup?_present hkeys h]
  rfl

theorem coordinateAt_present {x : Float} (h : (key, some (.number (.float x))) ∈ members) :
    coordinateAt key (present members) = .ok (unsignedZero x) := by
  rw [coordinateAt, lookup?_present hkeys h]
  exact coordinateOf_float x

theorem valueAt?_present {o : Option Json} (h : (key, o) ∈ members) (ho : o ≠ some .null) :
    valueAt? key (present members) = o := by
  rw [valueAt?, lookup?_present hkeys h]
  split
  · exact absurd rfl ho
  · rfl

/-- A list of written items is read if each item is. -/
theorem listAt_present {α β : Type} {encode : α → Json} {read : Json → Except Fault β}
    {decode : α → β} (hread : ∀ a, read (encode a) = .ok (decode a)) {o : Option (List α)}
    (h : (key, o.map (Json.list encode)) ∈ members) :
    listAt key read (present members) = .ok (o.map (·.map decode)) := by
  have hvalue := valueAt?_present hkeys h (by cases o <;> simp [Json.list])
  rw [listAt, hvalue]
  cases o with
  | none => rfl
  | some items =>
      simp only [Option.map_some, Json.list, itemsOf, bind, Except.bind, mapM_encoded hread]
      rfl

end members

theorem paramOf_toJson (entry : ParamEntry) : paramOf entry.toJson = .ok entry.param := by
  have hname : textAt "name" (present entry.members) = .ok (entry.name.getD "") :=
    textAt_present entry.nodup_members (by simp [ParamEntry.members])
  have hvalue : textAt "value" (present entry.members) = .ok (entry.value.getD "") :=
    textAt_present entry.nodup_members (by simp [ParamEntry.members])
  rw [entry.toJson_eq, paramOf]
  simp only [fieldsOf, bind, Except.bind, hname, hvalue]
  rfl

theorem fieldOf_toJson (entry : FieldEntry) : fieldOf entry.toJson = .ok entry.field := by
  have hkey : textAt "key" (present entry.members) = .ok (entry.key.getD "") :=
    textAt_present entry.nodup_members (by simp [FieldEntry.members])
  have hvalue : textAt "value" (present entry.members) = .ok (entry.value.getD "") :=
    textAt_present entry.nodup_members (by simp [FieldEntry.members])
  have hcomment : textAt "comment" (present entry.members) = .ok (entry.comment.getD "") :=
    textAt_present entry.nodup_members (by simp [FieldEntry.members])
  rw [entry.toJson_eq, fieldOf]
  simp only [fieldsOf, bind, Except.bind, hkey, hvalue, hcomment]
  rfl

theorem kindAt_toJson (entry : NodeEntry) : kindAt (present entry.members) = .ok entry.kind := by
  have hread : lookup? "type" (present entry.members) = some (.text entry.kind.text) :=
    lookup?_present entry.nodup_members (by simp [NodeEntry.members])
  rw [kindAt, hread]
  simp only [required, bind, Except.bind, exactly, NodeKind.ofText?_text]

theorem decoratorAt_toJson (entry : NodeEntry) :
    decoratorAt (present entry.members) = .ok entry.decorator := by
  have hread : lookup? "decoratorType" (present entry.members) =
      entry.decorator.map fun kind => .text kind.text :=
    lookup?_present entry.nodup_members (by simp [NodeEntry.members])
  rw [decoratorAt, hread]
  cases entry.decorator with
  | none => rfl
  | some kind => cases kind <;> rfl

theorem detailAt_toJson (entry : NodeEntry) (d : Detail) :
    valueAt? d.key (present entry.members) = (entry.detail d).map .text :=
  valueAt?_present entry.nodup_members (entry.mem_members_detail d)
    (by cases entry.detail d <;> simp)

/-- A node with a detail, unless the detail is unset. -/
def withDetail (o : Option String) (node : Node) : Detail → Node
  | .repeaterCount => { node with repeaterCount := o.or node.repeaterCount }
  | .timeoutDuration => { node with timeoutDuration := o.or node.timeoutDuration }
  | .retryCount => { node with retryCount := o.or node.retryCount }
  | .cooldownDuration => { node with cooldownDuration := o.or node.cooldownDuration }
  | .waitDuration => { node with waitDuration := o.or node.waitDuration }
  | .subtree => { node with subtree := o.or node.subtree }

theorem detailOf_toJson (entry : NodeEntry) (node : Node) (d : Detail) :
    detailOf (present entry.members) node d = .ok (withDetail (entry.detail d) node d) := by
  rw [detailOf, detailAt_toJson]
  cases entry.detail d <;> cases d <;> rfl

/-- **What was written of a node is read as the node.** -/
theorem nodeOf_toJson (entry : NodeEntry) : nodeOf entry.toJson = .ok entry.node := by
  have hkeys := entry.nodup_members
  have hid : integerAt "id" (present entry.members) = .ok entry.id :=
    integerAt_present hkeys (by simp [NodeEntry.members])
  have hkind := kindAt_toJson entry
  have hx : coordinateAt "x" (present entry.members) = .ok (unsignedZero entry.x) :=
    coordinateAt_present hkeys (by simp [NodeEntry.members])
  have hy : coordinateAt "y" (present entry.members) = .ok (unsignedZero entry.y) :=
    coordinateAt_present hkeys (by simp [NodeEntry.members])
  have hname : textAt "name" (present entry.members) = .ok (entry.name.getD "") :=
    textAt_present hkeys (by simp [NodeEntry.members])
  have hfunc : textAt "func" (present entry.members) = .ok (entry.func.getD "") :=
    textAt_present hkeys (by simp [NodeEntry.members])
  have hpolicy : textAt "policy" (present entry.members) = .ok (entry.policy.getD "") :=
    textAt_present hkeys (by simp [NodeEntry.members])
  have hcomment : textAt "comment" (present entry.members) = .ok (entry.comment.getD "") :=
    textAt_present hkeys (by simp [NodeEntry.members])
  have hparams : listAt "params" paramOf (present entry.members) =
      .ok (entry.params.map (·.map ParamEntry.param)) :=
    listAt_present hkeys paramOf_toJson (by simp [NodeEntry.members])
  have hfields : listAt "fields" fieldOf (present entry.members) =
      .ok (entry.fields.map (·.map FieldEntry.field)) :=
    listAt_present hkeys fieldOf_toJson (by simp [NodeEntry.members])
  have hdecorator := decoratorAt_toJson entry
  rw [entry.toJson_eq, nodeOf]
  simp only [fieldsOf, bind, Except.bind, hid, hkind, hname, hx, hy, hfunc, hpolicy, hcomment,
    hparams, hdecorator, hfields, Detail.all, List.foldlM_cons, List.foldlM_nil, detailOf_toJson,
    withDetail, Option.or_none]
  rfl

/-- **What was written of a connection is read as its link.** -/
theorem linkOf_toJson (entry : LinkEntry) : linkOf entry.toJson = .ok entry.link := by
  have hkeys := entry.nodup_members
  have hsource : integerAt "from" (present entry.members) = .ok entry.source :=
    integerAt_present hkeys (by simp [LinkEntry.members])
  have htarget : integerAt "to" (present entry.members) = .ok entry.target :=
    integerAt_present hkeys (by simp [LinkEntry.members])
  have horder : orderAt (present entry.members) = .ok entry.order := by
    have hread : valueAt? "order" (present entry.members) =
        entry.order.map fun n => .number (.int n) :=
      valueAt?_present hkeys (by simp [LinkEntry.members]) (by cases entry.order <;> simp)
    rw [orderAt, hread]
    cases entry.order <;> rfl
  have hfrom : textAt "fromPoint" (present entry.members) = .ok (entry.fromPoint.getD "") :=
    textAt_present hkeys (by simp [LinkEntry.members])
  have hto : textAt "toPoint" (present entry.members) = .ok (entry.toPoint.getD "") :=
    textAt_present hkeys (by simp [LinkEntry.members])
  rw [entry.toJson_eq, linkOf]
  simp only [fieldsOf, bind, Except.bind, hsource, htarget, horder, hfrom, hto]
  rfl

/-! ### Documents and graphs -/

/-- A top-level list that was written is read as its items. -/
theorem topItems_list {α : Type} {encode : α → Json} {items : List α} {key : String}
    {fields : List (String × Json)} (h : lookup? key fields = some (Json.list encode items)) :
    topItems key fields = .ok (items.map encode) := by
  rw [topItems, h]
  cases items with
  | nil => rfl
  | cons a rest => rfl

/-- **A graph that is loaded from the fields of a document is the graph of the document.** -/
theorem ofJson_graphFields (d : Document) :
    ofJson (.object d.graphFields) = d.toGraph.mapError refused := by
  have hnodes : nodesOf d.graphFields = .ok (d.nodes.map NodeEntry.node) := by
    have hitems : topItems "nodes" d.graphFields = .ok (d.nodes.map NodeEntry.toJson) :=
      topItems_list rfl
    rw [nodesOf, hitems]
    exact mapM_encoded nodeOf_toJson d.nodes
  have hlinks : linksOf d.graphFields = .ok (d.connections.map LinkEntry.link) := by
    have hitems : topItems "connections" d.graphFields =
        .ok (d.connections.map LinkEntry.toJson) :=
      topItems_list rfl
    rw [linksOf, hitems]
    exact mapM_encoded linkOf_toJson d.connections
  rw [ofJson, hnodes, hlinks]
  rfl

/-- **A well-formed graph is read back**, up to what a document does not keep. -/
theorem ofJson_toJson {g : Graph} (h : g.WellFormed) : ofJson g.toJson = .ok g.kept := by
  rw [g.toJson_eq default default, ofJson_graphFields, toGraph_ofGraph h]
  rfl

/-! ### Graphs that were read -/

/-- Attachment points that are read are not empty. -/
theorem points_of_linkOf {value : Json} {link : Link} (h : linkOf value = .ok link) :
    textOr "right" link.fromPoint = link.fromPoint ∧ textOr "left" link.toPoint = link.toPoint := by
  obtain ⟨fields, -, h⟩ := bind_eq_ok_iff.1 h
  obtain ⟨source, -, h⟩ := bind_eq_ok_iff.1 h
  obtain ⟨target, -, h⟩ := bind_eq_ok_iff.1 h
  obtain ⟨order, -, h⟩ := bind_eq_ok_iff.1 h
  obtain ⟨fromPoint, -, h⟩ := bind_eq_ok_iff.1 h
  obtain ⟨toPoint, -, h⟩ := bind_eq_ok_iff.1 h
  obtain rfl := Except.ok.inj h
  exact ⟨textOr_textOr _ _, textOr_textOr _ _⟩

/-- The connections of a graph that is read have no empty attachment points. -/
theorem plain_connections_of_ofJson {value : Json} {g : Graph} (h : ofJson value = .ok g) :
    g.connections.map Connection.plain = g.connections := by
  unfold ofJson at h
  split at h
  · obtain ⟨nodes, -, h⟩ := bind_eq_ok_iff.1 h
    obtain ⟨links, hlinks, h⟩ := bind_eq_ok_iff.1 h
    obtain ⟨raw, -, hlinks⟩ := bind_eq_ok_iff.1 hlinks
    obtain ⟨-, -, -, rfl⟩ := (build_eq_ok_iff _ _ _).1 (mapError_eq_ok_iff.1 h)
    refine (List.map_congr_left fun c hc => plain_connection (fun link hlink => ?_) hc).trans
      (List.map_id _)
    obtain ⟨raw, -, hraw⟩ := exists_of_mem_mapM hlinks hlink
    exact points_of_linkOf hraw
  · cases h

/-- The next id of a graph that is read is one behind its greatest id, or one. -/
theorem nextId_of_ofJson {value : Json} {g : Graph} (h : ofJson value = .ok g) :
    g.nextId = idAfter (g.nodes.map (·.id)) := by
  obtain ⟨nodes, links, hbuild⟩ := exists_build_of_ofJson h
  obtain ⟨-, -, -, rfl⟩ := (build_eq_ok_iff _ _ _).1 hbuild
  rfl

/-- **What is written of a graph that was read is read as the graph**, but for the signs of zero
coordinates. -/
theorem ofJson_toJson_of_ofJson {value : Json} {g : Graph} (h : ofJson value = .ok g) :
    ofJson g.toJson = .ok { g with nodes := g.nodes.map Node.plain } := by
  have hwell := WellFormed.of_ofJson h
  rw [ofJson_toJson hwell, kept, plain_connections_of_ofJson h, nextId_of_ofJson h]

end Graph

/-! ### Loading twice -/

/-- Two coordinates are the same number; what is no number counts as the same as itself. -/
def SameNumber (x y : Float) : Prop := (x == y) = true ∨ x.isNaN = true ∧ y.isNaN = true

theorem sameNumber_unsignedZero (x : Float) : SameNumber x (unsignedZero x) := by
  unfold unsignedZero
  split_ifs with hzero
  · exact Or.inl hzero
  · cases hnan : x.isNaN with
    | true => exact Or.inr ⟨hnan, hnan⟩
    | false => exact Or.inl (Decimal.beq_self_of_isNaN hnan)

/-- Two nodes have the same attributes, and their coordinates are the same numbers. -/
structure Node.Alike (node other : Node) : Prop where
  x : SameNumber node.x other.x
  y : SameNumber node.y other.y
  attributes : { other with x := node.x, y := node.y } = node

theorem Node.alike_plain (node : Node) : node.Alike node.plain :=
  ⟨sameNumber_unsignedZero node.x, sameNumber_unsignedZero node.y, rfl⟩

/-- The greatest of some ids is among them. -/
theorem foldl_max_mem (ids : List ℤ) (start : ℤ) : ids.foldl max start ∈ start :: ids := by
  induction ids generalizing start with
  | nil => simp
  | cons id rest ih =>
      rw [List.foldl_cons]
      rcases List.mem_cons.1 (ih (max start id)) with h | h
      · rw [h]
        rcases max_choice start id with hmax | hmax <;> simp [hmax]
      · exact List.mem_cons_of_mem _ (List.mem_cons_of_mem _ h)

theorem isGreatest_idAfter {ids : List ℤ} (h : ids ≠ []) :
    IsGreatest {id | id ∈ ids} (idAfter ids - 1) := by
  cases ids with
  | nil => exact absurd rfl h
  | cons id rest =>
      refine ⟨?_, fun other hother => Int.le_sub_one_of_lt (lt_idAfter hother)⟩
      rw [idAfter, add_sub_cancel_right]
      exact foldl_max_mem rest id

/-- **Loading twice**: a graph that was read of any document is written as a document that is read
again.  The nodes come back in the same order with the same attributes, the connections in the same
order with the same places and points, and the next id is the same: one behind the greatest id, or
one if there are no nodes. -/
theorem Graph.reload_of_load {value : Json} {g : Graph} (h : ofJson value = .ok g) :
    ∃ g', ofJson g.toJson = .ok g' ∧ List.Forall₂ Node.Alike g.nodes g'.nodes ∧
      g'.connections = g.connections ∧ g'.nextId = g.nextId ∧ (g.nodes = [] → g.nextId = 1) ∧
      (g.nodes ≠ [] → IsGreatest {id | ∃ node ∈ g.nodes, node.id = id} (g.nextId - 1)) := by
  refine ⟨_, ofJson_toJson_of_ofJson h, ?_, rfl, rfl, fun hnil => ?_, fun hne => ?_⟩
  · rw [List.forall₂_map_right_iff]
    exact List.forall₂_same.2 fun node _ => node.alike_plain
  · rw [nextId_of_ofJson h, hnil]
    rfl
  · have hids : g.nodes.map (·.id) ≠ [] := by simpa using hne
    have hmem : {id | id ∈ g.nodes.map (·.id)} = {id | ∃ node ∈ g.nodes, node.id = id} := by
      ext id
      exact List.mem_map
    rw [nextId_of_ofJson h, ← hmem]
    exact isGreatest_idAfter hids

/-- A document that says most things in an unusual way: an id is a text and another has a fraction,
a coordinate is the negative zero and another is no number, orders are negative, repeat or are
missing, and an object stands for a list. -/
def looseDocument : Json :=
  .object [
    ("nodes", .array [
      .object [("id", .text " 7 "), ("type", .text "SEQUENCE"), ("x", .number (.float (-0.0)))],
      .object [("id", .number (.float 2.9)), ("type", .text "ACTION"), ("name", .null),
        ("y", .text "nan"), ("params", .object [])],
      .object [("id", .number (.int (-4))), ("type", .text "DECORATOR"),
        ("decoratorType", .text ""), ("repeaterCount", .number (.int 3))]]),
    ("connections", .array [
      .object [("from", .number (.int 7)), ("to", .text "-4"), ("fromPoint", .text "")],
      .object [("from", .number (.int 7)), ("to", .number (.int 2)),
        ("order", .number (.int (-1)))]])]

/-- The graph of the document: the negative zero is zero, and the children are numbered anew. -/
def looseGraph : Graph where
  nodes := [
    { id := 7, kind := .sequence, name := "" },
    { id := 2, kind := .action, name := "", y := 0.0 / 0.0, params := some [] },
    { id := -4, kind := .decorator, name := "", repeaterCount := some "3" }]
  connections := [⟨7, -4, 1, "right", "left"⟩, ⟨7, 2, 0, "right", "left"⟩]
  nextId := 8

theorem Graph.reload_of_load_looseDocument : ofJson looseDocument = .ok looseGraph ∧
    ∃ g', ofJson looseGraph.toJson = .ok g' ∧ List.Forall₂ Node.Alike looseGraph.nodes g'.nodes ∧
      g'.connections = looseGraph.connections ∧ g'.nextId = looseGraph.nextId ∧
      (looseGraph.nodes = [] → looseGraph.nextId = 1) ∧
      (looseGraph.nodes ≠ [] →
        IsGreatest {id | ∃ node ∈ looseGraph.nodes, node.id = id} (looseGraph.nextId - 1)) := by
  have hload : ofJson looseDocument = .ok looseGraph := by
    have hsome : (ofJson looseDocument).toOption = some looseGraph := by decide
    cases h : ofJson looseDocument with
    | ok g =>
        rw [h] at hsome
        exact congrArg Except.ok (Option.some.inj hsome)
    | error fault =>
        rw [h] at hsome
        cases hsome
  exact ⟨hload, reload_of_load hload⟩

end BehaviorTree
