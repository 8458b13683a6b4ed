import BehaviorTree.Graph.Operation
import BehaviorTree.Proofs.Graph.Numbering
import BehaviorTree.Proofs.Success

/-! # Effects of operations

All that an operation can do to a graph, apart from the attributes of its nodes, is one of the
constructors of `Effect`, guards included (`effect_apply`).  What every effect keeps is kept by every
operation, so no proof about reachable graphs looks into the operations again.

Edits of attributes, arguments and fields do not show here: they keep the ids and kinds of the nodes
and everything else (`SameShape`). -/

namespace BehaviorTree

/-- What stays the same of a node as long as it exists. -/
def Node.signature (node : Node) : Int × NodeKind := (node.id, node.kind)

namespace Graph

/-- Two graphs that differ in attributes only. -/
structure SameShape (g g' : Graph) : Prop where
  nodes : g'.nodes.map Node.signature = g.nodes.map Node.signature
  connections : g'.connections = g.connections
  nextId : g'.nextId = g.nextId

theorem SameShape.rfl {g : Graph} : SameShape g g := ⟨.refl _, .refl _, .refl _⟩

theorem SameShape.trans {g g' g'' : Graph} (h : SameShape g g') (h' : SameShape g' g'') :
    SameShape g g'' :=
  ⟨h'.nodes.trans h.nodes, h'.connections.trans h.connections, h'.nextId.trans h.nextId⟩

theorem map_id_eq (nodes : List Node) :
    nodes.map (·.id) = (nodes.map Node.signature).map Prod.fst := by
  rw [List.map_map]
  rfl

theorem SameShape.ids {g g' : Graph} (h : SameShape g g') :
    g'.nodes.map (·.id) = g.nodes.map (·.id) := by
  rw [map_id_eq, map_id_eq, h.nodes]

/-- Putting a node in the place of one with its id and kind. -/
theorem sameShape_replace {g : Graph} (hn : (g.nodes.map (·.id)).Nodup) {node : Node}
    (h : node.signature ∈ g.nodes.map Node.signature) : SameShape g (g.replace node) := by
  refine ⟨?_, .refl _, .refl _⟩
  rw [replace, List.map_map]
  refine List.map_congr_left fun other ho => ?_
  by_cases hid : other.id = node.id
  · obtain ⟨old, hold, hsig⟩ := List.mem_map.1 h
    have hsame : old = other := by
      refine List.inj_on_of_nodup_map hn hold ho ?_
      rw [hid]
      exact congrArg Prod.fst hsig
    simp [hid, ← hsig, hsame]
  · simp [hid]

theorem sameShape_foldl_replace {g : Graph} (hn : (g.nodes.map (·.id)).Nodup)
    (changed : List Node) (h : ∀ node ∈ changed, node.signature ∈ g.nodes.map Node.signature) :
    SameShape g (changed.foldl replace g) := by
  induction changed generalizing g with
  | nil => exact .rfl
  | cons node rest ih =>
      have hfirst := sameShape_replace hn (h node List.mem_cons_self)
      refine hfirst.trans (ih ?_ fun other ho => ?_)
      · rwa [hfirst.ids]
      · rw [hfirst.nodes]
        exact h other (List.mem_cons_of_mem _ ho)

theorem signature_mem_of_get {g : Graph} {id : Int} {node : Node} (h : g.get id = .ok node) :
    node.signature ∈ g.nodes.map Node.signature :=
  List.mem_map_of_mem (mem_of_find? (get_eq_ok_iff.1 h)).1

/-- Changing a node that was asked for, in attributes only. -/
theorem sameShape_replace_of_get {g : Graph} (hn : (g.nodes.map (·.id)).Nodup) {id : Int}
    {node changed : Node} (h : g.get id = .ok node) (hs : changed.signature = node.signature) :
    SameShape g (g.replace changed) :=
  sameShape_replace hn (hs ▸ signature_mem_of_get h)

/-! ### Effects -/

/-- Whether an operation adds a node. -/
def Adds : Operation → Prop
  | .createNode .. | .pasteNode _ => True
  | _ => False

/-- What an operation does to the nodes and connections of a graph. -/
inductive Effect (g : Graph) : Operation → Graph → Prop
  /-- Attributes change, or nothing does. -/
  | edit {operation : Operation} {g' : Graph} (h : SameShape g g') : Effect g operation g'
  /-- A node comes, without connections. -/
  | append {operation : Operation} (node : Node) (h : node.id = g.nextId)
      (hadds : Adds operation) : Effect g operation (g.append node)
  /-- A node goes, with its connections. -/
  | delete (id : Int) : Effect g (.deleteNode id) { g with
      nodes := g.nodes.filter fun other => other.id ≠ id
      connections := detach g.connections id }
  /-- A connection comes that the graph does not refuse. -/
  | connect (c : Connection) (h : g.checkConnect c.source c.target = none)
      (ho : c.order = g.childCount c.source) :
      Effect g (.connect c.source c.target c.fromPoint c.toPoint)
        { g with connections := g.connections ++ [c] }
  /-- The connections of a node go. -/
  | disconnect (id : Int) :
      Effect g (.disconnect id) { g with connections := detach g.connections id }
  /-- Two children of a parent change places. -/
  | exchange (parent : Int) (i j : ℕ)
      (hi : i ∈ (siblings g.connections parent).map (·.order))
      (hj : j ∈ (siblings g.connections parent).map (·.order)) :
      Effect g (.reorderChildren parent i j)
        { g with connections := gather parent (exchangeBelow parent i j g.connections) }
  /-- Everything goes. -/
  | clear : Effect g .clear Graph.empty

/-! ### Attributes -/

theorem signature_setDetail (node : Node) (value : String) (d : Detail) :
    (node.setDetail value d).signature = node.signature := by
  cases d <;> rfl

theorem signature_set (node : Node) (value : String) (which : Attribute) :
    (which.set node value).signature = node.signature := by
  cases which with
  | detail d => exact signature_setDetail node value d
  | _ => rfl

theorem signature_foldl_set (edits : List (Attribute × String)) (node : Node) :
    (edits.foldl (fun node (which, value) => which.set node value) node).signature =
      node.signature := by
  induction edits generalizing node with
  | nil => rfl
  | cons edit rest ih => exact (ih _).trans (signature_set node edit.2 edit.1)

theorem signature_foldl_setDetail (details : List Detail) (value : String) (node : Node) :
    (details.foldl (fun node d => node.setDetail value d) node).signature = node.signature := by
  induction details generalizing node with
  | nil => rfl
  | cons d rest ih => exact (ih _).trans (signature_setDetail node value d)

theorem paramOwner_eq_ok_iff {g : Graph} {id : Int} {node : Node} :
    g.paramOwner id = .ok node ↔ g.get id = .ok node ∧ node.acceptsParams = true :=
  bind_guard_eq_ok_iff

theorem blackboard_eq_ok_iff {g : Graph} {id : Int} {node : Node} :
    g.blackboard id = .ok node ↔ g.get id = .ok node ∧ node.kind = .blackboard :=
  bind_guard_eq_ok_iff

section edits

variable {g : Graph} (hn : (g.nodes.map (·.id)).Nodup)

include hn

theorem sameShape_updateNode {id : Int} {edits : List (String × String)} {node : Node}
    {g' : Graph} (h : g.updateNode id edits = .ok (node, g')) : SameShape g g' := by
  obtain ⟨old, hold, h⟩ := bind_eq_ok_iff.1 h
  obtain ⟨attributes, -, h⟩ := bind_eq_ok_iff.1 h
  obtain ⟨rfl, rfl⟩ := Prod.mk.inj (Except.ok.inj h)
  exact sameShape_replace_of_get hn hold (signature_foldl_set _ old)

theorem sameShape_setDecorator {id : Int} {kindText : String} {node : Node} {g' : Graph}
    (h : g.setDecorator id kindText = .ok (node, g')) : SameShape g g' := by
  obtain ⟨old, hold, h⟩ := bind_eq_ok_iff.1 h
  split at h
  · cases h
  · obtain ⟨kind, -, h⟩ := bind_eq_ok_iff.1 h
    obtain ⟨rfl, rfl⟩ := Prod.mk.inj (Except.ok.inj h)
    exact sameShape_replace_of_get hn hold (signature_foldl_setDetail Detail.all "" old)

theorem sameShape_moveNode {id : Int} {x y : Number} {node : Node} {g' : Graph}
    (h : g.moveNode id x y = .ok (node, g')) : SameShape g g' := by
  obtain ⟨old, hold, h⟩ := bind_eq_ok_iff.1 h
  obtain ⟨x, -, h⟩ := bind_eq_ok_iff.1 h
  obtain ⟨y, -, h⟩ := bind_eq_ok_iff.1 h
  obtain ⟨rfl, rfl⟩ := Prod.mk.inj (Except.ok.inj h)
  exact sameShape_replace_of_get hn hold rfl

theorem sameShape_moveWithDescendants {id : Int} {dx dy : Number} {nodes : List Node} {g' : Graph}
    (h : g.moveWithDescendants id dx dy = .ok (nodes, g')) : SameShape g g' := by
  obtain ⟨group, hgroup, h⟩ := bind_eq_ok_iff.1 h
  obtain ⟨dx, -, h⟩ := bind_eq_ok_iff.1 h
  obtain ⟨dy, -, h⟩ := bind_eq_ok_iff.1 h
  obtain ⟨rfl, rfl⟩ := Prod.mk.inj (Except.ok.inj h)
  obtain ⟨-, -, hgroup⟩ := bind_eq_ok_iff.1 hgroup
  refine sameShape_foldl_replace hn _ fun moved hm => ?_
  obtain ⟨old, hold, rfl⟩ := List.mem_map.1 hm
  rw [← Except.ok.inj hgroup] at hold
  obtain ⟨a, -, ha⟩ := List.mem_filterMap.1 hold
  have hmem : old.signature ∈ g.nodes.map Node.signature :=
    List.mem_map_of_mem (mem_of_find? ha).1
  exact hmem

theorem sameShape_editParams (id : Int) (change : List Param → Except Fault (Param × List Param)) :
    SameShape g (g.editParams id change).2 := by
  unfold editParams
  split
  · exact .rfl
  · rename_i node h
    dsimp only
    split <;> exact sameShape_replace_of_get hn (paramOwner_eq_ok_iff.1 h).1 rfl

theorem sameShape_editFields (id : Int) (change : List Field → Except Fault (Field × List Field)) :
    SameShape g (g.editFields id change).2 := by
  unfold editFields
  split
  · exact .rfl
  · rename_i node h
    dsimp only
    split <;> exact sameShape_replace_of_get hn (blackboard_eq_ok_iff.1 h).1 rfl

end edits

/-! ### Operations -/

theorem effect_attempt {α : Type} {g : Graph} {operation : Operation} {wrap : α → Outcome}
    {result : Except Fault (α × Graph)}
    (h : ∀ a g', result = .ok (a, g') → Effect g operation g') :
    Effect g operation (Operation.attempt g wrap result).2 := by
  cases result with
  | error fault => exact .edit .rfl
  | ok answer => exact h answer.1 answer.2 rfl

theorem effect_connect (g : Graph) (source target : Int) (fromPoint toPoint : String) :
    Effect g (.connect source target fromPoint toPoint)
      (g.connect source target fromPoint toPoint).2 := by
  unfold connect
  split
  · exact .edit .rfl
  · rename_i h
    exact .connect ⟨source, target, g.childCount source, fromPoint, toPoint⟩ h rfl

/-- A place that some child of a parent has is a natural number among the orders. -/
theorem exists_order_of_not_all {cs : List Connection} {a : Int}
    (h : ¬ (cs.all fun c => (c.order : Int) ≠ a) = true) :
    ∃ i : ℕ, (i : Int) = a ∧ i ∈ cs.map (·.order) := by
  simp only [List.all_eq_true, decide_eq_true_eq, not_forall, not_not] at h
  obtain ⟨c, hc, ha⟩ := h
  exact ⟨c.order, ha, List.mem_map_of_mem hc⟩

theorem effect_reorderChildren (g : Graph) (parent a b : Int) :
    Effect g (.reorderChildren parent a b) (g.reorderChildren parent a b).2 := by
  unfold reorderChildren
  dsimp only
  split
  · exact .edit .rfl
  · rename_i ha
    split
    · exact .edit .rfl
    · rename_i hb
      obtain ⟨i, rfl, hi⟩ := exists_order_of_not_all ha
      obtain ⟨j, rfl, hj⟩ := exists_order_of_not_all hb
      exact .exchange parent i j hi hj

/-- **Every operation has one of the effects**, on any graph whose node ids are distinct. -/
theorem effect_apply {g : Graph} (hn : (g.nodes.map (·.id)).Nodup) (operation : Operation) :
    Effect g operation (operation.apply g).2 := by
  rw [Operation.graph_apply]
  cases operation with
  | createNode kind x y name =>
      refine effect_attempt fun node g' h => ?_
      obtain ⟨kind, -, h⟩ := bind_eq_ok_iff.1 h
      obtain ⟨x, -, h⟩ := bind_eq_ok_iff.1 h
      obtain ⟨y, -, h⟩ := bind_eq_ok_iff.1 h
      obtain ⟨rfl, rfl⟩ := Prod.mk.inj (Except.ok.inj h)
      exact .append _ rfl trivial
  | deleteNode id =>
      refine effect_attempt fun node g' h => ?_
      obtain ⟨node, -, h⟩ := bind_eq_ok_iff.1 h
      obtain ⟨rfl, rfl⟩ := Prod.mk.inj (Except.ok.inj h)
      exact .delete id
  | connect source target fromPoint toPoint => exact effect_connect g source target fromPoint toPoint
  | disconnect id =>
      refine effect_attempt fun count g' h => ?_
      obtain ⟨node, -, h⟩ := bind_eq_ok_iff.1 h
      obtain ⟨rfl, rfl⟩ := Prod.mk.inj (Except.ok.inj h)
      exact .disconnect id
  | reorderChildren parent a b => exact effect_reorderChildren g parent a b
  | updateNode id edits => exact effect_attempt fun _ _ h => .edit (sameShape_updateNode hn h)
  | setDecorator id kind => exact effect_attempt fun _ _ h => .edit (sameShape_setDecorator hn h)
  | moveNode id x y => exact effect_attempt fun _ _ h => .edit (sameShape_moveNode hn h)
  | moveWithDescendants id dx dy =>
      exact effect_attempt fun _ _ h => .edit (sameShape_moveWithDescendants hn h)
  | addParam id name value => exact .edit (sameShape_editParams hn id _)
  | updateParam id index name value => exact .edit (sameShape_editParams hn id _)
  | removeParam id index => exact .edit (sameShape_editParams hn id _)
  | addField id key value comment => exact .edit (sameShape_editFields hn id _)
  | updateField id index key value comment => exact .edit (sameShape_editFields hn id _)
  | removeField id index => exact .edit (sameShape_editFields hn id _)
  | pasteNode copied =>
      refine effect_attempt fun node g' h => ?_
      obtain ⟨name, -, h⟩ := bind_eq_ok_iff.1 h
      obtain ⟨rfl, rfl⟩ := Prod.mk.inj (Except.ok.inj h)
      exact .append _ rfl trivial
  | clear => exact .clear

end Graph
end BehaviorTree
