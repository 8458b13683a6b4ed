import BehaviorTree.Proofs.Graph.Reachability
import BehaviorTree.Proofs.Graph.WellFormed
import BehaviorTree.Proofs.Graph.ChildLists

/-! # Rearranged connections

Two graphs are `Rearranged` when they differ at most in the sequence of their connections.  As long
as the children of every node are numbered from zero on (`Ordered`), an operation answers the same
on both and leaves graphs that are again rearranged (`Rearranged.apply`).

What a node loses by `detach` is renumbered parent by parent.  `detachAlong` is the same with the
parents in a given sequence: the sequence decides where the connections stand in the list, and
nothing else (`detachAlong_perm`). -/

namespace BehaviorTree
namespace Graph

/-! ### Siblings of rearranged connections -/

theorem siblings_perm {cs ds : List Connection} (h : ds.Perm cs) (parent : Int) :
    (siblings ds parent).Perm (siblings cs parent) :=
  h.filter _

/-- Connections are told apart by their sources, so nothing more than their siblings is to compare. -/
theorem perm_of_siblings {cs ds : List Connection}
    (h : ∀ parent, (siblings ds parent).Perm (siblings cs parent)) : ds.Perm cs := by
  refine List.perm_iff_count.2 fun c => ?_
  have hsiblings := (h c.source).count_eq c
  rwa [siblings, siblings, List.count_filter (by simp), List.count_filter (by simp)] at hsiblings

theorem Contiguous.perm {cs ds : List Connection} {parent : Int} (h : Contiguous cs parent)
    (hperm : ds.Perm cs) : Contiguous ds parent := by
  have hsiblings := siblings_perm hperm parent
  unfold Contiguous
  rw [hsiblings.length_eq]
  exact (hsiblings.map _).trans h

/-- Siblings whose orders differ are sorted in one way only. -/
theorem byOrder_eq_of_perm {cs ds : List Connection} {parent : Int}
    (hn : ((siblings cs parent).map (·.order)).Nodup) (h : ds.Perm cs) :
    byOrder ds parent = byOrder cs parent := by
  have hle : (byOrder cs parent).Pairwise fun c d => c.order ≤ d.order := pairwise_sortByOrder _
  have hne : (byOrder cs parent).Pairwise fun c d => c.order ≠ d.order :=
    List.pairwise_map.1 (((sortByOrder_perm _).map _).nodup_iff.2 hn)
  exact sortByOrder_eq ((sortByOrder_perm _).trans (siblings_perm h parent).symm)
    (hle.imp₂ (fun _ _ hle hne => Nat.lt_of_le_of_ne hle hne) hne)

/-! ### The parents of a node -/

theorem nodup_eraseDups {α : Type} [DecidableEq α] (items : List α) : items.eraseDups.Nodup := by
  induction hlength : items.length using Nat.strong_induction_on generalizing items with
  | _ length ih =>
      subst hlength
      cases items with
      | nil => simp
      | cons first rest =>
          have hlt : (rest.filter fun item => !item == first).length < (first :: rest).length :=
            Nat.lt_succ_of_le (List.length_filter_le ..)
          rw [List.eraseDups_cons]
          refine List.nodup_cons.2 ⟨?_, ih _ hlt _ rfl⟩
          simp [List.mem_eraseDups]

theorem nodup_parentIds (cs : List Connection) (id : Int) : (parentIds cs id).Nodup :=
  nodup_eraseDups _

theorem parentIds_eq_of_perm {cs ds : List Connection} (h : ds.Perm cs) (id : Int) :
    parentIds ds id = parentIds cs id := by
  have hsources : ((ds.filter fun c => c.target = id).map (·.source)).Perm
      ((cs.filter fun c => c.target = id).map (·.source)) := (h.filter _).map _
  have hsort : ∀ ids : List Int, (ids.mergeSort fun a b => a ≤ b).Pairwise (· ≤ ·) := fun ids =>
    (List.pairwise_mergeSort (fun a b c hab hbc => by simp only [decide_eq_true_eq] at *; omega)
      (fun a b => by simp only [Bool.or_eq_true, decide_eq_true_eq]; omega) ids).imp
        fun h => of_decide_eq_true h
  have hsorted := List.Perm.eq_of_pairwise (fun _ _ _ _ => Int.le_antisymm) (hsort _) (hsort _)
    (((List.mergeSort_perm _ _).trans hsources).trans (List.mergeSort_perm _ _).symm)
  rw [parentIds, parentIds, hsorted]

/-! ### Renumbering in any sequence -/

theorem siblings_foldl_renumber_of_not_mem {parents : List Int} {parent : Int}
    (h : parent ∉ parents) (cs : List Connection) :
    siblings (parents.foldl (fun cs parent => renumber parent cs) cs) parent =
      siblings cs parent := by
  induction parents generalizing cs with
  | nil => rfl
  | cons first rest ih =>
      obtain ⟨hfirst, hrest⟩ := not_or.1 (mt List.mem_cons.2 h)
      exact (ih hrest _).trans (siblings_renumber_of_ne hfirst cs)

theorem siblings_foldl_renumber_of_mem {parents : List Int} (hn : parents.Nodup) {parent : Int}
    (h : parent ∈ parents) (cs : List Connection) :
    siblings (parents.foldl (fun cs parent => renumber parent cs) cs) parent =
      number (byOrder cs parent) := by
  induction parents generalizing cs with
  | nil => cases h
  | cons first rest ih =>
      obtain ⟨hfirst, hrest⟩ := List.nodup_cons.1 hn
      rcases List.mem_cons.1 h with rfl | h
      · exact (siblings_foldl_renumber_of_not_mem hfirst _).trans (siblings_renumber parent cs)
      · have hne : parent ≠ first := fun he => hfirst (he ▸ h)
        rw [List.foldl_cons, ih hrest h, byOrder, siblings_renumber_of_ne hne]
        rfl

/-- Below each parent, renumbering does the same in whichever sequence the parents come. -/
theorem foldl_renumber_perm {parents others : List Int} (hn : parents.Nodup)
    (hparents : others.Perm parents) {cs ds : List Connection} (h : ds.Perm cs)
    (horders : ∀ parent, ((siblings cs parent).map (·.order)).Nodup) :
    (others.foldl (fun cs parent => renumber parent cs) ds).Perm
      (parents.foldl (fun cs parent => renumber parent cs) cs) := by
  refine perm_of_siblings fun parent => ?_
  by_cases hm : parent ∈ parents
  · rw [siblings_foldl_renumber_of_mem hn hm,
      siblings_foldl_renumber_of_mem (hparents.nodup_iff.2 hn) (hparents.mem_iff.2 hm),
      byOrder_eq_of_perm (horders parent) h]
  · rw [siblings_foldl_renumber_of_not_mem hm,
      siblings_foldl_renumber_of_not_mem (mt hparents.mem_iff.1 hm)]
    exact siblings_perm h parent

/-- The connections without those that touch a node, the given parents renumbered one after the
other. -/
def detachAlong (parents : List Int) (cs : List Connection) (id : Int) : List Connection :=
  parents.foldl (fun cs parent => renumber parent cs) (apart cs id)

theorem detachAlong_parentIds (cs : List Connection) (id : Int) :
    detachAlong (parentIds cs id) cs id = detach cs id := rfl

theorem nodup_orders_apart {cs : List Connection} (h : ∀ parent, Contiguous cs parent) (id : Int)
    (parent : Int) : ((siblings (apart cs id) parent).map (·.order)).Nodup :=
  (h parent).nodup.sublist ((List.filter_sublist.filter _).map _)

/-- The sequence in which the parents of a node are visited decides about places in the list only. -/
theorem detachAlong_perm {cs ds : List Connection} (hordered : ∀ parent, Contiguous cs parent)
    (h : ds.Perm cs) {id : Int} {parents others : List Int}
    (hparents : parents.Perm (parentIds cs id)) (hothers : others.Perm (parentIds ds id)) :
    (detachAlong others ds id).Perm (detachAlong parents cs id) := by
  have hsame : others.Perm parents := by
    rw [parentIds_eq_of_perm h] at hothers
    exact hothers.trans hparents.symm
  exact foldl_renumber_perm (hparents.nodup_iff.2 (nodup_parentIds cs id)) hsame (h.filter _)
    (nodup_orders_apart hordered id)

/-! ### Rearranged graphs -/

/-- The children of every node are numbered from zero on, each number once. -/
def Ordered (g : Graph) : Prop := ∀ parent, Contiguous g.connections parent

/-- Two graphs that differ at most in the sequence of their connections. -/
structure Rearranged (g g' : Graph) : Prop where
  nodes : g'.nodes = g.nodes
  nextId : g'.nextId = g.nextId
  connections : g'.connections.Perm g.connections

/-- A graph with other connections. -/
def withConnections (g : Graph) (cs : List Connection) : Graph := { g with connections := cs }

theorem rearranged_withConnections {g : Graph} {cs : List Connection} (h : cs.Perm g.connections) :
    g.Rearranged (g.withConnections cs) :=
  ⟨rfl, rfl, h⟩

namespace Rearranged

variable {g g' : Graph}

theorem refl (g : Graph) : g.Rearranged g := ⟨rfl, rfl, .refl _⟩

theorem symm (h : g.Rearranged g') : g'.Rearranged g :=
  ⟨h.nodes.symm, h.nextId.symm, h.connections.symm⟩

theorem trans {g'' : Graph} (h : g.Rearranged g') (h' : g'.Rearranged g'') : g.Rearranged g'' :=
  ⟨h'.nodes.trans h.nodes, h'.nextId.trans h.nextId, h'.connections.trans h.connections⟩

theorem eq_withConnections (h : g.Rearranged g') : g' = g.withConnections g'.connections := by
  obtain ⟨nodes, connections, nextId⟩ := g'
  obtain ⟨rfl, rfl, -⟩ := h
  rfl

theorem ordered (h : g.Rearranged g') (ho : g.Ordered) : g'.Ordered :=
  fun parent => (ho parent).perm h.connections

theorem find?_eq (h : g.Rearranged g') (id : Int) : g'.find? id = g.find? id := by
  rw [find?, find?, h.nodes]

theorem get_eq (h : g.Rearranged g') (id : Int) : g'.get id = g.get id := by
  rw [get, get, h.find?_eq]

theorem ofKind_eq (h : g.Rearranged g') (kind : NodeKind) : g'.ofKind kind = g.ofKind kind := by
  rw [ofKind, ofKind, h.nodes]

theorem childCount_eq (h : g.Rearranged g') (id : Int) : g'.childCount id = g.childCount id :=
  h.connections.countP_eq _

theorem hasParent_eq (h : g.Rearranged g') (id : Int) : g'.hasParent id = g.hasParent id :=
  h.connections.any_eq

theorem hasChild_eq (h : g.Rearranged g') (id : Int) : g'.hasChild id = g.hasChild id :=
  h.connections.any_eq

theorem roots_eq (h : g.Rearranged g') : g'.roots = g.roots := by
  rw [roots, roots, h.nodes]
  exact List.filter_congr fun node _ => by rw [h.hasParent_eq]

/-! ### Paths and children -/

theorem edge_iff (h : g.Rearranged g') (a b : Int) : g'.Edge a b ↔ g.Edge a b := by
  simp only [Edge, h.connections.mem_iff]

theorem reaches_eq (h : g.Rearranged g') (a b : Int) : g'.reaches a b = g.reaches a b := by
  have hedge : g'.Edge = g.Edge := funext₂ fun a b => propext (h.edge_iff a b)
  rw [Bool.eq_iff_iff, reaches_iff, reaches_iff, hedge]

theorem isAttachable_eq (h : g.Rearranged g') (id : Int) :
    g'.isAttachable id = g.isAttachable id := by
  unfold isAttachable incoming
  rw [(h.connections.filter _).all_eq]
  simp only [h.find?_eq]

theorem refusal?_eq (h : g.Rearranged g') (source target : Node) :
    g'.refusal? source target = g.refusal? source target := by
  simp only [refusal?, h.connections.any_eq, h.childCount_eq, h.isAttachable_eq, h.reaches_eq]

theorem checkConnect_eq (h : g.Rearranged g') (source target : Int) :
    g'.checkConnect source target = g.checkConnect source target := by
  simp only [checkConnect, h.find?_eq, h.refusal?_eq]

theorem children_eq (h : g.Rearranged g') (ho : g.Ordered) (id : Int) :
    g'.children id = g.children id := by
  have houtgoing : g'.outgoing id = g.outgoing id :=
    byOrder_eq_of_perm (ho id).nodup h.connections
  simp only [children, houtgoing, h.find?_eq]

end Rearranged

/-- The traversal asks of the sources only whether an id is among them. -/
theorem preorder_congr {next : Int → List Int} {sources others : List Int}
    (h : ∀ id, id ∈ others ↔ id ∈ sources) (stack visited : List Int) :
    preorder next others stack visited = preorder next sources stack visited := by
  induction stack, visited using preorder.induct next sources with
  | case1 visited => rw [preorder, preorder]
  | case2 visited id rest hid ih => rw [preorder_visited hid, preorder_visited hid, ih]
  | case3 visited id rest hid hsource ih =>
      rw [preorder, if_neg hid, if_pos ((h id).2 hsource), ih]
      conv_rhs => rw [preorder, if_neg hid, if_pos hsource]
  | case4 visited id rest hid hsource ih =>
      rw [preorder, if_neg hid, if_neg (mt (h id).1 hsource), ih]
      conv_rhs => rw [preorder, if_neg hid, if_neg hsource]

namespace Rearranged

variable {g g' : Graph}

theorem descendants_eq (h : g.Rearranged g') (ho : g.Ordered) (id : Int) :
    g'.descendants id = g.descendants id := by
  have hnext : g'.childIds = g.childIds := funext fun id => by
    rw [childIds, childIds, h.children_eq ho]
  have hsources : ∀ id, id ∈ g'.sources ↔ id ∈ g.sources := fun _ => (h.connections.map _).mem_iff
  have hids : g'.descendantIds id = g.descendantIds id := by
    rw [descendantIds, hnext, preorder_congr hsources]
    rfl
  simp only [descendants, h.get_eq, hids, funext h.find?_eq]

end Rearranged

/-! ### Edits of nodes

They do not look at the connections, but for the move of a node with all nodes below it. -/

/-- What a call answers and leaves, with other connections in the graph. -/
abbrev onto {α : Type} (cs : List Connection) (left : α × Graph) : α × Graph :=
  (left.1, left.2.withConnections cs)

section edits

variable (g : Graph) (cs : List Connection)

theorem createNode_withConnections (kind : String) (x y : Number) (name : String) :
    (g.withConnections cs).createNode kind x y name = onto cs <$> g.createNode kind x y name := by
  simp only [createNode, map_bind, map_pure]
  rfl

theorem pasteNode_withConnections (copied : Node) :
    (g.withConnections cs).pasteNode copied = onto cs <$> g.pasteNode copied := by
  simp only [pasteNode, map_bind, map_pure]
  rfl

theorem updateNode_withConnections (id : Int) (edits : List (String × String)) :
    (g.withConnections cs).updateNode id edits = onto cs <$> g.updateNode id edits := by
  simp only [updateNode, map_bind, map_pure]
  rfl

theorem setDecorator_withConnections (id : Int) (kind : String) :
    (g.withConnections cs).setDecorator id kind = onto cs <$> g.setDecorator id kind := by
  simp only [setDecorator, map_bind]
  refine bind_congr fun node => ?_
  split
  · rfl
  · simp only [map_bind, map_pure]
    rfl

theorem moveNode_withConnections (id : Int) (x y : Number) :
    (g.withConnections cs).moveNode id x y = onto cs <$> g.moveNode id x y := by
  simp only [moveNode, map_bind, map_pure]
  rfl

theorem foldl_replace_withConnections (changed : List Node) :
    changed.foldl replace (g.withConnections cs) = (changed.foldl replace g).withConnections cs := by
  induction changed generalizing g with
  | nil => rfl
  | cons node rest ih => exact ih (g.replace node)

theorem moveWithDescendants_withConnections {g : Graph} (ho : g.Ordered) {cs : List Connection}
    (h : cs.Perm g.connections) (id : Int) (dx dy : Number) :
    (g.withConnections cs).moveWithDescendants id dx dy =
      onto cs <$> g.moveWithDescendants id dx dy := by
  have hdescendants := (rearranged_withConnections h).descendants_eq ho id
  simp only [moveWithDescendants, map_bind, map_pure, hdescendants, foldl_replace_withConnections]

theorem editParams_withConnections (id : Int)
    (change : List Param → Except Fault (Param × List Param)) :
    (g.withConnections cs).editParams id change = onto cs (g.editParams id change) := by
  have howner : (g.withConnections cs).paramOwner id = g.paramOwner id := rfl
  simp only [editParams, howner]
  split
  · rfl
  · split <;> rfl

theorem editFields_withConnections (id : Int)
    (change : List Field → Except Fault (Field × List Field)) :
    (g.withConnections cs).editFields id change = onto cs (g.editFields id change) := by
  have hboard : (g.withConnections cs).blackboard id = g.blackboard id := rfl
  simp only [editFields, hboard]
  split
  · rfl
  · split <;> rfl

end edits

/-! ### Operations -/

/-- Two calls with one answer that leave ordered graphs, rearranged at most. -/
structure Alike {α : Type} (left right : α × Graph) : Prop where
  answer : right.1 = left.1
  ordered : left.2.Ordered
  graphs : left.2.Rearranged right.2

section operations

variable {g g' : Graph} (ho : g.Ordered) (h : g.Rearranged g')

include ho h

/-- A call that leaves the connections as they are, whatever they are. -/
theorem alike_of_onto {α : Type} (call : Graph → α × Graph)
    (hcall : ∀ cs, cs.Perm g.connections → call (g.withConnections cs) = onto cs (call g)) :
    Alike (call g) (call g') := by
  have hkept : (call g).2.connections = g.connections :=
    congrArg (fun left => left.2.connections) (hcall _ (.refl _))
  rw [h.eq_withConnections, hcall _ h.connections]
  refine ⟨rfl, fun parent => ?_, rearranged_withConnections ?_⟩
  · rw [hkept]
    exact ho parent
  · rw [hkept]
    exact h.connections

theorem alike_attempt {α : Type} {wrap : α → Outcome} (call : Graph → Except Fault (α × Graph))
    (hcall : ∀ cs, cs.Perm g.connections → call (g.withConnections cs) = onto cs <$> call g) :
    Alike (Operation.attempt g wrap (call g)) (Operation.attempt g' wrap (call g')) := by
  refine alike_of_onto ho h (fun g => Operation.attempt g wrap (call g)) fun cs hcs => ?_
  rw [hcall cs hcs]
  cases call g <;> rfl

theorem alike_answer {α : Type} {wrap : α → Outcome} (call : Graph → Edited α)
    (hcall : ∀ cs, call (g.withConnections cs) = onto cs (call g)) :
    Alike (Operation.answer wrap (call g)) (Operation.answer wrap (call g')) := by
  refine alike_of_onto ho h (fun g => Operation.answer wrap (call g)) fun cs _ => ?_
  rw [hcall cs]
  rfl

theorem alike_detach (id : Int) :
    Ordered (g.withConnections (detach g.connections id)) ∧
      Rearranged (g.withConnections (detach g.connections id))
        (g'.withConnections (detach g'.connections id)) := by
  have hperm := detachAlong_perm ho h.connections (.refl (parentIds g.connections id)) (.refl _)
  rw [detachAlong_parentIds, detachAlong_parentIds] at hperm
  exact ⟨contiguous_detach ho id, h.nodes, h.nextId, hperm⟩

theorem alike_deleteNode (id : Int) :
    Alike ((Operation.deleteNode id).carryOut g) ((Operation.deleteNode id).carryOut g') := by
  obtain ⟨hordered, hdetach⟩ := alike_detach ho h id
  simp only [Operation.carryOut, deleteNode, h.get_eq]
  cases g.get id with
  | error fault => exact ⟨rfl, ho, h⟩
  | ok node =>
      have hnodes : (g'.nodes.filter fun other => other.id ≠ id) =
          g.nodes.filter fun other => other.id ≠ id := by rw [h.nodes]
      exact ⟨rfl, hordered, hnodes, hdetach.nextId, hdetach.connections⟩

theorem alike_disconnect (id : Int) :
    Alike ((Operation.disconnect id).carryOut g) ((Operation.disconnect id).carryOut g') := by
  obtain ⟨hordered, hdetach⟩ := alike_detach ho h id
  simp only [Operation.carryOut, disconnect, h.get_eq, h.connections.countP_eq]
  cases g.get id with
  | error fault => exact ⟨rfl, ho, h⟩
  | ok node => exact ⟨rfl, hordered, hdetach⟩

theorem alike_connect (source target : Int) (fromPoint toPoint : String) :
    Alike (g.connect source target fromPoint toPoint)
      (g'.connect source target fromPoint toPoint) := by
  simp only [connect, h.checkConnect_eq, h.childCount_eq]
  split
  · exact ⟨rfl, ho, h⟩
  · exact ⟨rfl, WellFormed.contiguous_concat ho (length_siblings g source).symm, h.nodes, h.nextId,
      h.connections.append_right _⟩

theorem alike_reorderChildren (parent a b : Int) :
    Alike (g.reorderChildren parent a b) (g'.reorderChildren parent a b) := by
  have hall : ∀ p : Connection → Bool,
      (g'.connections.filter fun c => c.source = parent).all p =
        (g.connections.filter fun c => c.source = parent).all p :=
    fun p => (siblings_perm h.connections parent).all_eq
  simp only [reorderChildren, hall]
  split
  · exact ⟨rfl, ho, h⟩
  · rename_i ha
    split
    · exact ⟨rfl, ho, h⟩
    · rename_i hb
      obtain ⟨i, rfl, hi⟩ := exists_order_of_not_all ha
      obtain ⟨j, rfl, hj⟩ := exists_order_of_not_all hb
      have hlt : ∀ n ∈ (siblings g.connections parent).map (·.order),
          n < (siblings g.connections parent).length :=
        fun n hn => List.mem_range.1 ((ho parent).subset hn)
      have hswapped : (gather parent (exchangeBelow parent i j g'.connections)).Perm
          (gather parent (exchangeBelow parent i j g.connections)) :=
        (gather_perm parent _).trans ((h.connections.map _).trans (gather_perm parent _).symm)
      exact ⟨rfl, contiguous_exchange ho (hlt i hi) (hlt j hj), h.nodes, h.nextId, hswapped⟩

/-- **An operation on rearranged graphs**: one answer, and rearranged graphs again. -/
theorem alike_carryOut (operation : Operation) :
    Alike (operation.carryOut g) (operation.carryOut g') := by
  cases operation with
  | createNode kind x y name =>
      exact alike_attempt ho h (fun g => g.createNode kind x y name)
        fun cs _ => g.createNode_withConnections cs kind x y name
  | deleteNode id => exact alike_deleteNode ho h id
  | connect source target fromPoint toPoint =>
      have halike := alike_connect ho h source target fromPoint toPoint
      exact ⟨congrArg (Except.ok ∘ Outcome.connected) halike.answer, halike.ordered, halike.graphs⟩
  | disconnect id => exact alike_disconnect ho h id
  | reorderChildren parent a b =>
      have halike := alike_reorderChildren ho h parent a b
      exact ⟨congrArg (Except.ok ∘ Outcome.reordered) halike.answer, halike.ordered, halike.graphs⟩
  | updateNode id edits =>
      exact alike_attempt ho h (fun g => g.updateNode id edits)
        fun cs _ => g.updateNode_withConnections cs id edits
  | setDecorator id kind =>
      exact alike_attempt ho h (fun g => g.setDecorator id kind)
        fun cs _ => g.setDecorator_withConnections cs id kind
  | moveNode id x y =>
      exact alike_attempt ho h (fun g => g.moveNode id x y)
        fun cs _ => g.moveNode_withConnections cs id x y
  | moveWithDescendants id dx dy =>
      exact alike_attempt ho h (fun g => g.moveWithDescendants id dx dy)
        fun _ hcs => moveWithDescendants_withConnections ho hcs id dx dy
  | addParam id name value =>
      exact alike_answer ho h (fun g => g.addParam id name value)
        fun cs => g.editParams_withConnections cs id _
  | updateParam id index name value =>
      exact alike_answer ho h (fun g => g.updateParam id index name value)
        fun cs => g.editParams_withConnections cs id _
  | removeParam id index =>
      exact alike_answer ho h (fun g => g.removeParam id index)
        fun cs => g.editParams_withConnections cs id _
  | addField id key value comment =>
      exact alike_answer ho h (fun g => g.addField id key value comment)
        fun cs => g.editFields_withConnections cs id _
  | updateField id index key value comment =>
      exact alike_answer ho h (fun g => g.updateField id index key value comment)
        fun cs => g.editFields_withConnections cs id _
  | removeField id index =>
      exact alike_answer ho h (fun g => g.removeField id index)
        fun cs => g.editFields_withConnections cs id _
  | pasteNode copied =>
      exact alike_attempt ho h (fun g => g.pasteNode copied)
        fun cs _ => g.pasteNode_withConnections cs copied
  | clear => exact ⟨rfl, WellFormed.empty.contiguous, rfl, rfl, .refl _⟩

end operations

/-- What is logged does not depend on the sequence of the connections either. -/
theorem Rearranged.log_eq {g g' : Graph} (h : g.Rearranged g') (operation : Operation)
    (outcome : Outcome) : operation.log g' outcome = operation.log g outcome := by
  have hlogged : operation.logged g' outcome = operation.logged g outcome := by
    unfold Operation.logged
    simp only [h.connections.any_eq, parentIds_eq_of_perm h.connections]
  simp only [Operation.log, hlogged]

theorem Rearranged.apply {g g' : Graph} (h : g.Rearranged g') (ho : g.Ordered)
    (operation : Operation) : Alike (operation.apply g) (operation.apply g') := by
  have halike := alike_carryOut ho h operation
  refine ⟨?_, halike.ordered, halike.graphs⟩
  simp only [Operation.apply, halike.answer, funext (h.log_eq operation)]

end Graph
end BehaviorTree
