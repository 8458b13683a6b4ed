import BehaviorTree.Proofs.Graph.WellFormed

/-! # The nodes below a node

A node and the nodes below it are listed in preorder: each node that a path leads to once, the node
itself first, and any other behind one of its parents (`WellFormed.lists_descendants`), on graphs
with cycles and shared children too.  Shifting a node with all below it puts each of these nodes in
its new place, and leaves everything else as it was (`WellFormed.moveWithDescendants_eq`).

The order comes from the traversal: what it lists stood on its stack, or follows from what it has
listed before (`mem_stack_or_successor`). -/

namespace BehaviorTree

open Relation (ReflTransGen)

/-! ### The order of a traversal -/

section preorder

variable {next : Int → List Int} {sources : List Int}

/-- What is listed behind a new id stood on the stack before, or follows from an id in front. -/
theorem mem_cons_or_successor {id x : Int} {rest listed before : List Int}
    (hlisted : ∀ {before : List Int}, before ++ [x] <+: listed →
      x ∈ next id ++ rest ∨ ∃ parent ∈ before, x ∈ next parent)
    (h : before ++ [x] <+: id :: listed) :
    x ∈ id :: rest ∨ ∃ parent ∈ before, x ∈ next parent := by
  cases before with
  | nil =>
      obtain ⟨rfl, -⟩ := List.cons_prefix_cons.1 h
      exact Or.inl List.mem_cons_self
  | cons first before =>
      obtain ⟨rfl, hrest⟩ := List.cons_prefix_cons.1 h
      rcases hlisted hrest with hx | ⟨parent, hparent, hx⟩
      · rcases List.mem_append.1 hx with hx | hx
        · exact Or.inr ⟨first, List.mem_cons_self, hx⟩
        · exact Or.inl (List.mem_cons_of_mem _ hx)
      · exact Or.inr ⟨parent, List.mem_cons_of_mem _ hparent, hx⟩

/-- **An id is listed behind one that it is a successor of**, unless it stood on the stack. -/
theorem mem_stack_or_successor (hs : ∀ a, a ∉ sources → next a = [])
    {stack visited before : List Int} {x : Int}
    (h : before ++ [x] <+: preorder next sources stack visited) :
    x ∈ stack ∨ ∃ parent ∈ before, x ∈ next parent := by
  induction stack, visited using preorder.induct next sources generalizing before with
  | case1 visited =>
      rw [preorder] at h
      simp at h
  | case2 visited id rest hid ih =>
      rw [preorder_visited hid] at h
      exact (ih h).imp_left (List.mem_cons_of_mem _)
  | case3 visited id rest hid hsrc ih =>
      rw [preorder_fresh hs hid] at h
      exact mem_cons_or_successor ih h
  | case4 visited id rest hid hsrc ih =>
      rw [preorder_fresh hs hid] at h
      refine mem_cons_or_successor (fun hbefore => ?_) h
      rw [hs id hsrc, List.nil_append] at hbefore ⊢
      exact ih hbefore

end preorder

namespace Graph

variable {g : Graph}

/-! ### Children of a well-formed graph -/

theorem WellFormed.mem_childIds (h : g.WellFormed) {a b : Int} : b ∈ g.childIds a ↔ g.Edge a b := by
  constructor
  · intro hb
    obtain ⟨child, hchild, rfl⟩ := List.mem_map.1 hb
    exact edge_of_mem_children hchild
  · rintro ⟨c, hc, hsource, htarget⟩
    obtain ⟨child, hmem, hid⟩ := List.mem_map.1 (h.joined c hc).2
    have hfound : g.find? c.target = some child := by
      rw [← hid]
      exact h.find?_of_mem hmem
    have hchild : child ∈ g.children a :=
      List.mem_filterMap.2 ⟨c, mem_outgoing.2 ⟨hc, hsource⟩, hfound⟩
    rw [← htarget, ← hid]
    exact List.mem_map_of_mem hchild

theorem WellFormed.childIds_eq_nil (h : g.WellFormed) {a : Int} (ha : a ∉ g.sources) :
    g.childIds a = [] := by
  refine List.eq_nil_iff_forall_not_mem.2 fun b hb => ha ?_
  obtain ⟨c, hc, rfl, -⟩ := h.mem_childIds.1 hb
  exact List.mem_map_of_mem hc

/-! ### Listing the nodes below a node -/

/-- The nodes below a node, itself among them, as a list has to give them. -/
structure ListsDescendants (g : Graph) (node : Node) (below : List Node) : Prop where
  /-- Each node once. -/
  nodup : (below.map (·.id)).Nodup
  /-- The nodes that a path leads to. -/
  mem_iff : ∀ other, other ∈ below ↔ other ∈ g.nodes ∧ ReflTransGen g.Edge node.id other.id
  /-- The node itself comes first. -/
  head : below.head? = some node
  /-- Any other node comes behind one of its parents. -/
  behind_parent : ∀ before other, before ++ [other] <+: below →
    other = node ∨ ∃ parent ∈ before, g.Edge parent.id other.id

namespace WellFormed

variable (h : g.WellFormed)

include h

theorem mem_descendantIds {id other : Int} :
    other ∈ g.descendantIds id ↔ ReflTransGen g.Edge id other := by
  have hstep : Fresh g.childIds [] = g.Edge := by
    funext a b
    simp [Fresh, h.mem_childIds]
  rw [descendantIds, mem_preorder_iff fun _ => h.childIds_eq_nil, hstep]
  simp

/-- The nodes of a list of ids that all exist. -/
theorem map_id_filterMap_find? {ids : List Int} (hids : ∀ id ∈ ids, id ∈ g.nodes.map (·.id)) :
    (ids.filterMap g.find?).map (·.id) = ids := by
  have hfind : ∀ id ∈ ids, (g.find? id).map (·.id) = some id := by
    intro id hid
    obtain ⟨node, hnode, rfl⟩ := List.mem_map.1 (hids id hid)
    rw [h.find?_of_mem hnode]
    rfl
  rw [List.map_filterMap, List.filterMap_congr hfind]
  exact List.filterMap_some

/-- What a path leads to from a node is the id of a node. -/
theorem mem_ids_of_path {node : Node} (hnode : node ∈ g.nodes) {id : Int}
    (hpath : ReflTransGen g.Edge node.id id) : id ∈ g.nodes.map (·.id) := by
  rcases hpath.cases_tail with rfl | ⟨_, -, c, hc, -, rfl⟩
  · exact List.mem_map_of_mem hnode
  · exact (h.joined c hc).2

theorem map_id_descendantIds {node : Node} (hnode : node ∈ g.nodes) :
    ((g.descendantIds node.id).filterMap g.find?).map (·.id) = g.descendantIds node.id :=
  h.map_id_filterMap_find? fun _ hid => h.mem_ids_of_path hnode (h.mem_descendantIds.1 hid)

theorem mem_filterMap_descendantIds {id : Int} {other : Node} :
    other ∈ (g.descendantIds id).filterMap g.find? ↔
      other ∈ g.nodes ∧ ReflTransGen g.Edge id other.id := by
  rw [List.mem_filterMap]
  constructor
  · rintro ⟨found, hid, hfound⟩
    obtain ⟨hother, rfl⟩ := mem_of_find? hfound
    exact ⟨hother, h.mem_descendantIds.1 hid⟩
  · rintro ⟨hother, hpath⟩
    exact ⟨other.id, h.mem_descendantIds.2 hpath, h.find?_of_mem hother⟩

/-- **The nodes below a node are listed**, whatever cycles there are. -/
theorem lists_descendants {node : Node} (hnode : node ∈ g.nodes) :
    ∃ below, g.descendants node.id = .ok below ∧ g.ListsDescendants node below := by
  have hsources : ∀ a, a ∉ g.sources → g.childIds a = [] := fun _ => h.childIds_eq_nil
  have hids := h.map_id_descendantIds hnode
  have hfirst : g.descendantIds node.id =
      node.id :: preorder g.childIds g.sources (g.childIds node.id ++ []) [node.id] :=
    preorder_fresh hsources List.not_mem_nil
  refine ⟨(g.descendantIds node.id).filterMap g.find?, ?_, ?_,
    fun other => h.mem_filterMap_descendantIds, ?_, ?_⟩
  · rw [descendants, get_eq_ok_iff.2 (h.find?_of_mem hnode)]
    rfl
  · rw [hids]
    exact nodup_preorder hsources [node.id] []
  · rw [hfirst, List.filterMap_cons_some (h.find?_of_mem hnode)]
    rfl
  · intro before other hbefore
    have hother : other ∈ g.nodes :=
      (h.mem_filterMap_descendantIds.1 (hbefore.subset List.mem_concat_self)).1
    have hprefix : before.map (·.id) ++ [other.id] <+: g.descendantIds node.id := by
      have := hbefore.map (·.id)
      rwa [hids, List.map_append, List.map_singleton] at this
    rcases mem_stack_or_successor hsources hprefix with hstack | ⟨_, hid, hedge⟩
    · exact Or.inl (List.inj_on_of_nodup_map h.ids_nodup hother hnode (List.mem_singleton.1 hstack))
    · obtain ⟨parent, hparent, rfl⟩ := List.mem_map.1 hid
      exact Or.inr ⟨parent, hparent, h.mem_childIds.1 hedge⟩

end WellFormed

/-! ### Shifting the nodes below a node -/

/-- A node that is shifted, but not out of the world. -/
def shift (dx dy : Float) (node : Node) : Node := place node (node.x + dx) (node.y + dy)

/-- A graph with some nodes shifted. -/
def shifted (g : Graph) (group : List Node) (dx dy : Float) : Graph :=
  { g with nodes := g.nodes.map fun node => if node ∈ group then shift dx dy node else node }

/-- Nodes with distinct ids that are put in the place of others, one after the other. -/
theorem foldl_replace {changed : List Node} (hchanged : (changed.map (·.id)).Nodup) (g : Graph) :
    changed.foldl replace g = { g with
      nodes := g.nodes.map fun node => (changed.find? fun c => c.id = node.id).getD node } := by
  induction changed generalizing g with
  | nil => simp
  | cons first rest ih =>
      rw [List.map_cons, List.nodup_cons] at hchanged
      have hfirst : rest.find? (fun c => c.id = first.id) = none := by
        refine List.find?_eq_none.2 fun c hc => ?_
        have hne : c.id ≠ first.id := fun he => hchanged.1 (he ▸ List.mem_map_of_mem hc)
        simpa using hne
      rw [List.foldl_cons, ih hchanged.2, replace]
      simp only [List.map_map, Graph.mk.injEq, and_true]
      refine List.map_congr_left fun node _ => ?_
      by_cases hid : node.id = first.id
      · simp [hid, hfirst]
      · have hne : first.id ≠ node.id := Ne.symm hid
        simp [hid, hne]

/-- The node of a group that has the id of a given one is that node, if it is one of the group. -/
theorem WellFormed.find?_group (h : g.WellFormed) {group : List Node}
    (hgroup : ∀ node ∈ group, node ∈ g.nodes) {node : Node} (hnode : node ∈ g.nodes) :
    group.find? (fun other => other.id = node.id) = if node ∈ group then some node else none := by
  have hsame : ∀ other ∈ group, other.id = node.id → other = node := fun other hother hid =>
    List.inj_on_of_nodup_map h.ids_nodup (hgroup other hother) hnode hid
  split_ifs with hmem
  · cases hfind : group.find? (fun other => other.id = node.id) with
    | none =>
        have := List.find?_eq_none.1 hfind node hmem
        simp at this
    | some other =>
        have hid : other.id = node.id := by simpa using List.find?_some hfind
        rw [hsame other (List.mem_of_find?_eq_some hfind) hid]
  · refine List.find?_eq_none.2 fun other hother hid => hmem ?_
    exact hsame other hother (of_decide_eq_true hid) ▸ hother

theorem WellFormed.foldl_replace_shift (h : g.WellFormed) {group : List Node}
    (hgroup : ∀ node ∈ group, node ∈ g.nodes) (hnodup : (group.map (·.id)).Nodup) (dx dy : Float) :
    (group.map (shift dx dy)).foldl replace g = g.shifted group dx dy := by
  have hids : ((group.map (shift dx dy)).map (·.id)).Nodup := by
    rw [List.map_map]
    exact hnodup
  rw [foldl_replace hids, shifted]
  congr 1
  refine List.map_congr_left fun node hnode => ?_
  rw [List.find?_map]
  change ((group.find? fun other => other.id = node.id).map (shift dx dy)).getD node = _
  rw [h.find?_group hgroup hnode]
  split_ifs <;> rfl

/-- **Shifting a node shifts the nodes below it, once each, and nothing else.**  A distance beyond
the doubles is a fault. -/
theorem WellFormed.moveWithDescendants_eq (h : g.WellFormed) {node : Node} {below : List Node}
    (hbelow : g.descendants node.id = .ok below) (hlists : g.ListsDescendants node below)
    (dx dy : Number) :
    g.moveWithDescendants node.id dx dy = do
      let dx ← coordinate dx
      let dy ← coordinate dy
      return (below.map (shift dx dy), g.shifted below dx dy) := by
  have hgroup : ∀ other ∈ below, other ∈ g.nodes := fun other hother =>
    ((hlists.mem_iff other).1 hother).1
  rw [moveWithDescendants, hbelow]
  cases hdx : coordinate dx with
  | error fault => rfl
  | ok x =>
      cases hdy : coordinate dy with
      | error fault => rfl
      | ok y =>
          have hgraph := h.foldl_replace_shift hgroup hlists.nodup x y
          simp only [bind, Except.bind, pure, Except.pure]
          exact congrArg (fun g' => Except.ok (below.map (shift x y), g')) hgraph

end Graph

open BehaviorTree.Graph

/-- **The nodes below a node, and shifting them.**  After any calls, imports of graphs with cycles
and shared children among them, the nodes that a path leads to from an existing node are listed,
each once, the node itself first and any other behind one of its parents.  Shifting the node with
all below it shifts these nodes, each once and not out of the world, and changes nothing else; only
a distance beyond the doubles is refused. -/
theorem descendants_after (calls : List Call) {node : Node}
    (hnode : node ∈ (Run.after calls).graph.nodes) :
    ∃ below, (Run.after calls).graph.descendants node.id = .ok below ∧
      (Run.after calls).graph.ListsDescendants node below ∧
      ∀ dx dy, (Run.after calls).graph.moveWithDescendants node.id dx dy = do
        let dx ← coordinate dx
        let dy ← coordinate dy
        return (below.map (shift dx dy), (Run.after calls).graph.shifted below dx dy) := by
  have hwell := wellFormed_after calls
  obtain ⟨below, hbelow, hlists⟩ := hwell.lists_descendants hnode
  exact ⟨below, hbelow, hlists, hwell.moveWithDescendants_eq hbelow hlists⟩

/-- A document with a node that two others share, and a way back from it to the first. -/
def tangled : Json :=
  let node (id : Int) : Json :=
    .object [("id", .number (.int id)), ("type", .text "SEQUENCE")]
  let link (ends : Int × Int) : Json :=
    .object [("from", .number (.int ends.1)), ("to", .number (.int ends.2))]
  .object [("nodes", .array ([1, 2, 3, 4].map node)),
    ("connections", .array ([(1, 2), (1, 3), (2, 4), (3, 4), (4, 1), (4, 4)].map link))]

theorem descendants_after_tangled :
    ∃ node ∈ (Run.after [.load tangled]).graph.nodes, node.id = 2 ∧
      ∃ below, (Run.after [.load tangled]).graph.descendants node.id = .ok below ∧
        (Run.after [.load tangled]).graph.ListsDescendants node below ∧
        (∀ other ∈ (Run.after [.load tangled]).graph.nodes, other ∈ below) ∧
        ∀ dx dy, (Run.after [.load tangled]).graph.moveWithDescendants node.id dx dy = do
          let dx ← coordinate dx
          let dy ← coordinate dy
          return (below.map (shift dx dy),
            (Run.after [.load tangled]).graph.shifted below dx dy) := by
  obtain ⟨node, hnode, hid⟩ : ∃ node ∈ (Run.after [.load tangled]).graph.nodes, node.id = 2 := by
    decide
  have hids : ∀ other ∈ (Run.after [.load tangled]).graph.nodes, other.id ∈ [2, 4, 1, 3] := by
    decide
  have hedges : ∀ ends ∈ [(2, 4), (4, 1), (1, 3)],
      (Run.after [.load tangled]).graph.Edge ends.1 ends.2 := by
    unfold Edge
    decide
  have hfirst := ReflTransGen.single (hedges (2, 4) (by simp))
  have hsecond := hfirst.tail (hedges (4, 1) (by simp))
  have hthird := hsecond.tail (hedges (1, 3) (by simp))
  obtain ⟨below, hbelow, hlists, hmove⟩ := descendants_after [.load tangled] hnode
  refine ⟨node, hnode, hid, below, hbelow, hlists, fun other hother => ?_, hmove⟩
  refine (hlists.mem_iff other).2 ⟨hother, ?_⟩
  have hother := hids other hother
  simp only [List.mem_cons, List.not_mem_nil, or_false] at hother
  rw [hid]
  rcases hother with h | h | h | h
  · rw [h]
  · exact h ▸ hfirst
  · exact h ▸ hsecond
  · exact h ▸ hthird

end BehaviorTree
