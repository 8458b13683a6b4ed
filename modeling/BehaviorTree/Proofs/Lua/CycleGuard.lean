import BehaviorTree.Proofs.Graph.Height
import BehaviorTree.Proofs.Lua.Exported

/-! # The guard against cycles

The export goes down from a node through the children that are written, and leaves out a child that
stands above itself.  A way down is given by the places of the children that it takes
(`Exporter.downTo`), and leads through as many tables of what is written as nodes of the graph
(`Exporter.rel_downTo`).  Since no id comes twice (`Exporter.nodup_of_downTo`), a way is no longer than
the graph has nodes, whatever cycles there are, so that the export ends.

In a graph without cycles connections lead down, and the guard has nothing to leave out
(`Exporter.disjoint_of_acyclic`).  There the export is the recursion without it
(`Exporter.bodyOn_of_acyclic`), which writes a node once for each way that leads to it. -/

namespace BehaviorTree.Lua

open Relation (ReflTransGen TransGen)

/-! ### Ways down -/

namespace Table

/-- The tables of the children that a table has. -/
def children (table : Table Leaf) : List (Table Leaf) :=
  match table.get? "children" with
  | some (.table entries) => entries.filterMap fun
    | (_, .table inner) => some inner
    | (_, .leaf _) => none
  | _ => []

/-- The tables on a way down from a table, which takes the children at some places. -/
def downTo (table : Table Leaf) : List ℕ → Option (List (Table Leaf))
  | [] => some [table]
  | place :: places => do
    let child ← table.children[place]?
    return table :: (← downTo child places)

end Table

namespace Exporter

variable {e : Exporter} {main : Bool} {path : List Int} {node : Node}

/-- The nodes on a way down from a node, which takes the written children at some places.  `path`
holds the ids from the root to the node, which is among them. -/
def downTo (e : Exporter) (main : Bool) (path : List Int) (node : Node) :
    List ℕ → Option (List Node)
  | [] => some [node]
  | place :: places => do
    let child ← (e.writtenChildren main path node.id)[place]?
    return node :: (← e.downTo main (child.id :: path) child places)

theorem downTo_cons_eq_some_iff {place : ℕ} {places : List ℕ} {nodes : List Node} :
    e.downTo main path node (place :: places) = some nodes ↔
      ∃ child, (e.writtenChildren main path node.id)[place]? = some child ∧
        ∃ below, e.downTo main (child.id :: path) child places = some below ∧
          nodes = node :: below := by
  rw [downTo]
  simp only [Option.bind_eq_bind, Option.bind_eq_some_iff, Option.pure_def, Option.some.injEq,
    @eq_comm _ nodes]

theorem exists_cons_of_downTo {places : List ℕ} {nodes : List Node}
    (h : e.downTo main path node places = some nodes) : ∃ below, nodes = node :: below := by
  cases places with
  | nil => exact ⟨[], (Option.some.inj h).symm⟩
  | cons place places =>
      obtain ⟨-, -, below, -, rfl⟩ := downTo_cons_eq_some_iff.1 h
      exact ⟨below, rfl⟩

/-- A table that the export of a node makes, wherever it stands. -/
def HasTable (e : Exporter) (main : Bool) (node : Node) (table : Table Leaf) : Prop :=
  ∃ path, e.bodyOn main path node = .ok table

theorem Puts.key_ne {key : Key} {value : Code Leaf} (h : e.Puts node key value) :
    key.chars? ≠ some "children".toList := by
  cases h with
  | detail hkey =>
      simp only [detailKeys, List.mem_cons, Prod.mk.injEq, List.not_mem_nil, or_false] at hkey
      rcases hkey with ⟨-, rfl⟩ | ⟨-, rfl⟩ | ⟨-, rfl⟩ | ⟨-, rfl⟩ | ⟨-, rfl⟩ <;> decide
  | _ => decide

theorem find?_children_of_head {entries : Table Leaf} (h : e.head node = .ok entries) :
    (entries.find? fun entry => entry.1.chars? = some "children".toList) = none :=
  List.find?_eq_none.2 fun _ hmem => by
    rw [decide_eq_true_iff]
    exact ((mem_head_iff h).1 hmem).key_ne

theorem children_append_childrenEntry {entries : Table Leaf} (h : e.head node = .ok entries)
    (bodies : List (Table Leaf)) :
    Table.children (entries ++ childrenEntry bodies) = bodies := by
  have hget : Table.get? (entries ++ childrenEntry bodies) "children" =
      Table.get? (childrenEntry bodies) "children" := by
    rw [Table.get?, List.find?_append, find?_children_of_head h, Option.none_or, Table.get?]
  rw [Table.children, hget]
  cases bodies with
  | nil => rfl
  | cons body bodies =>
      change List.filterMap _ (List.map _ (body :: bodies)) = _
      rw [List.filterMap_map]
      exact List.filterMap_some

/-- The children of a table are the tables of the children that are written. -/
theorem forall₂_children {table : Table Leaf} (h : e.bodyOn main path node = .ok table) :
    List.Forall₂ (fun child body => e.bodyOn main (child.id :: path) child = .ok body)
      (e.writtenChildren main path node.id) table.children := by
  obtain ⟨entries, bodies, hentries, -, hbodies, rfl⟩ := bodyOn_eq_ok_iff.1 h
  rw [children_append_childrenEntry hentries]
  exact mapM_eq_ok_iff.1 hbodies

/-- **Ways of tables are ways of nodes**: the tables on a way are those of the nodes on the way that
takes the same places, and if one of the ways ends early, so does the other. -/
theorem rel_downTo {table : Table Leaf} (h : e.bodyOn main path node = .ok table)
    (places : List ℕ) :
    Option.Rel (List.Forall₂ (e.HasTable main)) (e.downTo main path node places)
      (table.downTo places) := by
  induction places generalizing path node table with
  | nil => exact .some (.cons ⟨path, h⟩ .nil)
  | cons place places ih =>
      have hplace := rel_getElem?_of_forall₂ (forall₂_children h) place
      rw [downTo, Table.downTo]
      generalize (e.writtenChildren main path node.id)[place]? = child? at hplace
      generalize table.children[place]? = body? at hplace
      cases hplace with
      | none => exact .none
      | @some child body hbody =>
          have hbelow := ih hbody
          change Option.Rel _ ((e.downTo main (child.id :: path) child places).bind _)
            ((body.downTo places).bind _)
          generalize e.downTo main (child.id :: path) child places = nodes? at hbelow
          generalize body.downTo places = tables? at hbelow
          cases hbelow with
          | none => exact .none
          | some hall => exact .some (.cons ⟨path, h⟩ hall)

/-! ### No id comes twice -/

/-- The ids on a way down are new: they differ from each other and from those above. -/
theorem nodup_of_downTo {places : List ℕ} {nodes : List Node} (hpath : node.id ∈ path)
    (h : e.downTo main path node places = some nodes) :
    ∃ below, nodes = node :: below ∧ (below.map (·.id)).Nodup ∧
      ∀ other ∈ below, other.id ∉ path ∧ other ∈ e.graph.nodes := by
  induction places generalizing path node nodes with
  | nil =>
      obtain rfl := Option.some.inj h
      exact ⟨[], rfl, List.nodup_nil, List.forall_mem_nil _⟩
  | cons place places ih =>
      obtain ⟨child, hchild, rest, hrest, rfl⟩ := downTo_cons_eq_some_iff.1 h
      have hwritten := List.mem_of_getElem? hchild
      obtain ⟨below, rfl, hnodup, hnew⟩ := ih List.mem_cons_self hrest
      refine ⟨child :: below, rfl, ?_, List.forall_mem_cons.2 ⟨?_, fun other hother => ?_⟩⟩
      · refine List.nodup_cons.2 ⟨fun hmem => ?_, hnodup⟩
        obtain ⟨other, hother, hid⟩ := List.mem_map.1 hmem
        exact (hnew other hother).1 (hid ▸ List.mem_cons_self)
      · exact ⟨(mem_writtenChildren_iff.1 hwritten).2, mem_of_written hwritten⟩
      · exact ⟨fun hmem => (hnew other hother).1 (List.mem_cons_of_mem _ hmem),
          (hnew other hother).2⟩

theorem length_le_of_downTo {places : List ℕ} {nodes : List Node} (hnode : node ∈ e.graph.nodes)
    (h : e.downTo main [node.id] node places = some nodes) :
    (nodes.map (·.id)).Nodup ∧ nodes.length ≤ e.graph.nodes.length := by
  obtain ⟨below, rfl, hnodup, hnew⟩ := nodup_of_downTo List.mem_cons_self h
  have hids : ((node :: below).map (·.id)).Nodup := by
    refine List.nodup_cons.2 ⟨fun hmem => ?_, hnodup⟩
    obtain ⟨other, hother, hid⟩ := List.mem_map.1 hmem
    exact (hnew other hother).1 (List.mem_singleton.2 hid)
  have hsub : (node :: below) ⊆ e.graph.nodes :=
    List.cons_subset.2 ⟨hnode, fun other hother => (hnew other hother).2⟩
  exact ⟨hids, (hids.of_map.subperm hsub).length_le⟩

/-! ### Graphs without cycles -/

theorem edge_of_shown {id : Int} {child : Node} (h : child ∈ e.shownChildren main id) :
    e.graph.Edge id child.id :=
  Graph.edge_of_mem_children (List.mem_of_mem_filter h)

theorem edge_of_written {id : Int} {child : Node} (h : child ∈ e.writtenChildren main path id) :
    e.graph.Edge id child.id :=
  edge_of_shown (mem_writtenChildren_iff.1 h).1

/-- **The guard has nothing to leave out** in a graph without cycles. -/
theorem disjoint_of_acyclic (h : e.graph.Acyclic) (main : Bool) {id : Int}
    (hpath : ∀ above ∈ path, ReflTransGen e.graph.Edge above id) :
    ∀ child ∈ e.shownChildren main id, child.id ∉ path :=
  fun child hchild hmem => h id (.head' (edge_of_shown hchild) (hpath child.id hmem))

/-- Those above a child: its parent and those above that. -/
theorem reach_of_cons {child : Node} (hedge : e.graph.Edge node.id child.id)
    (hpath : ∀ above ∈ path, ReflTransGen e.graph.Edge above node.id) :
    ∀ above ∈ child.id :: path, ReflTransGen e.graph.Edge above child.id :=
  List.forall_mem_cons.2 ⟨.refl, fun above habove => (hpath above habove).tail hedge⟩

/-- The table of a node of a graph without cycles, made without a look at what stands above it. -/
def plainBody (e : Exporter) (h : e.graph.Acyclic) (main : Bool) (node : Node) :
    Except Fault (Table Leaf) := do
  let entries ← e.head node
  let bodies ← (e.shownChildren main node.id).attach.mapM fun ⟨child, _⟩ =>
    e.plainBody h main child
  return entries ++ childrenEntry bodies
termination_by e.graph.height node.id
decreasing_by exact h.height_lt (edge_of_shown ‹_›)

/-- The table of a node and of what stands below it, made so; a blackboard has none. -/
def plainBody? (e : Exporter) (h : e.graph.Acyclic) (main : Bool) (node : Node) :
    Except Fault (Option (Table Leaf)) :=
  if node.kind = .blackboard then .ok none else some <$> e.plainBody h main node

theorem plainBody_eq (h : e.graph.Acyclic) (main : Bool) (node : Node) :
    e.plainBody h main node = do
      let entries ← e.head node
      let bodies ← (e.shownChildren main node.id).mapM (e.plainBody h main)
      return entries ++ childrenEntry bodies := by
  rw [plainBody]
  simp only [List.mapM_subtype, List.unattach_attach]

/-- **The recursion without the guard** makes the same table, or fails in the same way. -/
theorem bodyOn_of_acyclic (h : e.graph.Acyclic)
    (hpath : ∀ above ∈ path, ReflTransGen e.graph.Edge above node.id) :
    e.bodyOn main path node = e.plainBody h main node := by
  induction path, node using written_induct e main with
  | step path node ih =>
      have hdisjoint := disjoint_of_acyclic h main hpath
      have hbodies : ((e.shownChildren main node.id).mapM fun child =>
          e.bodyOn main (child.id :: path) child) =
            (e.shownChildren main node.id).mapM (e.plainBody h main) :=
        mapM_congr fun child hchild =>
          ih child (mem_writtenChildren_iff.2 ⟨hchild, hdisjoint child hchild⟩)
            (reach_of_cons (edge_of_shown hchild) hpath)
      rw [bodyOn_of_disjoint hdisjoint, plainBody_eq, hbodies]

/-- Those on a way down stand above the last one. -/
theorem reach_of_downTo {places : List ℕ} {nodes : List Node}
    (h : e.downTo main path node places = some nodes) :
    ∀ last ∈ nodes.getLast?, ∀ other ∈ nodes, ReflTransGen e.graph.Edge other.id last.id := by
  induction places generalizing path node nodes with
  | nil =>
      obtain rfl := Option.some.inj h
      intro last hlast other hother
      have hlast : node = last := Option.some.inj hlast
      rw [List.mem_singleton.1 hother, hlast]
  | cons place places ih =>
      obtain ⟨child, hchild, rest, hrest, rfl⟩ := downTo_cons_eq_some_iff.1 h
      have hedge : e.graph.Edge node.id child.id :=
        edge_of_written (List.mem_of_getElem? hchild)
      obtain ⟨below, rfl⟩ := exists_cons_of_downTo hrest
      intro last hlast other hother
      rw [List.getLast?_cons_cons] at hlast
      have hreach := ih hrest last hlast
      rcases List.mem_cons.1 hother with rfl | hother
      · exact .head hedge (hreach child List.mem_cons_self)
      · exact hreach other hother

/-- **What the guard does.**  Whatever the graph, the nodes on a way that the export goes down are
distinct, so that it ends, and the tables on a way down what it makes are tables of such nodes.  In a
graph without cycles no child of the last node on a way stands above it, and what is made is what the
recursion without the guard makes. -/
theorem body?_guarded (e : Exporter) (main : Bool) {node : Node} (hnode : node ∈ e.graph.nodes) :
    (∀ places nodes, e.downTo main [node.id] node places = some nodes →
      (nodes.map (·.id)).Nodup ∧ nodes.length ≤ e.graph.nodes.length) ∧
    (∀ table, e.body? main node = .ok (some table) → ∀ places,
      Option.Rel (List.Forall₂ (e.HasTable main)) (e.downTo main [node.id] node places)
        (table.downTo places)) ∧
    ∀ h : e.graph.Acyclic,
      (∀ places nodes, e.downTo main [node.id] node places = some nodes →
        ∀ last ∈ nodes.getLast?, ∀ child ∈ e.graph.children last.id,
          child.id ∉ nodes.map (·.id)) ∧
      e.body? main node = e.plainBody? h main node := by
  refine ⟨fun places nodes hdown => length_le_of_downTo hnode hdown, fun table htable => ?_,
    fun h => ⟨fun places nodes hdown last hlast child hchild hmem => ?_, ?_⟩⟩
  · exact rel_downTo (body?_eq_some_iff.1 htable).2
  · obtain ⟨other, hother, hid⟩ := List.mem_map.1 hmem
    have hback := reach_of_downTo hdown last hlast other hother
    rw [hid] at hback
    exact h last.id (.head' (Graph.edge_of_mem_children hchild) hback)
  · have hpath : ∀ above ∈ [node.id], ReflTransGen e.graph.Edge above node.id :=
      List.forall_mem_singleton.2 .refl
    rw [body?, plainBody?, bodyOn_of_acyclic h hpath]

end Exporter

/-! ### A cycle, and a node that is shared -/

/-- Two sequences below each other, the first of them also below itself. -/
def loopedGraph : Graph where
  nodes := [Graph.freshNode 1 .sequence "" (clampPosition 0 0),
    Graph.freshNode 2 .sequence "" (clampPosition 0 0)]
  connections := [⟨1, 2, 0, "right", "left"⟩, ⟨2, 1, 0, "right", "left"⟩,
    ⟨1, 1, 1, "right", "left"⟩]
  nextId := 3

/-- A sequence above two fallbacks, which share an action. -/
def sharedGraph : Graph where
  nodes := [Graph.freshNode 1 .sequence "" (clampPosition 0 0),
    Graph.freshNode 2 .fallback "" (clampPosition 0 0),
    Graph.freshNode 3 .fallback "" (clampPosition 0 0),
    Graph.freshNode 4 .action "" (clampPosition 0 0)]
  connections := [⟨1, 2, 0, "right", "left"⟩, ⟨1, 3, 1, "right", "left"⟩,
    ⟨2, 4, 0, "right", "left"⟩, ⟨3, 4, 0, "right", "left"⟩]
  nextId := 5

theorem Exporter.body?_guarded_looped_shared :
    (Graph.freshNode 1 .sequence "" (clampPosition 0 0) ∈ loopedGraph.nodes ∧
      ∀ places nodes, (Exporter.ofGraph loopedGraph "").downTo true [1]
          (Graph.freshNode 1 .sequence "" (clampPosition 0 0)) places = some nodes →
        (nodes.map (·.id)).Nodup ∧ nodes.length ≤ 2) ∧
    Graph.freshNode 1 .sequence "" (clampPosition 0 0) ∈ sharedGraph.nodes ∧
      ∃ h : sharedGraph.Acyclic, (Exporter.ofGraph sharedGraph "").body? true
          (Graph.freshNode 1 .sequence "" (clampPosition 0 0)) =
        (Exporter.ofGraph sharedGraph "").plainBody? h true
          (Graph.freshNode 1 .sequence "" (clampPosition 0 0)) := by
  have hacyclic : sharedGraph.Acyclic := Graph.acyclic_of_lt (by decide)
  exact ⟨⟨List.mem_cons_self,
      (body?_guarded (Exporter.ofGraph loopedGraph "") true List.mem_cons_self).1⟩,
    List.mem_cons_self, hacyclic,
    ((body?_guarded (Exporter.ofGraph sharedGraph "") true List.mem_cons_self).2.2 hacyclic).2⟩

end BehaviorTree.Lua
