import BehaviorTree.Document.Basic
import BehaviorTree.Proofs.Document.RoundTrip
import BehaviorTree.Proofs.Graph.WellFormed

/-! # The document of a graph

The document of a well-formed graph has that graph, up to what a document does not keep: the sign of
a zero coordinate, and attachment points that are empty (`toGraph_ofGraph`).  The numbers of the
children are kept, because numbers from zero on are their own ranks (`rank_eq_order`). -/

namespace BehaviorTree

open BehaviorTree.Graph

/-! ### What a document keeps -/

/-- A node without the signs of zero coordinates. -/
def Node.plain (node : Node) : Node :=
  { node with x := unsignedZero node.x, y := unsignedZero node.y }

/-- A connection with the usual points in the place of empty ones. -/
def Connection.plain (c : Connection) : Connection :=
  { c with fromPoint := textOr "right" c.fromPoint, toPoint := textOr "left" c.toPoint }

theorem unsignedZero_unsignedZero (x : Float) : unsignedZero (unsignedZero x) = unsignedZero x := by
  by_cases h : (x == 0.0) = true
  · have hzero : unsignedZero x = 0.0 := if_pos h
    rw [hzero]
    decide
  · have hx : unsignedZero x = x := if_neg h
    rw [hx, hx]

theorem Node.plain_plain (node : Node) : node.plain.plain = node.plain := by
  simp only [plain, unsignedZero_unsignedZero]

theorem textOr_textOr (absent s : String) : textOr absent (textOr absent s) = textOr absent s := by
  unfold textOr
  split_ifs <;> rfl

theorem Connection.plain_plain (c : Connection) : c.plain.plain = c.plain := by
  simp only [plain, textOr_textOr]

theorem NodeEntry.plain_node (entry : NodeEntry) : entry.node.plain = entry.node := by
  simp only [NodeEntry.node, Node.plain, unsignedZero_unsignedZero]

theorem Node.node_entry (node : Node) : node.entry.node = node.plain := by
  have hparams : ∀ params : List Param, (params.map Param.entry).map ParamEntry.param = params := by
    intro params
    rw [List.map_map]
    exact List.map_id params
  have hfields : ∀ fields : List Field, (fields.map Field.entry).map FieldEntry.field = fields := by
    intro fields
    rw [List.map_map]
    exact List.map_id fields
  simp only [Node.entry, NodeEntry.node, Node.plain, Option.map_map, Function.comp_def, hparams,
    hfields, Option.map_id', Option.getD_some]

/-- The link of the entry of a connection. -/
def Connection.link (c : Connection) : Link :=
  ⟨c.source, c.target, some c.order, textOr "right" c.fromPoint, textOr "left" c.toPoint⟩

/-! ### Ranks of contiguous orders -/

theorem countP_range_lt {m k : ℕ} (h : m ≤ k) : (List.range k).countP (· < m) = m := by
  induction k with
  | zero =>
      obtain rfl := Nat.le_zero.1 h
      rfl
  | succ k ih =>
      rw [List.range_succ, List.countP_append, List.countP_singleton]
      rcases Nat.lt_or_eq_of_le h with hlt | rfl
      · rw [ih (Nat.lt_succ_iff.1 hlt)]
        simp [Nat.lt_succ_iff.1 hlt]
      · have hall : (List.range k).countP (· < k + 1) = (List.range k).length := by
          rw [List.countP_eq_length]
          intro n hn
          have := List.mem_range.1 hn
          exact decide_eq_true (by omega)
        rw [hall, List.length_range]
        simp

/-- Of contiguous orders so many are smaller than one of them as it says. -/
theorem Graph.Contiguous.countP_lt {cs : List Connection} {parent : ℤ} (h : Contiguous cs parent)
    {c : Connection} (hc : c ∈ siblings cs parent) :
    (siblings cs parent).countP (fun d => d.order < c.order) = c.order := by
  have hlt := h.lt hc
  have hcount := h.countP_eq fun n => decide (n < c.order)
  rw [List.countP_map, countP_range_lt hlt.le] at hcount
  exact hcount

/-- A connection with its order, as a link that declares the order. -/
def Connection.declared (c : Connection) : Link × ℤ := (c.link, c.order)

/-- **An order of contiguous ones is its own rank.** -/
theorem rank_eq_order {before after : List Connection} {c : Connection}
    (h : Contiguous (before ++ c :: after) c.source) :
    Link.rank (before.reverse.map Connection.declared) (after.map Connection.declared) c.declared =
      c.order := by
  have hnodup := h.nodup
  have hsiblings : siblings (before ++ c :: after) c.source =
      siblings before c.source ++ c :: siblings after c.source := by
    simp [siblings]
  have hc : c ∈ siblings (before ++ c :: after) c.source := by
    rw [hsiblings]
    simp
  have hcount := h.countP_lt hc
  rw [hsiblings, List.countP_append, List.countP_cons] at hcount
  rw [hsiblings, List.map_append, List.map_cons, List.nodup_append] at hnodup
  -- no sibling before has the order itself, so counting up to it is counting below it
  have hbefore : before.countP (fun d => d.source = c.source && d.order ≤ c.order) =
      (siblings before c.source).countP fun d => d.order < c.order := by
    rw [siblings, List.countP_filter]
    refine List.countP_congr fun d hd => ?_
    by_cases hs : d.source = c.source
    · have hmem : d.order ∈ (siblings before c.source).map (·.order) :=
        List.mem_map_of_mem (List.mem_filter.2 ⟨hd, decide_eq_true hs⟩)
      have hne := hnodup.2.2 d.order hmem c.order List.mem_cons_self
      simp only [hs, decide_true, Bool.true_and, Bool.and_true, decide_eq_true_eq]
      omega
    · simp [hs]
  have hafter : after.countP (fun d => d.source = c.source && d.order < c.order) =
      (siblings after c.source).countP fun d => d.order < c.order := by
    rw [siblings, List.countP_filter]
    exact List.countP_congr fun d _ => by rw [Bool.and_comm]
  have hrank : Link.rank (before.reverse.map Connection.declared)
      (after.map Connection.declared) c.declared =
        before.countP (fun d => d.source = c.source && d.order ≤ c.order) +
          after.countP fun d => d.source = c.source && d.order < c.order := by
    simp only [Link.rank, List.countP_map, List.countP_reverse]
    congr 1
    all_goals
      refine List.countP_congr fun d _ => ?_
      simp only [Function.comp_apply, Connection.declared, Connection.link, Bool.and_eq_true,
        decide_eq_true_eq, Nat.cast_le, Nat.cast_lt]
      exact and_congr_left' decide_eq_true_iff
  rw [hrank, hbefore, hafter]
  simpa using hcount

theorem ranked_declared (before after : List Connection)
    (h : ∀ parent, Contiguous (before ++ after) parent) :
    Link.ranked (before.reverse.map Connection.declared) (after.map Connection.declared) =
      after.map Connection.plain := by
  induction after generalizing before with
  | nil => rfl
  | cons c after ih =>
      have hrest := ih (before ++ [c]) (by simpa using h)
      rw [List.reverse_append, List.reverse_singleton, List.singleton_append, List.map_cons] at hrest
      rw [List.map_cons, List.map_cons, Link.ranked, hrest, rank_eq_order (h c.source)]
      rfl

theorem placed_links (earlier : List Link) (cs : List Connection) :
    Link.placed earlier (cs.map Connection.link) = cs.map Connection.declared := by
  induction cs generalizing earlier with
  | nil => rfl
  | cons c cs ih =>
      rw [List.map_cons, List.map_cons, Link.placed, ih]
      rfl

/-- The connections of the links of contiguous connections. -/
theorem connections_links {cs : List Connection} (h : ∀ parent, Contiguous cs parent) :
    Link.connections (cs.map Connection.link) = cs.map Connection.plain := by
  have hranked := ranked_declared [] cs h
  rw [Link.connections, placed_links]
  exact hranked

/-! ### Graphs and their documents -/

/-- The graph without what its document does not keep, with the next id of a graph that is read. -/
def Graph.kept (g : Graph) : Graph :=
  ⟨g.nodes.map Node.plain, g.connections.map Connection.plain, idAfter (g.nodes.map (·.id))⟩

/-- **The document of a well-formed graph has that graph**, up to what a document does not keep. -/
theorem toGraph_ofGraph {g : Graph} (h : g.WellFormed) (created modified : Timestamp) :
    (Document.ofGraph g created modified).toGraph = .ok g.kept := by
  have hnodes : (g.nodes.map Node.entry).map NodeEntry.node = g.nodes.map Node.plain := by
    rw [List.map_map]
    exact List.map_congr_left fun node _ => node.node_entry
  have hlinks : (g.connections.map Connection.entry).map LinkEntry.link =
      g.connections.map Connection.link := by
    rw [List.map_map]
    rfl
  have hids : (g.nodes.map Node.plain).map (·.id) = g.nodes.map (·.id) := by
    rw [List.map_map]
    rfl
  rw [Document.toGraph, Document.ofGraph, hnodes, hlinks, build_eq_ok_iff, hids]
  refine ⟨h.ids_nodup, ?_, ?_, ?_⟩
  · intro link hlink
    obtain ⟨c, hc, rfl⟩ := List.mem_map.1 hlink
    exact h.joined c hc
  · rw [List.map_map]
    exact h.edges_nodup
  · rw [connections_links h.contiguous]
    rfl

theorem plain_connection {links : List Link}
    (h : ∀ link ∈ links, textOr "right" link.fromPoint = link.fromPoint ∧
      textOr "left" link.toPoint = link.toPoint) {c : Connection}
    (hc : c ∈ Link.connections links) : c.plain = c := by
  obtain ⟨before, x, after, hplaced, rfl⟩ := Link.ranked_append_cons [] (Link.placed [] links) hc
  have hx : x.1 ∈ (Link.placed [] links).map Prod.fst := by
    rw [hplaced]
    simp
  rw [Link.map_fst_placed] at hx
  obtain ⟨hfrom, hto⟩ := h x.1 hx
  simp only [Connection.plain, Link.connection, hfrom, hto]

/-- A graph that is built of a document has nothing that a document does not keep. -/
theorem kept_of_toGraph {d : Document} {g : Graph} (h : d.toGraph = .ok g) : g.kept = g := by
  obtain ⟨-, -, -, rfl⟩ := (build_eq_ok_iff _ _ _).1 h
  have hnodes : (d.nodes.map NodeEntry.node).map Node.plain = d.nodes.map NodeEntry.node := by
    rw [List.map_map]
    exact List.map_congr_left fun entry _ => entry.plain_node
  have hconnections : (Link.connections (d.connections.map LinkEntry.link)).map Connection.plain =
      Link.connections (d.connections.map LinkEntry.link) := by
    refine (List.map_congr_left fun c hc => ?_).trans (List.map_id _)
    refine plain_connection (fun link hlink => ?_) hc
    obtain ⟨entry, -, rfl⟩ := List.mem_map.1 hlink
    exact ⟨textOr_textOr _ _, textOr_textOr _ _⟩
  rw [Graph.kept, hnodes, hconnections]

end BehaviorTree
