import BehaviorTree.Proofs.Document.OfGraph
import BehaviorTree.Proofs.Document.Parsed
import BehaviorTree.Proofs.Graph.Success

/-! # Texts that keep a graph

A text keeps a graph if it is the text of a document of the graph, or is read as such a document.
If the coordinates of the graph are finite, a text that keeps it is read, and the graph comes back
(`Keeps.exists_parse`); and whatever is read of such a text has the graph (`Keeps.toGraph`). -/

namespace BehaviorTree

open BehaviorTree.Graph BehaviorTree.Text

/-! ### Finite coordinates -/

/-- All coordinates of a graph are finite. -/
def Graph.Finite (g : Graph) : Prop :=
  ∀ node ∈ g.nodes, node.x.isFinite = true ∧ node.y.isFinite = true

theorem isFinite_unsignedZero (x : Float) : (unsignedZero x).isFinite = x.isFinite := by
  unfold unsignedZero
  split_ifs with h
  · rw [Decimal.isFinite_of_beq_zero h]
    decide
  · rfl

theorem Graph.finite_kept_iff {g : Graph} : g.kept.Finite ↔ g.Finite := by
  simp [Graph.Finite, Graph.kept, Node.plain, isFinite_unsignedZero]

theorem Document.finite_iff {d : Document} {g : Graph} (h : d.toGraph = .ok g) :
    d.Finite ↔ g.Finite := by
  obtain ⟨-, -, -, rfl⟩ := (build_eq_ok_iff _ _ _).1 h
  simp [Document.Finite, Graph.Finite, NodeEntry.node, isFinite_unsignedZero]

/-! ### Graphs under edit -/

/-- A graph that may be under edit: it is well-formed, and its integers can be written. -/
structure Graph.Editable (g : Graph) : Prop where
  wellFormed : g.WellFormed
  writable : g.Writable

namespace Graph.Editable

variable {g g' : Graph}

theorem empty : Graph.empty.Editable := ⟨.empty, .empty⟩

theorem apply (h : g.Editable) {operation : Operation} {outcome : Outcome}
    (ha : operation.apply g = (.ok outcome, g')) : g'.Editable := by
  refine ⟨?_, h.writable.apply h.wellFormed ha⟩
  have hw := h.wellFormed.apply operation
  rwa [ha] at hw

/-- The document of a graph under edit can be written. -/
theorem writable_ofGraph (h : g.Editable) {created modified : Timestamp} (hcreated : created.Valid)
    (hmodified : modified.Valid) : (Document.ofGraph g created modified).Writable where
  nodes := by
    intro entry hentry
    obtain ⟨node, hnode, rfl⟩ := List.mem_map.1 hentry
    exact h.writable.ids node hnode
  connections := by
    intro entry hentry
    obtain ⟨c, hc, rfl⟩ := List.mem_map.1 hentry
    obtain ⟨hsource, htarget⟩ := h.writable.ends h.wellFormed hc
    refine ⟨hsource, htarget, fun n hn => ?_⟩
    obtain rfl := Option.some.inj hn
    exact h.writable.order h.wellFormed hc
  created := fun t ht => Option.some.inj ht ▸ hcreated
  modified := fun t ht => Option.some.inj ht ▸ hmodified

/-- The graph of a document that was read may be under edit, if the number of its connections can
be written. -/
theorem of_toGraph {d : Document} (hd : d.Writable) (h : d.toGraph = .ok g)
    (hsize : isWritable g.connections.length = true) : g.Editable := by
  refine ⟨.of_build h, ?_, fun parent n hn => ?_⟩
  · obtain ⟨-, -, -, rfl⟩ := (build_eq_ok_iff _ _ _).1 h
    intro node hnode
    obtain ⟨entry, hentry, rfl⟩ := List.mem_map.1 hnode
    exact hd.nodes entry hentry
  · have hle : n ≤ g.connections.length := hn.le.trans List.countP_le_length
    exact isWritable_of_natAbs_le hsize hle

end Graph.Editable

/-! ### Texts -/

/-- A text that is written of a document of a graph, or read as one. -/
def Keeps (payload : String) (g : Graph) : Prop :=
  ∃ d : Document, d.Writable ∧ d.toGraph = .ok g.kept ∧
    (payload = d.render none ∨ Document.parse payload = .ok d)

namespace Keeps

variable {payload : String} {g : Graph} {d : Document}

/-- The text of a document of a graph keeps the graph. -/
theorem render (h : g.Editable) {created modified : Timestamp} (hcreated : created.Valid)
    (hmodified : modified.Valid) : Keeps ((Document.ofGraph g created modified).render none) g :=
  ⟨_, h.writable_ofGraph hcreated hmodified, toGraph_ofGraph h.wellFormed created modified,
    Or.inl rfl⟩

/-- A text keeps the graph that is read of it. -/
theorem of_parse (h : Document.parse payload = .ok d) (hg : d.toGraph = .ok g) : Keeps payload g :=
  ⟨d, (Document.writable_of_parse h).1, by rw [kept_of_toGraph hg, hg], Or.inr h⟩

/-- **A text that keeps a graph with finite coordinates is read, and the graph comes back.** -/
theorem exists_parse (h : Keeps payload g) (hfinite : g.Finite) :
    ∃ d, Document.parse payload = .ok d ∧ d.toGraph = .ok g.kept := by
  obtain ⟨d, hd, hg, rfl | hparse⟩ := h
  · have hdf : d.Finite := (Document.finite_iff hg).2 (finite_kept_iff.2 hfinite)
    exact ⟨d.reread, Document.parse_render hd hdf hg none, by rw [d.toGraph_reread, hg]⟩
  · exact ⟨d, hparse, hg⟩

/-- **What is read of a text that keeps a graph has the graph.** -/
theorem toGraph (h : Keeps payload g) (hparse : Document.parse payload = .ok d) :
    d.toGraph = .ok g.kept := by
  obtain ⟨d', hd', hg, rfl | hparse'⟩ := h
  · rw [Document.eq_reread_of_parse_render hd' hparse, d'.toGraph_reread, hg]
  · rw [hparse'] at hparse
    rw [← Except.ok.inj hparse, hg]

/-- What is read of a text that keeps a graph is written as a text that keeps it. -/
theorem render_of_parse (h : Keeps payload g) (hparse : Document.parse payload = .ok d) :
    Keeps (d.render none) g :=
  ⟨d, (Document.writable_of_parse hparse).1, h.toGraph hparse, Or.inl rfl⟩

/-- A graph has finite coordinates if a written text that keeps it is read. -/
theorem finite {d' : Document} (h : Keeps (d'.render none) g) (hd' : d'.Writable)
    (hparse : Document.parse (d'.render none) = .ok d) : g.Finite := by
  have hg := h.toGraph hparse
  rw [Document.eq_reread_of_parse_render hd' hparse, d'.toGraph_reread] at hg
  exact finite_kept_iff.1 ((Document.finite_iff hg).1 (Document.finite_of_parse_render hparse))

end Keeps
end BehaviorTree
