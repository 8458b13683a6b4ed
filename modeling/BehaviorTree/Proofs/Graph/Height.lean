import BehaviorTree.Proofs.Graph.WellFormed
import Mathlib.Data.Finset.Max

/-! # Heights

In a graph without cycles each connection leads down: from its target a path leads to fewer of the
ids that connections leave than from its source (`Acyclic.height_lt`).  So what goes along
connections ends, and the highest node is a root (`WellFormed.exists_mem_roots`). -/

namespace BehaviorTree.Graph

open Relation (ReflTransGen TransGen)

variable {g : Graph}

/-- How many ids that connections leave a path leads to from an id, perhaps an empty one. -/
def height (g : Graph) (id : Int) : ℕ :=
  {source ∈ g.sources.toFinset | g.reaches id source = true}.card

theorem mem_sources_of_edge {a b : Int} (h : g.Edge a b) : a ∈ g.sources := by
  obtain ⟨c, hc, rfl, -⟩ := h
  exact List.mem_map_of_mem hc

/-- **Connections lead down**: the source of a connection is one of the ids that it reaches itself,
and its target reaches fewer. -/
theorem Acyclic.height_lt (h : g.Acyclic) {a b : Int} (he : g.Edge a b) :
    g.height b < g.height a := by
  refine Finset.card_lt_card ((Finset.ssubset_iff_of_subset fun id hid => ?_).2 ⟨a, ?_, ?_⟩)
  · obtain ⟨hsource, hreach⟩ := Finset.mem_filter.1 hid
    rw [reaches_iff] at hreach
    exact Finset.mem_filter.2 ⟨hsource, (reaches_iff g a id).2 (.head he hreach)⟩
  · have hsource := List.mem_toFinset.2 (mem_sources_of_edge he)
    exact Finset.mem_filter.2 ⟨hsource, (reaches_iff g a a).2 .refl⟩
  · intro hback
    have hreach := (reaches_iff g b a).1 (Finset.mem_filter.1 hback).2
    exact h a (.head' he hreach)

/-- There are no cycles where all connections lead to greater ids. -/
theorem acyclic_of_lt (h : ∀ c ∈ g.connections, c.source < c.target) : g.Acyclic := by
  intro id hcycle
  have hlt : ∀ {a b}, TransGen g.Edge a b → a < b := by
    intro a b hpath
    induction hpath with
    | single hedge =>
        obtain ⟨c, hc, rfl, rfl⟩ := hedge
        exact h c hc
    | tail _ hedge ih =>
        obtain ⟨c, hc, rfl, rfl⟩ := hedge
        exact ih.trans (h c hc)
  exact lt_irrefl id (hlt hcycle)

/-- **A graph without cycles has a root**, if it has a node at all: the highest one. -/
theorem WellFormed.exists_mem_roots (hw : g.WellFormed) (h : g.Acyclic) (hne : g.nodes ≠ []) :
    ∃ root, root ∈ g.roots := by
  obtain ⟨root, hroot, hmax⟩ := g.nodes.toFinset.exists_max_image (fun node => g.height node.id)
    (List.toFinset_nonempty_iff g.nodes |>.2 hne)
  rw [List.mem_toFinset] at hroot
  refine ⟨root, List.mem_filter.2 ⟨hroot, ?_⟩⟩
  rw [Bool.not_eq_true', ← Bool.not_eq_true]
  intro hparent
  obtain ⟨c, hc, htarget⟩ := List.any_eq_true.1 hparent
  obtain ⟨parent, hmem, hid⟩ := List.mem_map.1 (hw.joined c hc).1
  have hlt : g.height root.id < g.height parent.id :=
    h.height_lt ⟨c, hc, hid.symm, of_decide_eq_true htarget⟩
  exact absurd (hmax parent (List.mem_toFinset.2 hmem)) (by omega)

end BehaviorTree.Graph
