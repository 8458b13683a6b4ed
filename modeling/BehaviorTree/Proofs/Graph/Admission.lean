import BehaviorTree.Graph.Connect
import BehaviorTree.Proofs.Graph.Reachability
import Mathlib.Tactic.SplitIfs

/-! # Accepted connections

A connection is accepted exactly when it `Admits` its ends: the conditions of the graph's rules,
said of nodes, edges and paths (`checkConnect_eq_none_iff_admits`). -/

namespace BehaviorTree

open Relation (ReflTransGen)

namespace Graph

/-- A connection comes out of a blackboard. -/
def FromBoard (g : Graph) (c : Connection) : Prop :=
  ∃ parent, g.find? c.source = some parent ∧ parent.kind = .blackboard

/-- The rules for a connection between two nodes of a graph. -/
structure Admits (g : Graph) (source target : Node) : Prop where
  ne : source.id ≠ target.id
  fresh : ¬ g.Edge source.id target.id
  single : source.kind.isSingleChild = true → g.childCount source.id = 0
  inner : source.kind.isLeaf = false
  placed : target.kind ≠ .subtree
  attachable : source.kind = .blackboard →
    ∀ c ∈ g.connections, c.target = target.id → g.FromBoard c
  noWayBack : ¬ ReflTransGen g.Edge target.id source.id

theorem any_edge_iff (g : Graph) (a b : Int) :
    (g.connections.any fun c => c.source = a && c.target = b) = true ↔ g.Edge a b := by
  simp [Edge]

theorem isAttachable_iff (g : Graph) (id : Int) :
    g.isAttachable id = true ↔ ∀ c ∈ g.connections, c.target = id → g.FromBoard c := by
  simp only [isAttachable, incoming, List.all_eq_true, List.mem_filter, decide_eq_true_eq,
    Option.any_eq_true, FromBoard, and_imp]

theorem refusal?_eq_none_iff (g : Graph) (source target : Node) :
    g.refusal? source target = none ↔ g.Admits source target := by
  have hedge := any_edge_iff g source.id target.id
  have hattach := isAttachable_iff g target.id
  have hreach := reaches_iff g target.id source.id
  constructor
  · intro h
    unfold refusal? at h
    split_ifs at h with h1 h2 h3 h4 h5 h6 h7
    refine ⟨h1, fun he => h2 (hedge.2 he), fun hs => ?_, by simpa using h4, h5, fun hb => ?_,
      fun hp => h7 (hreach.2 hp)⟩
    · simp only [hs, Bool.true_and, decide_eq_true_eq] at h3
      omega
    · simp only [hb, decide_true, Bool.true_and, Bool.not_eq_true', Bool.not_eq_false] at h6
      exact hattach.1 h6
  · intro h
    unfold refusal?
    rw [if_neg h.ne, if_neg fun he => h.fresh (hedge.1 he), if_neg, if_neg, if_neg h.placed, if_neg,
      if_neg fun hr => h.noWayBack (hreach.1 hr)]
    · intro hb
      simp only [Bool.and_eq_true, decide_eq_true_eq, Bool.not_eq_true'] at hb
      rw [hattach.2 (h.attachable hb.1)] at hb
      exact absurd hb.2 (by decide)
    · rw [h.inner]
      decide
    · intro hs
      simp only [Bool.and_eq_true, decide_eq_true_eq] at hs
      have := h.single hs.1
      omega

/-- **When a connection is accepted.** -/
theorem checkConnect_eq_none_iff_admits (g : Graph) (a b : Int) :
    g.checkConnect a b = none ↔
      ∃ source target, g.find? a = some source ∧ g.find? b = some target ∧
        g.Admits source target := by
  rw [checkConnect_eq_none_iff]
  simp only [refusal?_eq_none_iff]

/-- A node that may have children is connected to one that may have a parent, if no connection
leaves the first or touches the second. -/
theorem checkConnect_of_unjoined {g : Graph} {a b : Int} {source target : Node}
    (hs : g.find? a = some source) (ht : g.find? b = some target) (hne : a ≠ b)
    (hinner : source.kind.isLeaf = false) (hplaced : target.kind ≠ .subtree)
    (hsource : ∀ c ∈ g.connections, c.source ≠ a)
    (htarget : ∀ c ∈ g.connections, c.source ≠ b ∧ c.target ≠ b) :
    g.checkConnect a b = none := by
  refine (checkConnect_eq_none_iff_admits g a b).2 ⟨source, target, hs, ht, ?_⟩
  obtain rfl := (mem_of_find? hs).2
  obtain rfl := (mem_of_find? ht).2
  refine ⟨hne, ?_, ?_, hinner, hplaced, fun _ c hc hto => absurd hto (htarget c hc).2, ?_⟩
  · rintro ⟨c, hc, hfrom, -⟩
    exact hsource c hc hfrom
  · intro _
    exact List.countP_eq_zero.2 fun c hc => by simpa using hsource c hc
  · intro hback
    rcases hback.cases_head with hsame | ⟨_, ⟨c, hc, hfrom, -⟩, -⟩
    · exact hne hsame.symm
    · exact (htarget c hc).1 hfrom

end Graph
end BehaviorTree
