import BehaviorTree.Graph.Traversal
import Mathlib.Logic.Relation

/-! # Reachability

The traversal `preorder` lists exactly the ids that a path leads to from its stack without entering
what has been visited (`mem_preorder_iff`).  For a graph this makes `Graph.reaches` a decision of
`ReflTransGen` over the edges (`Graph.reaches_iff`), on graphs with cycles too.

A graph without cycles stays so when edges go, and when one comes whose end does not lead back to
its start (`Graph.Acyclic.insert`). -/

namespace BehaviorTree

open Relation (ReflTransGen TransGen)

/-! ### The traversal -/

section preorder

variable {next : Int → List Int} {sources : List Int}

/-- A step to a successor that is not among the visited ids. -/
def Fresh (next : Int → List Int) (visited : List Int) (a b : Int) : Prop :=
  b ∈ next a ∧ b ∉ visited

theorem Fresh.of_cons {visited : List Int} {a b id : Int} (h : Fresh next (id :: visited) a b) :
    Fresh next visited a b :=
  ⟨h.1, fun hb => h.2 (List.mem_cons_of_mem id hb)⟩

theorem preorder_visited {visited rest : List Int} {id : Int} (h : id ∈ visited) :
    preorder next sources (id :: rest) visited = preorder next sources rest visited := by
  rw [preorder, if_pos h]

/-- An id is listed when it is met first, whether or not it has successors. -/
theorem preorder_fresh (hs : ∀ a, a ∉ sources → next a = []) {visited rest : List Int} {id : Int}
    (h : id ∉ visited) :
    preorder next sources (id :: rest) visited =
      id :: preorder next sources (next id ++ rest) (id :: visited) := by
  rw [preorder, if_neg h]
  by_cases hid : id ∈ sources
  · rw [if_pos hid]
  · rw [if_neg hid, hs id hid, List.nil_append]

/-- A path that may pass through `id` reaches its end without `id`, or ends there, or goes on from
a successor of `id` without coming back. -/
theorem fresh_path_cons {visited : List Int} (id : Int) {s x : Int}
    (h : ReflTransGen (Fresh next visited) s x) :
    ReflTransGen (Fresh next (id :: visited)) s x ∨ x = id ∨
      ∃ t ∈ next id, t ∉ id :: visited ∧ ReflTransGen (Fresh next (id :: visited)) t x := by
  induction h with
  | refl => exact Or.inl .refl
  | @tail b c _ hbc ih =>
      by_cases hc : c = id
      · exact Or.inr (Or.inl hc)
      · have hnew : c ∉ id :: visited := by simp [hc, hbc.2]
        rcases ih with hs | rfl | ⟨t, ht, htv, htb⟩
        · exact Or.inl (hs.tail ⟨hbc.1, hnew⟩)
        · exact Or.inr (Or.inr ⟨c, hbc.1, hnew, .refl⟩)
        · exact Or.inr (Or.inr ⟨t, ht, htv, htb.tail ⟨hbc.1, hnew⟩⟩)

/-- A new id is listed, and the traversal goes on with its successors in front. -/
theorem mem_preorder_fresh (hs : ∀ a, a ∉ sources → next a = []) {visited rest : List Int}
    {id x : Int} (hid : id ∉ visited)
    (ih : x ∈ preorder next sources (next id ++ rest) (id :: visited) ↔
      ∃ s ∈ next id ++ rest, s ∉ id :: visited ∧
        ReflTransGen (Fresh next (id :: visited)) s x) :
    x ∈ preorder next sources (id :: rest) visited ↔
      ∃ s ∈ id :: rest, s ∉ visited ∧ ReflTransGen (Fresh next visited) s x := by
  rw [preorder_fresh hs hid, List.mem_cons, ih]
  constructor
  · rintro (rfl | ⟨s, hsn, hsv, hp⟩)
    · exact ⟨x, List.mem_cons_self, hid, .refl⟩
    · have hsv' : s ∉ visited := fun h => hsv (List.mem_cons_of_mem id h)
      have hp' := ReflTransGen.mono (fun _ _ => Fresh.of_cons) _ _ hp
      rcases List.mem_append.1 hsn with hsn | hsr
      · exact ⟨id, List.mem_cons_self, hid, hp'.head ⟨hsn, hsv'⟩⟩
      · exact ⟨s, List.mem_cons_of_mem id hsr, hsv', hp'⟩
  · rintro ⟨s, hsr, hsv, hp⟩
    rcases fresh_path_cons id hp with hp | rfl | ⟨t, ht, htv, htx⟩
    · by_cases hsid : s = id
      · subst hsid
        rcases hp.cases_head with rfl | ⟨t, ht, htx⟩
        · exact Or.inl rfl
        · exact Or.inr ⟨t, List.mem_append_left rest ht.1, ht.2, htx⟩
      · have hsr := (List.mem_cons.1 hsr).resolve_left hsid
        exact Or.inr ⟨s, List.mem_append_right _ hsr, by simp [hsid, hsv], hp⟩
    · exact Or.inl rfl
    · exact Or.inr ⟨t, List.mem_append_left rest ht, htv, htx⟩

/-- **What the traversal lists**: the ids on paths of unvisited ids from the stack. -/
theorem mem_preorder_iff (hs : ∀ a, a ∉ sources → next a = []) (stack visited : List Int)
    (x : Int) :
    x ∈ preorder next sources stack visited ↔
      ∃ s ∈ stack, s ∉ visited ∧ ReflTransGen (Fresh next visited) s x := by
  induction stack, visited using preorder.induct next sources with
  | case1 visited => simp [preorder]
  | case2 visited id rest hid ih =>
      rw [preorder_visited hid, ih]
      constructor
      · rintro ⟨s, hsr, hsv, hp⟩
        exact ⟨s, List.mem_cons_of_mem id hsr, hsv, hp⟩
      · rintro ⟨s, hsr, hsv, hp⟩
        rcases List.mem_cons.1 hsr with rfl | hsr
        · exact absurd hid hsv
        · exact ⟨s, hsr, hsv, hp⟩
  | case3 visited id rest hid hsrc ih => exact mem_preorder_fresh hs hid ih
  | case4 visited id rest hid hsrc ih =>
      refine mem_preorder_fresh hs hid ?_
      rw [hs id hsrc, List.nil_append]
      exact ih

theorem not_mem_visited_of_preorder (hs : ∀ a, a ∉ sources → next a = [])
    {stack visited : List Int} {x : Int} (h : x ∈ preorder next sources stack visited) :
    x ∉ visited := by
  obtain ⟨s, -, hsv, hp⟩ := (mem_preorder_iff hs stack visited x).1 h
  rcases hp.cases_tail with rfl | ⟨_, -, hlast⟩
  · exact hsv
  · exact hlast.2

/-- **The traversal comes to each id once.** -/
theorem nodup_preorder (hs : ∀ a, a ∉ sources → next a = []) (stack visited : List Int) :
    (preorder next sources stack visited).Nodup := by
  have hlisted : ∀ {stack visited : List Int} {id : Int},
      id ∉ preorder next sources stack (id :: visited) :=
    fun h => not_mem_visited_of_preorder hs h List.mem_cons_self
  induction stack, visited using preorder.induct next sources with
  | case1 visited => simp [preorder]
  | case2 visited id rest hid ih => rwa [preorder_visited hid]
  | case3 visited id rest hid hsrc ih =>
      rw [preorder_fresh hs hid]
      exact List.nodup_cons.2 ⟨hlisted, ih⟩
  | case4 visited id rest hid hsrc ih =>
      rw [preorder_fresh hs hid, hs id hsrc, List.nil_append]
      exact List.nodup_cons.2 ⟨hlisted, ih⟩

end preorder

/-! ### Paths of a graph -/

namespace Graph

/-- A connection leads from one id to another. -/
def Edge (g : Graph) (a b : Int) : Prop := ∃ c ∈ g.connections, c.source = a ∧ c.target = b

theorem mem_targets {g : Graph} {a b : Int} : b ∈ g.targets a ↔ g.Edge a b := by
  simp only [targets, List.mem_map, List.mem_filter, decide_eq_true_eq, Edge]
  exact ⟨fun ⟨c, ⟨hc, ha⟩, hb⟩ => ⟨c, hc, ha, hb⟩, fun ⟨c, hc, ha, hb⟩ => ⟨c, ⟨hc, ha⟩, hb⟩⟩

theorem edge_of_mem_children {g : Graph} {id : Int} {child : Node} (h : child ∈ g.children id) :
    g.Edge id child.id := by
  obtain ⟨c, hc, hfound⟩ := List.mem_filterMap.1 h
  obtain ⟨hc, hsource⟩ := mem_outgoing.1 hc
  exact ⟨c, hc, hsource, (mem_of_find? hfound).2.symm⟩

theorem targets_eq_nil {g : Graph} {a : Int} (h : a ∉ g.sources) : g.targets a = [] := by
  refine List.eq_nil_iff_forall_not_mem.2 fun b hb => h ?_
  obtain ⟨c, hc, rfl, -⟩ := mem_targets.1 hb
  exact List.mem_map_of_mem hc

/-- **Reachability test**: `reaches` holds exactly when a path of connections, perhaps empty, leads
from the one id to the other. -/
theorem reaches_iff (g : Graph) (a b : Int) : g.reaches a b = true ↔ ReflTransGen g.Edge a b := by
  have hstep : Fresh g.targets [] = g.Edge := by
    funext x y
    simp [Fresh, mem_targets]
  rw [reaches, decide_eq_true_eq, mem_preorder_iff fun _ => targets_eq_nil, hstep]
  simp

/-! ### Graphs without cycles -/

/-- No path of at least one connection leads from an id back to it. -/
def Acyclic (g : Graph) : Prop := ∀ id, ¬ TransGen g.Edge id id

theorem Acyclic.mono {g g' : Graph} (h : g.Acyclic) (hsub : ∀ a b, g'.Edge a b → g.Edge a b) :
    g'.Acyclic :=
  fun id hp => h id (TransGen.mono hsub _ _ hp)

/-- A path over the old edges and one new edge is a path over the old ones, or passes through the
new edge. -/
theorem path_insert {g g' : Graph} {a b x y : Int}
    (hsub : ∀ u v, g'.Edge u v → g.Edge u v ∨ (u = a ∧ v = b)) (h : TransGen g'.Edge x y) :
    TransGen g.Edge x y ∨ (ReflTransGen g.Edge x a ∧ ReflTransGen g.Edge b y) := by
  induction h with
  | single he =>
      rcases hsub _ _ he with he | ⟨rfl, rfl⟩
      · exact Or.inl (.single he)
      · exact Or.inr ⟨.refl, .refl⟩
  | tail _ he ih =>
      rcases hsub _ _ he with he | ⟨rfl, rfl⟩
      · rcases ih with hxy | ⟨hxa, hby⟩
        · exact Or.inl (hxy.tail he)
        · exact Or.inr ⟨hxa, hby.tail he⟩
      · rcases ih with hxa | ⟨hxa, -⟩
        · exact Or.inr ⟨hxa.to_reflTransGen, .refl⟩
        · exact Or.inr ⟨hxa, .refl⟩

/-- A new edge from `a` to `b` closes no cycle when no path leads from `b` to `a`. -/
theorem Acyclic.insert {g g' : Graph} {a b : Int} (h : g.Acyclic)
    (hsub : ∀ u v, g'.Edge u v → g.Edge u v ∨ (u = a ∧ v = b))
    (hback : ¬ ReflTransGen g.Edge b a) : g'.Acyclic := by
  intro id hp
  rcases path_insert hsub hp with hp | ⟨hia, hbi⟩
  · exact h id hp
  · exact hback (hbi.trans hia)

end Graph
end BehaviorTree
