import BehaviorTree.Proofs.Graph.WellFormed
import Mathlib.Logic.Function.Basic

/-! # Child lists

A graph keeps one list of numbered connections, which is filtered, renumbered and moved about.  The
number of a connection is its place in the list of children of its source (`getElem?_byOrder`), so the
children of a parent are the targets of its connections by their order, and what happens to the
connections is easily said of these lists: a new connection adds a child at the end
(`orderedTargets_concat`), renumbering does not show (`orderedTargets_renumber`), a node that goes is
taken out of all lists (`orderedTargets_detach`), and an exchange swaps two items of one list
(`orderedTargets_exchange`). -/

namespace BehaviorTree

open BehaviorTree.Graph

/-- A list with the items at two places exchanged. -/
def exchanged {α : Type} (i j : ℕ) (items : List α) : List α :=
  match items[i]?, items[j]? with
  | some a, some b => (items.set i b).set j a
  | _, _ => items

example : exchanged 0 2 [7, 8, 9] = [9, 8, 7] := by decide

namespace Graph

/-! ### Children by their order -/

/-- The connections out of a parent, by their order. -/
def byOrder (cs : List Connection) (parent : ℤ) : List Connection :=
  sortByOrder (siblings cs parent)

/-- The targets of the connections out of a parent, by their order. -/
def orderedTargets (cs : List Connection) (parent : ℤ) : List ℤ :=
  (byOrder cs parent).map (·.target)

theorem pairwise_sortByOrder (cs : List Connection) :
    (sortByOrder cs).Pairwise fun c d => c.order ≤ d.order := by
  have hsorted : (sortByOrder cs).Pairwise fun c d => decide (c.order ≤ d.order) = true :=
    List.pairwise_mergeSort (fun a b c hab hbc => by simp only [decide_eq_true_eq] at *; omega)
      (fun a b => by simp only [Bool.or_eq_true, decide_eq_true_eq]; omega) cs
  exact hsorted.imp fun h => of_decide_eq_true h

/-- Connections with rising orders are what sorting makes of them in any sequence. -/
theorem sortByOrder_eq {cs ds : List Connection} (hperm : ds.Perm cs)
    (hlt : ds.Pairwise fun c d => c.order < d.order) : sortByOrder cs = ds := by
  have hnodup : (ds.map (·.order)).Nodup := List.pairwise_map.2 (hlt.imp fun h => Nat.ne_of_lt h)
  refine List.Perm.eq_of_pairwise (fun c d hc hd hcd hdc => ?_) (pairwise_sortByOrder cs)
    (hlt.imp fun h => Nat.le_of_lt h) ((sortByOrder_perm cs).trans hperm.symm)
  have hc : c ∈ ds := hperm.symm.subset ((sortByOrder_perm cs).subset hc)
  exact List.inj_on_of_nodup_map hnodup hc hd (Nat.le_antisymm hcd hdc)

theorem length_byOrder (cs : List Connection) (parent : ℤ) :
    (byOrder cs parent).length = (siblings cs parent).length :=
  (sortByOrder_perm _).length_eq

theorem mem_byOrder {cs : List Connection} {parent : ℤ} {c : Connection} :
    c ∈ byOrder cs parent ↔ c ∈ siblings cs parent :=
  (sortByOrder_perm _).mem_iff

section contiguous

variable {cs : List Connection} {parent : ℤ} (h : Contiguous cs parent)

include h

theorem map_order_byOrder :
    (byOrder cs parent).map (·.order) = List.range (siblings cs parent).length := by
  have hsorted : ((byOrder cs parent).map (·.order)).Pairwise (· ≤ ·) :=
    List.pairwise_map.2 (pairwise_sortByOrder _)
  have hrange : (List.range (siblings cs parent).length).Pairwise (· ≤ ·) :=
    List.pairwise_lt_range.imp fun h => Nat.le_of_lt h
  exact List.Perm.eq_of_pairwise (fun _ _ _ _ => Nat.le_antisymm) hsorted hrange
    (((sortByOrder_perm _).map _).trans h)

theorem pairwise_byOrder : (byOrder cs parent).Pairwise fun c d => c.order < d.order := by
  have hrange : ((byOrder cs parent).map (·.order)).Pairwise (· < ·) := by
    rw [map_order_byOrder h]
    exact List.pairwise_lt_range
  exact List.pairwise_map.1 hrange

/-- **The order of a connection is the place of its target** among the children of its source. -/
theorem getElem?_byOrder {k : ℕ} {c : Connection} :
    (byOrder cs parent)[k]? = some c ↔ c ∈ siblings cs parent ∧ c.order = k := by
  have horder : ∀ {m : ℕ} {d : Connection}, (byOrder cs parent)[m]? = some d → d.order = m := by
    intro m d hd
    have hm : ((byOrder cs parent).map (·.order))[m]? = some d.order := by
      rw [List.getElem?_map, hd]
      rfl
    rw [map_order_byOrder h] at hm
    obtain ⟨hlt, he⟩ := List.getElem?_eq_some_iff.1 hm
    rw [← he, List.getElem_range]
  constructor
  · intro hc
    exact ⟨mem_byOrder.1 (List.mem_of_getElem? hc), horder hc⟩
  · rintro ⟨hc, rfl⟩
    obtain ⟨m, hm⟩ := List.mem_iff_getElem?.1 (mem_byOrder.2 hc)
    rwa [horder hm]

end contiguous

/-! ### The steps of the connections -/

/-- A connection behind its siblings makes its target the last child. -/
theorem orderedTargets_concat {cs : List Connection} {c : Connection}
    (h : Contiguous cs c.source) (ho : c.order = (siblings cs c.source).length) :
    orderedTargets (cs ++ [c]) =
      Function.update (orderedTargets cs) c.source (orderedTargets cs c.source ++ [c.target]) := by
  funext parent
  by_cases hp : parent = c.source
  · subst hp
    have hc : siblings [c] c.source = [c] := siblings_of_all (by simp)
    have hsort : byOrder (cs ++ [c]) c.source = byOrder cs c.source ++ [c] := by
      rw [byOrder, siblings_append, hc]
      refine sortByOrder_eq ((sortByOrder_perm _).append_right [c]) ?_
      refine List.pairwise_append.2 ⟨pairwise_byOrder h, List.pairwise_singleton _ _, ?_⟩
      intro d hd e he
      rw [List.mem_singleton.1 he, ho]
      exact h.lt (mem_byOrder.1 hd)
    rw [Function.update_self, orderedTargets, hsort, List.map_append]
    rfl
  · have hc : siblings [c] parent = [] := siblings_of_none (by simpa using Ne.symm hp)
    rw [Function.update_of_ne hp, orderedTargets, byOrder, siblings_append, hc, List.append_nil]
    rfl

/-- Renumbering a parent does not show. -/
theorem orderedTargets_renumber (parent : ℤ) (cs : List Connection) :
    orderedTargets (renumber parent cs) = orderedTargets cs := by
  funext other
  by_cases ho : other = parent
  · subst ho
    have hrange : ((number (byOrder cs other)).map (·.order)).Pairwise (· < ·) := by
      rw [map_order_number]
      exact List.pairwise_lt_range
    have hsort : sortByOrder (number (byOrder cs other)) = number (byOrder cs other) :=
      sortByOrder_eq (.refl _) (List.pairwise_map.1 hrange)
    rw [orderedTargets, byOrder, siblings_renumber]
    change (sortByOrder (number (byOrder cs other))).map (·.target) = _
    rw [hsort, map_number fun _ _ => rfl]
    rfl
  · rw [orderedTargets, byOrder, siblings_renumber_of_ne ho]
    rfl

theorem orderedTargets_foldl_renumber (parents : List ℤ) (cs : List Connection) :
    orderedTargets (parents.foldl (fun cs parent => renumber parent cs) cs) =
      orderedTargets cs := by
  induction parents generalizing cs with
  | nil => rfl
  | cons parent parents ih => exact (ih _).trans (orderedTargets_renumber parent cs)

/-- Taking the connections of a node away takes the node out of all lists. -/
theorem orderedTargets_detach {cs : List Connection} (h : ∀ parent, Contiguous cs parent) (id : ℤ) :
    orderedTargets (detach cs id) = fun parent =>
      if parent = id then [] else (orderedTargets cs parent).filter (· ≠ id) := by
  funext parent
  have hfold : orderedTargets (detach cs id) parent = orderedTargets (apart cs id) parent :=
    congrFun (orderedTargets_foldl_renumber _ _) parent
  rw [hfold]
  split_ifs with hp
  · rw [hp, orderedTargets, byOrder, siblings_apart_self, sortByOrder, List.mergeSort_nil]
    rfl
  · have hsiblings : siblings (apart cs id) parent =
        (siblings cs parent).filter fun c => c.target ≠ id := by
      rw [siblings, siblings, apart, List.filter_filter, List.filter_filter]
      refine List.filter_congr fun c _ => ?_
      by_cases hs : c.source = parent
      · simp [hs, hp]
      · simp [hs]
    have hsort : byOrder (apart cs id) parent =
        (byOrder cs parent).filter fun c => c.target ≠ id := by
      rw [byOrder, hsiblings]
      exact sortByOrder_eq ((sortByOrder_perm _).filter _) ((pairwise_byOrder (h parent)).filter _)
    rw [orderedTargets, hsort, orderedTargets, List.filter_map]
    rfl

theorem getElem?_exchanged {α : Type} {items : List α} {i j : ℕ} (hi : i < items.length)
    (hj : j < items.length) (k : ℕ) : (exchanged i j items)[k]? = items[Equiv.swap i j k]? := by
  rw [exchanged, List.getElem?_eq_getElem hi, List.getElem?_eq_getElem hj, Equiv.swap_apply_def]
  dsimp only
  by_cases hki : k = i
  · subst hki
    rw [if_pos rfl, List.getElem?_eq_getElem hj, List.getElem?_set, List.length_set]
    split_ifs with h
    · subst h
      rfl
    · rw [List.getElem?_set_self hi]
  · rw [if_neg hki]
    by_cases hkj : k = j
    · subst hkj
      rw [if_pos rfl, List.getElem?_eq_getElem hi, List.getElem?_set_self (by simpa using hj)]
    · rw [if_neg hkj, List.getElem?_set_ne (Ne.symm hkj), List.getElem?_set_ne (Ne.symm hki)]

/-- Exchanging the orders of two places exchanges the children at these places. -/
theorem orderedTargets_exchange {cs : List Connection} (h : ∀ parent, Contiguous cs parent)
    {parent : ℤ} {i j : ℕ} (hi : i < (siblings cs parent).length)
    (hj : j < (siblings cs parent).length) :
    orderedTargets (gather parent (exchangeBelow parent i j cs)) =
      Function.update (orderedTargets cs) parent (exchanged i j (orderedTargets cs parent)) := by
  funext other
  by_cases ho : other = parent
  · subst ho
    rw [Function.update_self]
    have hlength : (orderedTargets cs other).length = (siblings cs other).length := by
      rw [orderedTargets, List.length_map, length_byOrder]
    have hafter := contiguous_exchange h hi hj other
    have hmem : ∀ c, c ∈ siblings (gather other (exchangeBelow other i j cs)) other ↔
        ∃ d ∈ siblings cs other, { d with order := exchange i j d.order } = c := by
      intro c
      rw [siblings_gather, (sortByOrder_perm _).mem_iff, siblings_exchangeBelow_self, List.mem_map]
    refine List.ext_getElem? fun k => ?_
    rw [getElem?_exchanged (by omega) (by omega), orderedTargets, orderedTargets, List.getElem?_map,
      List.getElem?_map]
    cases hk : (byOrder cs other)[Equiv.swap i j k]? with
    | some d =>
        -- the sibling at the other place has moved here
        obtain ⟨hd, ho⟩ := (getElem?_byOrder (h other)).1 hk
        have hmoved : exchange i j d.order = k := by
          rw [exchange_eq_swap, ho, Equiv.swap_apply_self]
        rw [(getElem?_byOrder hafter).2 ⟨(hmem _).2 ⟨d, hd, rfl⟩, hmoved⟩]
        rfl
    | none =>
        rw [Option.map_none, Option.map_eq_none_iff, Option.eq_none_iff_forall_ne_some]
        intro c hc
        obtain ⟨hc, hck⟩ := (getElem?_byOrder hafter).1 hc
        obtain ⟨d, hd, rfl⟩ := (hmem c).1 hc
        have hplace : d.order = Equiv.swap i j k := by
          rw [← hck, exchange_eq_swap, Equiv.swap_apply_self]
        rw [(getElem?_byOrder (h other)).2 ⟨hd, hplace⟩] at hk
        cases hk
  · rw [Function.update_of_ne ho, orderedTargets, byOrder, siblings_gather_of_ne ho,
      siblings_exchangeBelow_of_ne ho]
    rfl

/-- The children of a node are the ends of its connections. -/
theorem childIds_eq {g : Graph} (h : g.WellFormed) :
    g.childIds = orderedTargets g.connections := by
  funext parent
  have hfind : ∀ c ∈ g.outgoing parent, (g.find? c.target).map (·.id) = some c.target := by
    intro c hc
    obtain ⟨-, htarget⟩ := h.joined c (mem_outgoing.1 hc).1
    obtain ⟨node, hnode, hid⟩ := List.mem_map.1 htarget
    rw [← hid, h.find?_of_mem hnode]
    rfl
  rw [childIds, children, List.map_filterMap, List.filterMap_congr hfind, List.filterMap_eq_map']
  rfl

end Graph
end BehaviorTree
