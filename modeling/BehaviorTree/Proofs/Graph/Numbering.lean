import BehaviorTree.Graph.Connect
import Mathlib.Data.List.Nodup
import Mathlib.Data.List.Perm.Basic
import Mathlib.Data.List.Perm.Subperm
import Mathlib.Data.List.Range
import Mathlib.Logic.Equiv.Basic

/-! # Numbers of siblings

The orders of the connections out of a parent are `Contiguous` when they are the numbers from zero
on, each once.  Renumbering a parent makes its orders contiguous and leaves those of the others
alone; it moves connections but keeps their ends.  So `detach` leaves all orders contiguous
(`contiguous_detach`), in whichever sequence the parents are renumbered
(`contiguous_foldl_renumber`).  Exchanging two places permutes the orders of one parent
(`contiguous_exchange`). -/

namespace BehaviorTree

/-- The ids that a connection joins. -/
def Connection.ends (c : Connection) : Int × Int := (c.source, c.target)

namespace Graph

/-- The connections out of a parent, in list order. -/
def siblings (connections : List Connection) (parent : Int) : List Connection :=
  connections.filter fun c => c.source = parent

/-- The orders of the connections out of a parent are the numbers from zero on, each once. -/
def Contiguous (connections : List Connection) (parent : Int) : Prop :=
  ((siblings connections parent).map (·.order)).Perm
    (List.range (siblings connections parent).length)

theorem siblings_append (cs ds : List Connection) (parent : Int) :
    siblings (cs ++ ds) parent = siblings cs parent ++ siblings ds parent :=
  List.filter_append ..

theorem length_siblings (g : Graph) (parent : Int) :
    (siblings g.connections parent).length = g.childCount parent :=
  List.countP_eq_length_filter.symm

theorem perm_range_of_nodup {ns : List ℕ} (hn : ns.Nodup) (hlt : ∀ n ∈ ns, n < ns.length) :
    ns.Perm (List.range ns.length) := by
  have hsub : ns ⊆ List.range ns.length := fun n h => List.mem_range.2 (hlt n h)
  exact (hn.subperm hsub).perm_of_length_le (by simp)

theorem Contiguous.lt {cs : List Connection} {parent : Int} (h : Contiguous cs parent)
    {c : Connection} (hc : c ∈ siblings cs parent) : c.order < (siblings cs parent).length :=
  List.mem_range.1 (h.subset (List.mem_map_of_mem hc))

theorem Contiguous.nodup {cs : List Connection} {parent : Int} (h : Contiguous cs parent) :
    ((siblings cs parent).map (·.order)).Nodup :=
  h.nodup_iff.2 List.nodup_range

theorem Contiguous.congr {cs ds : List Connection} {parent : Int}
    (he : siblings ds parent = siblings cs parent) (h : Contiguous cs parent) :
    Contiguous ds parent := by
  unfold Contiguous
  rw [he]
  exact h

theorem contiguous_of_siblings_nil {cs : List Connection} {parent : Int}
    (h : siblings cs parent = []) : Contiguous cs parent := by
  unfold Contiguous
  rw [h]
  exact .refl _

/-! ### Sorting and numbering -/

theorem sortByOrder_perm (cs : List Connection) : (sortByOrder cs).Perm cs :=
  List.mergeSort_perm ..

/-- Connections that stand in their order need no sorting. -/
theorem children_of_ordered {g : Graph} {id : Int}
    (h : (siblings g.connections id).Pairwise fun a b => a.order ≤ b.order) :
    g.children id = (siblings g.connections id).filterMap fun c => g.find? c.target := by
  rw [children, outgoing, sortByOrder, ← siblings,
    List.mergeSort_of_pairwise (h.imp fun hle => by simpa using hle)]

theorem map_order_number (cs : List Connection) :
    (number cs).map (·.order) = List.range cs.length := by
  rw [number, List.map_map, List.range_eq_range']
  exact List.zipIdx_map_snd 0 cs

/-- What does not depend on the orders of connections. -/
def IgnoresOrder {α : Type} (f : Connection → α) : Prop :=
  ∀ (c : Connection) (n : ℕ), f { c with order := n } = f c

theorem ignoresOrder_ends : IgnoresOrder Connection.ends := fun _ _ => rfl

theorem map_number {α : Type} {f : Connection → α} (hf : IgnoresOrder f) (cs : List Connection) :
    (number cs).map f = cs.map f := by
  have hcomp : (number cs).map f = (cs.zipIdx.map Prod.fst).map f := by
    rw [number, List.map_map, List.map_map]
    exact List.map_congr_left fun x _ => hf x.1 x.2
  rw [hcomp, List.zipIdx_map_fst]

theorem map_ends_number (cs : List Connection) :
    (number cs).map Connection.ends = cs.map Connection.ends :=
  map_number ignoresOrder_ends cs

theorem length_number (cs : List Connection) : (number cs).length = cs.length := by
  simp [number]

/-- Whatever only depends on the source holds of numbered connections as before. -/
theorem source_of_mem_number {cs : List Connection} {parent : Int}
    (h : ∀ c ∈ cs, c.source = parent) {c : Connection} (hc : c ∈ number cs) :
    c.source = parent := by
  have hmem : c.ends ∈ cs.map Connection.ends := by
    rw [← map_ends_number]
    exact List.mem_map_of_mem hc
  obtain ⟨d, hd, he⟩ := List.mem_map.1 hmem
  rw [← h d hd]
  exact (congrArg Prod.fst he).symm

/-! ### Renumbering -/

theorem source_of_mem_siblings {cs : List Connection} {parent : Int} {c : Connection}
    (hc : c ∈ sortByOrder (siblings cs parent)) : c.source = parent := by
  have := (sortByOrder_perm _).subset hc
  exact of_decide_eq_true (List.mem_filter.1 this).2

theorem siblings_others (cs : List Connection) (parent : Int) :
    siblings (cs.filter fun c => c.source ≠ parent) parent = [] := by
  rw [siblings, List.filter_filter]
  exact List.filter_eq_nil_iff.2 fun c _ => by simp

theorem siblings_others_ne (cs : List Connection) {parent other : Int} (h : other ≠ parent) :
    siblings (cs.filter fun c => c.source ≠ parent) other = siblings cs other := by
  rw [siblings, List.filter_filter]
  refine List.filter_congr fun c _ => ?_
  by_cases hc : c.source = other
  · simp [hc, h]
  · simp [hc]

theorem siblings_of_all {cs : List Connection} {parent : Int} (h : ∀ c ∈ cs, c.source = parent) :
    siblings cs parent = cs :=
  List.filter_eq_self.2 fun c hc => by simp [h c hc]

theorem siblings_of_none {cs : List Connection} {parent : Int}
    (h : ∀ c ∈ cs, c.source ≠ parent) : siblings cs parent = [] :=
  List.filter_eq_nil_iff.2 fun c hc => by simp [h c hc]

theorem children_of_none {g : Graph} {id : Int} (h : ∀ c ∈ g.connections, c.source ≠ id) :
    g.children id = [] := by
  rw [children_of_ordered (by rw [siblings_of_none h]; exact .nil), siblings_of_none h]
  rfl

theorem siblings_renumber (parent : Int) (cs : List Connection) :
    siblings (renumber parent cs) parent = number (sortByOrder (siblings cs parent)) := by
  have hall : ∀ c ∈ number (sortByOrder (siblings cs parent)), c.source = parent :=
    fun c hc => source_of_mem_number (fun d hd => source_of_mem_siblings hd) hc
  rw [renumber, siblings_append, siblings_others, List.nil_append]
  exact siblings_of_all hall

theorem siblings_renumber_of_ne {parent other : Int} (h : other ≠ parent)
    (cs : List Connection) : siblings (renumber parent cs) other = siblings cs other := by
  have hnone : ∀ c ∈ number (sortByOrder (siblings cs parent)), c.source ≠ other :=
    fun c hc => by
      rw [source_of_mem_number (fun d hd => source_of_mem_siblings hd) hc]
      exact h.symm
  rw [renumber, siblings_append, siblings_others_ne cs h]
  change _ ++ siblings (number (sortByOrder (siblings cs parent))) other = _
  rw [siblings_of_none hnone, List.append_nil]

theorem contiguous_renumber (parent : Int) (cs : List Connection) :
    Contiguous (renumber parent cs) parent := by
  unfold Contiguous
  rw [siblings_renumber, map_order_number, length_number]

theorem map_renumber_perm {α : Type} {f : Connection → α} (hf : IgnoresOrder f) (parent : Int)
    (cs : List Connection) : ((renumber parent cs).map f).Perm (cs.map f) := by
  have hown : ((number (sortByOrder (siblings cs parent))).map f).Perm
      ((siblings cs parent).map f) := by
    rw [map_number hf]
    exact (sortByOrder_perm _).map _
  have hsplit : ((cs.filter fun c => c.source ≠ parent) ++ siblings cs parent).Perm cs := by
    have := List.filter_append_perm (fun c : Connection => decide (c.source ≠ parent)) cs
    simpa [siblings] using this
  have hparts := (hown.append_left ((cs.filter fun c => c.source ≠ parent).map f))
  rw [← List.map_append, ← List.map_append] at hparts
  exact hparts.trans (hsplit.map _)

theorem map_foldl_renumber_perm {α : Type} {f : Connection → α} (hf : IgnoresOrder f)
    (parents : List Int) (cs : List Connection) :
    ((parents.foldl (fun cs parent => renumber parent cs) cs).map f).Perm (cs.map f) := by
  induction parents generalizing cs with
  | nil => exact .refl _
  | cons parent parents ih =>
      exact (ih (renumber parent cs)).trans (map_renumber_perm hf parent cs)

/-- Renumbering parents one after the other, in any sequence, closes the gaps below each of them
and touches no other. -/
theorem contiguous_foldl_renumber (parents : List Int) (cs : List Connection)
    (h : ∀ q, q ∉ parents → Contiguous cs q) (q : Int) :
    Contiguous (parents.foldl (fun cs parent => renumber parent cs) cs) q := by
  induction parents generalizing cs with
  | nil => exact h q List.not_mem_nil
  | cons parent parents ih =>
      refine ih (renumber parent cs) fun p hp => ?_
      by_cases he : p = parent
      · subst he
        exact contiguous_renumber p cs
      · have hcs : Contiguous cs p := h p fun hm => (List.mem_cons.1 hm).elim he hp
        exact hcs.congr (siblings_renumber_of_ne he cs)

/-! ### Removing the connections of a node -/

theorem mem_parentIds {cs : List Connection} {id parent : Int} :
    parent ∈ parentIds cs id ↔ ∃ c ∈ cs, c.target = id ∧ c.source = parent := by
  simp only [parentIds, List.mem_eraseDups, List.mem_mergeSort, List.mem_map, List.mem_filter,
    decide_eq_true_eq]
  exact ⟨fun ⟨c, ⟨hc, ht⟩, hs⟩ => ⟨c, hc, ht, hs⟩, fun ⟨c, hc, ht, hs⟩ => ⟨c, ⟨hc, ht⟩, hs⟩⟩

/-- The connections that do not touch a node. -/
def apart (cs : List Connection) (id : Int) : List Connection :=
  cs.filter fun c => c.source ≠ id && c.target ≠ id

theorem mem_apart {cs : List Connection} {id : Int} {c : Connection} :
    c ∈ apart cs id ↔ c ∈ cs ∧ c.source ≠ id ∧ c.target ≠ id := by
  simp [apart]

theorem siblings_apart_self (cs : List Connection) (id : Int) : siblings (apart cs id) id = [] :=
  siblings_of_none fun _ hc => (mem_apart.1 hc).2.1

/-- A parent that is no parent of the node loses no child. -/
theorem siblings_apart {cs : List Connection} {id parent : Int} (hne : parent ≠ id)
    (h : parent ∉ parentIds cs id) : siblings (apart cs id) parent = siblings cs parent := by
  rw [siblings, apart, List.filter_filter]
  refine List.filter_congr fun c hc => ?_
  by_cases hs : c.source = parent
  · have ht : c.target ≠ id := fun ht => h (mem_parentIds.2 ⟨c, hc, ht, hs⟩)
    simp [hs, hne, ht]
  · simp [hs]

theorem map_detach_perm {α : Type} {f : Connection → α} (hf : IgnoresOrder f)
    (cs : List Connection) (id : Int) : ((detach cs id).map f).Perm ((apart cs id).map f) :=
  map_foldl_renumber_perm hf _ _

theorem ends_detach (cs : List Connection) (id : Int) :
    ((detach cs id).map Connection.ends).Perm ((apart cs id).map Connection.ends) :=
  map_detach_perm ignoresOrder_ends cs id

theorem contiguous_detach {cs : List Connection} (h : ∀ q, Contiguous cs q) (id q : Int) :
    Contiguous (detach cs id) q := by
  refine contiguous_foldl_renumber _ _ (fun p hp => ?_) q
  by_cases he : p = id
  · subst he
    exact contiguous_of_siblings_nil (siblings_apart_self cs p)
  · exact (h p).congr (siblings_apart he hp)

/-! ### Exchanging two places -/

/-- The connections with the orders of two places below a parent exchanged. -/
def exchangeBelow (parent a b : Int) (cs : List Connection) : List Connection :=
  cs.map fun c => if c.source = parent then { c with order := exchange a b c.order } else c

theorem exchange_eq_swap (i j n : ℕ) : exchange i j n = Equiv.swap i j n := by
  rw [exchange, Equiv.swap_apply_def]
  split_ifs <;> omega

theorem exchange_lt {i j n k : ℕ} (hi : i < k) (hj : j < k) (hn : n < k) :
    exchange i j n < k := by
  unfold exchange
  split_ifs <;> omega

theorem map_exchangeBelow {α : Type} {f : Connection → α} (hf : IgnoresOrder f) (parent a b : Int)
    (cs : List Connection) : (exchangeBelow parent a b cs).map f = cs.map f := by
  rw [exchangeBelow, List.map_map]
  refine List.map_congr_left fun c _ => ?_
  rw [Function.comp_apply]
  split_ifs
  · exact hf c _
  · rfl

theorem map_ends_exchangeBelow (parent a b : Int) (cs : List Connection) :
    (exchangeBelow parent a b cs).map Connection.ends = cs.map Connection.ends :=
  map_exchangeBelow ignoresOrder_ends parent a b cs

theorem siblings_exchangeBelow_of_ne {parent other : Int} (h : other ≠ parent) (a b : Int)
    (cs : List Connection) : siblings (exchangeBelow parent a b cs) other = siblings cs other := by
  induction cs with
  | nil => rfl
  | cons c cs ih =>
      simp only [exchangeBelow, siblings, List.map_cons, List.filter_cons] at ih ⊢
      rw [ih]
      by_cases hc : c.source = parent
      · simp [hc, Ne.symm h]
      · simp [hc]

theorem siblings_exchangeBelow_self (parent a b : Int) (cs : List Connection) :
    siblings (exchangeBelow parent a b cs) parent =
      (siblings cs parent).map fun c => { c with order := exchange a b c.order } := by
  induction cs with
  | nil => rfl
  | cons c cs ih =>
      simp only [exchangeBelow, siblings, List.map_cons, List.filter_cons] at ih ⊢
      by_cases hc : c.source = parent <;> simp [hc, ih]

theorem siblings_exchangeBelow (parent a b : Int) (cs : List Connection) :
    (siblings (exchangeBelow parent a b cs) parent).map (·.order) =
      ((siblings cs parent).map (·.order)).map (exchange a b) := by
  rw [siblings_exchangeBelow_self, List.map_map, List.map_map]
  rfl

theorem siblings_gather (parent : Int) (cs : List Connection) :
    siblings (gather parent cs) parent = sortByOrder (siblings cs parent) := by
  rw [gather, siblings_append, siblings_others, List.nil_append]
  exact siblings_of_all fun c hc => source_of_mem_siblings hc

theorem siblings_gather_of_ne {parent other : Int} (h : other ≠ parent) (cs : List Connection) :
    siblings (gather parent cs) other = siblings cs other := by
  have hnone : ∀ c ∈ sortByOrder (siblings cs parent), c.source ≠ other := fun c hc => by
    rw [source_of_mem_siblings hc]
    exact h.symm
  rw [gather, siblings_append, siblings_others_ne cs h]
  change _ ++ siblings (sortByOrder (siblings cs parent)) other = _
  rw [siblings_of_none hnone, List.append_nil]

theorem gather_perm (parent : Int) (cs : List Connection) : (gather parent cs).Perm cs := by
  have hsplit := List.filter_append_perm (fun c : Connection => decide (c.source ≠ parent)) cs
  have hown := sortByOrder_perm (siblings cs parent)
  refine (hown.append_left _).trans ?_
  simpa [siblings] using hsplit

/-- Exchanging two places below a parent keeps all orders contiguous. -/
theorem contiguous_exchange {cs : List Connection} (h : ∀ q, Contiguous cs q) {parent : Int}
    {i j : ℕ} (hi : i < (siblings cs parent).length) (hj : j < (siblings cs parent).length)
    (q : Int) : Contiguous (gather parent (exchangeBelow parent i j cs)) q := by
  by_cases hq : q = parent
  · subst hq
    have horders := siblings_exchangeBelow q i j cs
    have hlen : (siblings (exchangeBelow q i j cs) q).length = (siblings cs q).length := by
      simpa using congrArg List.length horders
    have hnodup : ((siblings (exchangeBelow q i j cs) q).map (·.order)).Nodup := by
      rw [horders]
      refine (h q).nodup.map fun m n hmn => ?_
      rw [exchange_eq_swap, exchange_eq_swap] at hmn
      exact (Equiv.swap i j).injective hmn
    have hlt : ∀ n ∈ (siblings (exchangeBelow q i j cs) q).map (·.order),
        n < ((siblings (exchangeBelow q i j cs) q).map (·.order)).length := by
      intro n hn
      rw [horders] at hn
      obtain ⟨m, hm, rfl⟩ := List.mem_map.1 hn
      obtain ⟨c, hc, rfl⟩ := List.mem_map.1 hm
      rw [List.length_map, hlen]
      exact exchange_lt hi hj ((h q).lt hc)
    have hperm := perm_range_of_nodup hnodup hlt
    unfold Contiguous
    rw [siblings_gather, (sortByOrder_perm _).length_eq]
    rw [List.length_map] at hperm
    exact ((sortByOrder_perm _).map _).trans hperm
  · refine (h q).congr ?_
    rw [siblings_gather_of_ne hq, siblings_exchangeBelow_of_ne hq]

end Graph
end BehaviorTree
