import BehaviorTree.Proofs.Graph.ChildLists
import BehaviorTree.Proofs.Graph.Import

/-! # Imported orders

A document may give any orders to the links out of a parent, and leave some of them out; what is left
out is the place of the link among them (`Link.declared`).  A graph is built by counting for each
link the siblings that come before it.  That is its place when the links are sorted stably by their
orders (`Link.arranged`): in a sorted list as many items come before an item as its place tells
(`zipIdx_eq_map_countP`), and how many these are does not depend on the sequence of the list.  So the
connections out of a parent, by their orders, are the links out of it as sorting arranges them
(`byOrder_connections`). -/

namespace BehaviorTree

open BehaviorTree.Graph

/-! ### Counting what comes before -/

/-- **The place of an item in a sorted list** is the number of items that come before it. -/
theorem zipIdx_eq_map_countP {α : Type} {r : α → α → Prop} [DecidableRel r] {items : List α}
    (hsorted : items.Pairwise r) (hasymm : ∀ a b, r a b → ¬ r b a) :
    items.zipIdx = items.map fun a => (a, items.countP fun b => r b a) := by
  induction items with
  | nil => rfl
  | cons a rest ih =>
      obtain ⟨hfirst, hrest⟩ := List.pairwise_cons.1 hsorted
      have hnone : rest.countP (fun b => r b a) = 0 :=
        List.countP_eq_zero.2 fun b hb => by simpa using hasymm a b (hfirst b hb)
      have hself : ¬ r a a := fun h => hasymm a a h h
      rw [List.zipIdx_cons', ih hrest, List.map_map, List.map_cons, List.countP_cons, hnone,
        if_neg (by simpa using hself)]
      refine congrArg _ (List.map_congr_left fun b hb => ?_)
      rw [List.countP_cons, if_pos (by simpa using hfirst b hb)]
      rfl

/-- What is asked of the items of a list may be asked of them together with their places. -/
theorem countP_zipIdx {α : Type} {p : α → Bool} {q : α × ℕ → Bool} {items : List α} {start : ℕ}
    (h : ∀ x ∈ items.zipIdx start, q x = p x.1) : (items.zipIdx start).countP q = items.countP p := by
  conv_rhs => rw [← List.zipIdx_map_fst start items, List.countP_map]
  exact List.countP_congr fun x hx => by rw [h x hx]; rfl

namespace Link

variable {parent : ℤ}

/-- One link comes before another, by the orders first and the places in the document second. -/
def Before (x y : (Link × ℤ) × ℕ) : Prop := x.1.2 < y.1.2 ∨ x.1.2 = y.1.2 ∧ x.2 < y.2

instance : DecidableRel Before :=
  fun x y => inferInstanceAs (Decidable (x.1.2 < y.1.2 ∨ x.1.2 = y.1.2 ∧ x.2 < y.2))

theorem Before.asymm {x y : (Link × ℤ) × ℕ} (h : Before x y) : ¬ Before y x := by
  unfold Before at *
  omega

/-- **The rank of a link counts what comes before it** among links with one source. -/
theorem ranked_eq_map_countP (earlier links : List (Link × ℤ))
    (h : ∀ x ∈ earlier.reverse ++ links, x.1.source = parent) :
    ranked earlier links = (links.zipIdx earlier.length).map fun x =>
      x.1.1.connection ((earlier.reverse ++ links).zipIdx.countP fun y => Before y x) := by
  induction links generalizing earlier with
  | nil => rfl
  | cons link rest ih =>
      have hsplit : (link :: earlier).reverse ++ rest = earlier.reverse ++ link :: rest := by simp
      have hsource : ∀ x ∈ earlier.reverse ++ link :: rest, x.1.source = link.1.source :=
        fun x hx => (h x hx).trans (h link (by simp)).symm
      have hearlier : (earlier.reverse.zipIdx).countP (fun y => Before y (link, earlier.length)) =
          earlier.countP fun other => other.1.source = link.1.source && other.2 ≤ link.2 := by
        refine (countP_zipIdx fun x hx => ?_).trans List.countP_reverse
        have hplace := List.snd_lt_of_mem_zipIdx hx
        rw [List.length_reverse] at hplace
        have hx := hsource x.1 (List.mem_append_left _ (List.fst_mem_of_mem_zipIdx hx))
        simp only [hx, decide_true, Bool.true_and, decide_eq_decide]
        simp only [Before]
        omega
      have hrest : (rest.zipIdx (earlier.length + 1)).countP
          (fun y => Before y (link, earlier.length)) =
          rest.countP fun other => other.1.source = link.1.source && other.2 < link.2 := by
        refine countP_zipIdx fun x hx => ?_
        have hplace := List.le_snd_of_mem_zipIdx hx
        have hx := hsource x.1 (by simp [List.fst_mem_of_mem_zipIdx hx])
        simp only [hx, decide_true, Bool.true_and, decide_eq_decide]
        simp only [Before]
        omega
      have hrank : (earlier.reverse ++ link :: rest).zipIdx.countP
          (fun y => Before y (link, earlier.length)) = rank earlier rest link := by
        have hself : ¬ Before (link, earlier.length) (link, earlier.length) := by
          unfold Before
          omega
        rw [List.zipIdx_append, List.zipIdx_cons, List.countP_append, List.countP_cons, hearlier,
          List.length_reverse, Nat.zero_add, hrest, if_neg (by simpa using hself)]
        rfl
      rw [ranked, List.zipIdx_cons, List.map_cons, hrank, ih (link :: earlier) (hsplit ▸ h), hsplit]
      rfl

/-- The order that declared orders are sorted by. -/
def orderLE (x y : Link × ℤ) : Bool := x.2 ≤ y.2

theorem pairwise_before (links : List (Link × ℤ)) :
    (links.zipIdx.mergeSort (List.zipIdxLE orderLE)).Pairwise Before := by
  have htrans : ∀ x y z : Link × ℤ, orderLE x y = true → orderLE y z = true → orderLE x z = true :=
    fun x y z => by simp only [orderLE, decide_eq_true_eq]; omega
  have htotal : ∀ x y : Link × ℤ, (orderLE x y || orderLE y x) = true := fun x y => by
    simp only [orderLE, Bool.or_eq_true, decide_eq_true_eq]
    omega
  have hle := List.pairwise_mergeSort (List.zipIdxLE_trans htrans) (List.zipIdxLE_total htotal)
    links.zipIdx
  have hplaces : ((links.zipIdx.mergeSort (List.zipIdxLE orderLE)).map Prod.snd).Nodup :=
    ((List.mergeSort_perm _ _).map _).nodup_iff.2 (by
      rw [List.zipIdx_map_snd]
      exact List.nodup_range')
  refine hle.imp₂ (fun x y hle hne => ?_) (List.pairwise_map.1 hplaces)
  simp only [List.zipIdxLE, orderLE, decide_eq_true_eq] at hle
  unfold Before
  split_ifs at hle with hxy hyx
  · have := of_decide_eq_true hle
    omega
  · omega

/-- **Sorting stably** puts links with one source where their ranks tell. -/
theorem sortByOrder_ranked {links : List (Link × ℤ)} (h : ∀ x ∈ links, x.1.source = parent) :
    sortByOrder (ranked [] links) =
      (links.mergeSort orderLE).zipIdx.map fun x => x.1.1.connection x.2 := by
  have hperm := List.mergeSort_perm links.zipIdx (List.zipIdxLE orderLE)
  have hplaced : (links.mergeSort orderLE).zipIdx.map (fun x => x.1.1.connection x.2) =
      (links.zipIdx.mergeSort (List.zipIdxLE orderLE)).map fun x =>
        x.1.1.connection (links.zipIdx.countP fun y => Before y x) := by
    rw [← List.mergeSort_zipIdx, List.zipIdx_map,
      zipIdx_eq_map_countP (pairwise_before links) fun _ _ => Before.asymm, List.map_map,
      List.map_map]
    exact List.map_congr_left fun x _ => by rw [← hperm.countP_eq]; rfl
  have hranked : ranked [] links = links.zipIdx.map fun x =>
      x.1.1.connection (links.zipIdx.countP fun y => Before y x) :=
    ranked_eq_map_countP [] links h
  refine sortByOrder_eq ?_ ?_
  · rw [hplaced, hranked]
    exact hperm.map _
  · have hrange : ((links.mergeSort orderLE).zipIdx.map Prod.snd).Pairwise (· < ·) := by
      rw [List.zipIdx_map_snd]
      exact List.pairwise_lt_range'
    exact List.pairwise_map.2 ((List.pairwise_map.1 hrange).imp fun h => h)

/-! ### The links out of a parent -/

/-- The links out of a parent, with the orders that a document gives them.  A missing order is the
place of the link among them. -/
def declared (links : List Link) (parent : ℤ) : List (Link × ℤ) :=
  (links.filter fun link => link.source = parent).zipIdx.map fun x =>
    (x.1, x.1.order.getD x.2)

/-- The links out of a parent, sorted stably by these orders. -/
def arranged (links : List Link) (parent : ℤ) : List Link :=
  ((declared links parent).mergeSort orderLE).map Prod.fst

/-- Only siblings count for a rank. -/
theorem rank_filter (earlier later : List (Link × ℤ)) (link : Link × ℤ) :
    rank (earlier.filter fun other => other.1.source = link.1.source)
      (later.filter fun other => other.1.source = link.1.source) link =
      rank earlier later link := by
  unfold rank
  rw [List.countP_filter, List.countP_filter]
  congr 1
  · refine List.countP_congr fun other _ => ?_
    simp only [Bool.and_eq_true, decide_eq_true_eq]
    tauto
  · refine List.countP_congr fun other _ => ?_
    simp only [Bool.and_eq_true, decide_eq_true_eq]
    tauto

theorem siblings_ranked (earlier links : List (Link × ℤ)) (parent : ℤ) :
    siblings (ranked earlier links) parent =
      ranked (earlier.filter fun other => other.1.source = parent)
        (links.filter fun other => other.1.source = parent) := by
  induction links generalizing earlier with
  | nil => rfl
  | cons link rest ih =>
      have hsource : (link.1.connection (rank earlier rest link)).source = link.1.source := rfl
      have hrest := ih (link :: earlier)
      rw [siblings] at hrest ⊢
      by_cases hparent : link.1.source = parent
      · subst hparent
        rw [ranked, List.filter_cons_of_pos (by simp [hsource]), hrest,
          List.filter_cons_of_pos (by simp), List.filter_cons_of_pos (by simp), ranked, rank_filter]
      · rw [ranked, List.filter_cons_of_neg (by simpa [hsource] using hparent), hrest,
          List.filter_cons_of_neg (by simpa using hparent),
          List.filter_cons_of_neg (by simpa using hparent)]

theorem filter_placed (earlier links : List Link) (parent : ℤ) :
    (placed earlier links).filter (fun other => other.1.source = parent) =
      ((links.filter fun link => link.source = parent).zipIdx
        (earlier.countP fun link => link.source = parent)).map fun x =>
          (x.1, x.1.order.getD x.2) := by
  induction links generalizing earlier with
  | nil => rfl
  | cons link rest ih =>
      rw [placed]
      by_cases hparent : link.source = parent
      · subst hparent
        rw [List.filter_cons_of_pos (by simp), ih, List.filter_cons_of_pos (by simp),
          List.zipIdx_cons, List.countP_cons_of_pos (by simp)]
        rfl
      · rw [List.filter_cons_of_neg (by simpa using hparent), ih,
          List.filter_cons_of_neg (by simpa using hparent),
          List.countP_cons_of_neg (by simpa using hparent)]

/-- **The connections out of a parent** are the links out of it, arranged and numbered. -/
theorem byOrder_connections (links : List Link) (parent : ℤ) :
    byOrder (connections links) parent =
      (arranged links parent).mapIdx fun place link => link.connection place := by
  have hdeclared : (placed [] links).filter (fun other => other.1.source = parent) =
      declared links parent := filter_placed [] links parent
  have hsource : ∀ x ∈ declared links parent, x.1.source = parent := by
    rw [← hdeclared]
    exact fun x hx => of_decide_eq_true (List.mem_filter.1 hx).2
  rw [byOrder, connections, siblings_ranked, hdeclared, List.filter_nil, sortByOrder_ranked hsource,
    arranged, List.mapIdx_eq_zipIdx_map, List.zipIdx_map, List.map_map]
  rfl

end Link
end BehaviorTree
