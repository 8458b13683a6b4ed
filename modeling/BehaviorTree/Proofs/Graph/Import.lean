import BehaviorTree.Graph.Record
import BehaviorTree.Proofs.Graph.Numbering
import BehaviorTree.Proofs.Success

/-! # Imported graphs

A document may declare any orders for its links.  The place of a link among its siblings counts the
links that come before it, by the declared order first and the position second; two siblings never
get one place (`rank_ne`), so the imported orders are contiguous (`contiguous_connections`).

A graph is built exactly when no id and no link repeats and every link joins two listed nodes
(`build_eq_ok_iff`).  Its next id lies above all of them (`lt_idAfter`). -/

namespace BehaviorTree

open BehaviorTree.Graph

namespace Link

/-! ### Places among siblings -/

/-- The ids that a link joins. -/
def ends (link : Link) : Int × Int := (link.source, link.target)

theorem ranked_append_cons (earlier links : List (Link × Int)) {c : Connection}
    (h : c ∈ ranked earlier links) :
    ∃ before x after, links = before ++ x :: after ∧
      c = x.1.connection (rank (before.reverse ++ earlier) after x) := by
  induction links generalizing earlier with
  | nil => exact absurd h List.not_mem_nil
  | cons link rest ih =>
      rcases List.mem_cons.1 h with rfl | h
      · exact ⟨[], link, rest, rfl, rfl⟩
      · obtain ⟨before, x, after, rfl, rfl⟩ := ih (link :: earlier) h
        refine ⟨link :: before, x, after, rfl, ?_⟩
        rw [List.reverse_cons, List.append_assoc]
        rfl

/-- Of two siblings the one with the smaller declared order, or the earlier one of two with equal
orders, has more links behind it: all that come before it also come before the other. -/
theorem rank_ne (earlier before after : List (Link × Int)) {x y : Link × Int}
    (hs : x.1.source = y.1.source) :
    rank earlier (before ++ y :: after) x ≠ rank (before.reverse ++ x :: earlier) after y := by
  simp only [rank, hs, List.countP_append, List.countP_cons, List.countP_reverse]
  by_cases hlt : y.2 < x.2
  · have hE : earlier.countP (fun o => o.1.source = y.1.source && o.2 ≤ y.2) ≤
        earlier.countP (fun o => o.1.source = y.1.source && o.2 ≤ x.2) :=
      List.countP_mono_left fun o _ => by simp; omega
    have hB : before.countP (fun o => o.1.source = y.1.source && o.2 ≤ y.2) ≤
        before.countP (fun o => o.1.source = y.1.source && o.2 < x.2) :=
      List.countP_mono_left fun o _ => by simp; omega
    have hA : after.countP (fun o => o.1.source = y.1.source && o.2 < y.2) ≤
        after.countP (fun o => o.1.source = y.1.source && o.2 < x.2) :=
      List.countP_mono_left fun o _ => by simp; omega
    simp [hlt, Int.not_le.2 hlt]
    omega
  · have hge : x.2 ≤ y.2 := Int.not_lt.1 hlt
    have hE : earlier.countP (fun o => o.1.source = y.1.source && o.2 ≤ x.2) ≤
        earlier.countP (fun o => o.1.source = y.1.source && o.2 ≤ y.2) :=
      List.countP_mono_left fun o _ => by simp; omega
    have hB : before.countP (fun o => o.1.source = y.1.source && o.2 < x.2) ≤
        before.countP (fun o => o.1.source = y.1.source && o.2 ≤ y.2) :=
      List.countP_mono_left fun o _ => by simp; omega
    have hA : after.countP (fun o => o.1.source = y.1.source && o.2 < x.2) ≤
        after.countP (fun o => o.1.source = y.1.source && o.2 < y.2) :=
      List.countP_mono_left fun o _ => by simp; omega
    simp [hge, hlt]
    omega

theorem pairwise_ranked (earlier links : List (Link × Int)) :
    (ranked earlier links).Pairwise fun c d => c.source = d.source → c.order ≠ d.order := by
  induction links generalizing earlier with
  | nil => exact .nil
  | cons x rest ih =>
      refine List.Pairwise.cons (fun d hd => ?_) (ih (x :: earlier))
      obtain ⟨before, y, after, rfl, rfl⟩ := ranked_append_cons (x :: earlier) rest hd
      exact rank_ne earlier before after

/-- A link does not come before itself. -/
theorem rank_lt (before after : List (Link × Int)) (x : Link × Int) :
    rank before.reverse after x <
      (before ++ x :: after).countP fun o => o.1.source = x.1.source := by
  have hB : before.countP (fun o => o.1.source = x.1.source && o.2 ≤ x.2) ≤
      before.countP fun o => o.1.source = x.1.source :=
    List.countP_mono_left fun o _ => by simp; omega
  have hA : after.countP (fun o => o.1.source = x.1.source && o.2 < x.2) ≤
      after.countP fun o => o.1.source = x.1.source :=
    List.countP_mono_left fun o _ => by simp; omega
  simp only [rank, List.countP_append, List.countP_cons, List.countP_reverse]
  simp
  omega

theorem map_ends_ranked (earlier links : List (Link × Int)) :
    (ranked earlier links).map Connection.ends = links.map fun x => x.1.ends := by
  induction links generalizing earlier with
  | nil => rfl
  | cons x rest ih =>
      simp only [ranked, List.map_cons, ih]
      rfl

theorem map_fst_placed (earlier links : List Link) :
    (placed earlier links).map Prod.fst = links := by
  induction links generalizing earlier with
  | nil => rfl
  | cons link rest ih => simp [placed, ih]

/-- The connections of links join the same ids, in the same list order. -/
theorem map_ends_connections (links : List Link) :
    (connections links).map Connection.ends = links.map ends := by
  rw [connections, map_ends_ranked]
  conv_rhs => rw [← map_fst_placed [] links, List.map_map]
  rfl

theorem length_siblings_ranked (earlier links : List (Link × Int)) (parent : Int) :
    (siblings (ranked earlier links) parent).length =
      links.countP fun o => o.1.source = parent := by
  induction links generalizing earlier with
  | nil => rfl
  | cons x rest ih =>
      have hx : (x.1.connection (rank earlier rest x)).source = x.1.source := rfl
      simp only [siblings] at ih
      by_cases hs : x.1.source = parent <;> simp [ranked, siblings, hx, hs, ih]

/-- **Imported orders**: whatever orders a document declares, the children of each parent are
numbered from zero on, each number once. -/
theorem contiguous_connections (links : List Link) (parent : Int) :
    Contiguous (connections links) parent := by
  have hlen := length_siblings_ranked [] (placed [] links) parent
  have hnodup : ((siblings (connections links) parent).map (·.order)).Nodup := by
    refine List.pairwise_map.2 (List.Pairwise.imp_of_mem (fun {c d} hc hd h => ?_)
      ((pairwise_ranked [] (placed [] links)).filter _))
    have hcs := of_decide_eq_true (List.mem_filter.1 hc).2
    have hds := of_decide_eq_true (List.mem_filter.1 hd).2
    exact h (hcs.trans hds.symm)
  have hlt : ∀ n ∈ (siblings (connections links) parent).map (·.order),
      n < ((siblings (connections links) parent).map (·.order)).length := by
    intro n hn
    obtain ⟨c, hc, rfl⟩ := List.mem_map.1 hn
    obtain ⟨hc, hs⟩ := List.mem_filter.1 hc
    obtain ⟨before, x, after, he, rfl⟩ := ranked_append_cons [] (placed [] links) hc
    rw [List.append_nil] at hs ⊢
    have hx : x.1.source = parent := of_decide_eq_true hs
    rw [List.length_map, connections, hlen, he, ← hx]
    exact rank_lt before after x
  have := perm_range_of_nodup hnodup hlt
  rwa [List.length_map] at this

end Link

namespace Graph

/-! ### Accepted documents -/

theorem repeatedId?_eq_none_iff (seen ids : List Int) :
    repeatedId? seen ids = none ↔ ids.Nodup ∧ ∀ id ∈ ids, id ∉ seen := by
  induction ids generalizing seen with
  | nil => simp [repeatedId?]
  | cons id rest ih =>
      by_cases hid : id ∈ seen
      · simp [repeatedId?, hid]
      · simp only [repeatedId?, hid, if_false, ih, List.nodup_cons, List.mem_cons, not_or]
        constructor
        · rintro ⟨hn, hrest⟩
          refine ⟨⟨fun hm => (hrest id hm).1 rfl, hn⟩, ?_⟩
          rintro a (rfl | ha)
          · exact hid
          · exact (hrest a ha).2
        · rintro ⟨⟨hm, hn⟩, hall⟩
          exact ⟨hn, fun a ha => ⟨fun e => hm (e ▸ ha), hall a (Or.inr ha)⟩⟩

theorem linkFailure?_eq_none_iff (ids : List Int) (seen : List (Int × Int)) (links : List Link) :
    linkFailure? ids seen links = none ↔
      (∀ link ∈ links, link.source ∈ ids ∧ link.target ∈ ids) ∧
        (links.map Link.ends).Nodup ∧ ∀ link ∈ links, link.ends ∉ seen := by
  induction links generalizing seen with
  | nil => simp [linkFailure?]
  | cons link rest ih =>
      by_cases hd : link.source ∉ ids ∨ link.target ∉ ids
      · simp only [linkFailure?, hd, if_true, reduceCtorEq, false_iff]
        rintro ⟨hall, -⟩
        have := hall link List.mem_cons_self
        rcases hd with hd | hd
        · exact hd this.1
        · exact hd this.2
      · have hjoin : link.source ∈ ids ∧ link.target ∈ ids := by
          rwa [not_or, not_not, not_not] at hd
        by_cases hs : link.ends ∈ seen
        · have hs' : (link.source, link.target) ∈ seen := hs
          simp only [linkFailure?, if_neg hd, if_pos hs', reduceCtorEq, false_iff]
          exact fun h => h.2.2 link List.mem_cons_self hs
        · have hs' : (link.source, link.target) ∉ seen := hs
          simp only [linkFailure?, if_neg hd, if_neg hs', ih, List.forall_mem_cons, List.map_cons,
            List.nodup_cons]
          constructor
          · rintro ⟨hall, hn, hrest⟩
            refine ⟨⟨hjoin, hall⟩, ⟨fun hm => ?_, hn⟩, hs, fun l hl hm => ?_⟩
            · obtain ⟨l, hl, he⟩ := List.mem_map.1 hm
              exact hrest l hl (he ▸ List.mem_cons_self)
            · exact hrest l hl (List.mem_cons_of_mem _ hm)
          · rintro ⟨⟨-, hall⟩, ⟨hm, hn⟩, -, hrest⟩
            refine ⟨hall, hn, fun l hl he => ?_⟩
            rcases List.mem_cons.1 he with he | he
            · exact hm (List.mem_map.2 ⟨l, hl, he⟩)
            · exact hrest l hl he

/-- **When a graph is built**: no id repeats, every link joins two of the nodes, and no two links
join the same ids. -/
theorem build_eq_ok_iff (nodes : List Node) (links : List Link) (g : Graph) :
    build nodes links = .ok g ↔
      (nodes.map (·.id)).Nodup ∧
        (∀ link ∈ links, link.source ∈ nodes.map (·.id) ∧ link.target ∈ nodes.map (·.id)) ∧
        (links.map Link.ends).Nodup ∧
        g = ⟨nodes, Link.connections links, idAfter (nodes.map (·.id))⟩ := by
  have hids := repeatedId?_eq_none_iff [] (nodes.map (·.id))
  have hlinks := linkFailure?_eq_none_iff (nodes.map (·.id)) [] links
  simp only [List.not_mem_nil, not_false_eq_true, implies_true, and_true] at hids hlinks
  unfold build
  dsimp only
  split
  · rename_i id h
    simp only [reduceCtorEq, false_iff]
    rintro ⟨hn, -⟩
    rw [hids.2 hn] at h
    cases h
  · rename_i h
    split
    · rename_i failure hf
      simp only [reduceCtorEq, false_iff]
      rintro ⟨-, hall, hn, -⟩
      rw [hlinks.2 ⟨hall, hn⟩] at hf
      cases hf
    · rename_i hf
      obtain ⟨hall, hn⟩ := hlinks.1 hf
      constructor
      · intro he
        exact ⟨hids.1 h, hall, hn, (Except.ok.inj he).symm⟩
      · rintro ⟨-, -, -, rfl⟩
        rfl

theorem le_foldl_max (ids : List Int) (start : Int) :
    start ≤ ids.foldl max start ∧ ∀ id ∈ ids, id ≤ ids.foldl max start := by
  induction ids generalizing start with
  | nil => simp
  | cons a rest ih =>
      obtain ⟨hstart, hrest⟩ := ih (max start a)
      simp only [List.foldl_cons, List.forall_mem_cons]
      exact ⟨by omega, by omega, hrest⟩

/-- The next id after a document lies above all ids in it. -/
theorem lt_idAfter {ids : List Int} {id : Int} (h : id ∈ ids) : id < idAfter ids := by
  cases ids with
  | nil => exact absurd h List.not_mem_nil
  | cons a rest =>
      have hmax := le_foldl_max rest a
      simp only [idAfter]
      rcases List.mem_cons.1 h with rfl | h
      · omega
      · have := hmax.2 id h
        omega

/-- A document is read by building a graph from its nodes and links. -/
theorem exists_build_of_ofJson {value : Json} {g : Graph} (h : ofJson value = .ok g) :
    ∃ nodes links, build nodes links = .ok g := by
  unfold ofJson at h
  split at h
  · obtain ⟨nodes, -, h⟩ := bind_eq_ok_iff.1 h
    obtain ⟨links, -, h⟩ := bind_eq_ok_iff.1 h
    exact ⟨nodes, links, mapError_eq_ok_iff.1 h⟩
  · cases h

end Graph
end BehaviorTree
