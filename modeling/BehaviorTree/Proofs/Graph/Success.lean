import BehaviorTree.Proofs.Graph.TreeShape
import BehaviorTree.Proofs.Text.Digits

/-! # Operations that succeed

An operation that succeeds without a change leaves the graph as it is (`eq_of_unchanged`).  One that
succeeds has logged the numbers that it brought into the graph, so these are short enough to be
written, and with them all ids and orders of a graph stay so (`Writable.apply`). -/

namespace BehaviorTree.Graph

open BehaviorTree.Text

variable {g g' : Graph}

/-- A call that succeeds has been carried out, and its numbers have been logged. -/
theorem apply_eq_ok_iff {operation : Operation} {outcome : Outcome} :
    operation.apply g = (.ok outcome, g') ↔ operation.carryOut g = (.ok outcome, g') ∧
      ∀ n ∈ operation.logged g outcome, isWritable n = true := by
  have hlog : ∀ o, operation.log g o = .ok outcome ↔
      o = outcome ∧ ∀ n ∈ operation.logged g outcome, isWritable n = true := by
    intro o
    unfold Operation.log
    split_ifs with hall
    · rw [Except.ok.injEq]
      refine ⟨?_, fun h => h.1⟩
      rintro rfl
      exact ⟨rfl, List.all_eq_true.1 hall⟩
    · refine ⟨nofun, ?_⟩
      rintro ⟨rfl, hn⟩
      exact absurd (List.all_eq_true.2 hn) hall
  have happly : operation.apply g =
      ((operation.carryOut g).1 >>= operation.log g, (operation.carryOut g).2) := rfl
  rw [happly, Prod.ext_iff, Prod.ext_iff, bind_eq_ok_iff]
  constructor
  · rintro ⟨⟨o, hanswer, ho⟩, hg⟩
    obtain ⟨rfl, hn⟩ := (hlog o).1 ho
    exact ⟨⟨hanswer, hg⟩, hn⟩
  · rintro ⟨⟨hanswer, hg⟩, hn⟩
    exact ⟨⟨outcome, hanswer, (hlog outcome).2 ⟨rfl, hn⟩⟩, hg⟩

/-- What a call answers is the outcome, unless the log entry fails. -/
theorem apply_of_carryOut {operation : Operation} {outcome : Outcome}
    (h : operation.carryOut g = (.ok outcome, g')) : (operation.apply g).2 = g' ∧
      ∀ other, (operation.apply g).1 = .ok other → other = outcome := by
  refine ⟨congrArg Prod.snd h, fun other hother => ?_⟩
  obtain ⟨hanswer, -⟩ := apply_eq_ok_iff.1 (Prod.ext hother rfl)
  exact (Except.ok.inj (Prod.mk.inj (h.symm.trans hanswer)).1).symm

/-! ### Operations without a change -/

theorem attempt_eq_ok {α : Type} {wrap : α → Outcome} {result : Except Fault (α × Graph)}
    {outcome : Outcome} (h : (Operation.attempt g wrap result).1 = .ok outcome) :
    ∃ a, result = .ok (a, (Operation.attempt g wrap result).2) ∧ wrap a = outcome := by
  cases result with
  | error fault => cases h
  | ok answer => exact ⟨answer.1, rfl, Except.ok.inj h⟩

theorem answer_eq_ok {α : Type} {wrap : α → Outcome} {edited : Graph.Edited α} {outcome : Outcome}
    (h : (Operation.answer wrap edited).1 = .ok outcome) : ∃ a, wrap a = outcome := by
  obtain ⟨answer, g'⟩ := edited
  cases answer with
  | error fault => cases h
  | ok a => exact ⟨a, Except.ok.inj h⟩

/-- Nothing is detached from a node that no connection touches. -/
theorem detach_of_countP_eq_zero {cs : List Connection} {id : Int}
    (h : cs.countP (fun c => c.source = id || c.target = id) = 0) : detach cs id = cs := by
  have hnone : ∀ c ∈ cs, c.source ≠ id ∧ c.target ≠ id := by
    intro c hc
    have := List.countP_eq_zero.1 h c hc
    simpa using this
  have hparents : parentIds cs id = [] := by
    refine List.eq_nil_iff_forall_not_mem.2 fun parent hparent => ?_
    obtain ⟨c, hc, ht, -⟩ := mem_parentIds.1 hparent
    exact (hnone c hc).2 ht
  rw [detach, hparents, List.foldl_nil]
  exact List.filter_eq_self.2 fun c hc => by simpa using hnone c hc

/-- **An operation that succeeds without a change leaves the graph as it is.** -/
theorem eq_of_unchanged {operation : Operation} {outcome : Outcome}
    (h : operation.apply g = (.ok outcome, g')) (hsame : outcome.changesGraph = false) : g' = g := by
  obtain ⟨hcarried, -⟩ := apply_eq_ok_iff.1 h
  have hanswer : (operation.carryOut g).1 = .ok outcome := by rw [hcarried]
  obtain rfl : (operation.carryOut g).2 = g' := by rw [hcarried]
  clear hcarried h
  cases operation with
  | connect source target fromPoint toPoint =>
      simp only [Operation.carryOut, connect] at hanswer ⊢
      cases hcheck : g.checkConnect source target with
      | some rejection => rfl
      | none =>
          rw [hcheck] at hanswer
          obtain rfl := Except.ok.inj hanswer
          cases hsame
  | reorderChildren parent a b =>
      simp only [Operation.carryOut, reorderChildren] at hanswer ⊢
      split_ifs at hanswer ⊢
      · rfl
      · rfl
      · obtain rfl := Except.ok.inj hanswer
        cases hsame
  | disconnect id =>
      obtain ⟨count, hresult, rfl⟩ := attempt_eq_ok hanswer
      obtain ⟨node, -, hresult⟩ := bind_eq_ok_iff.1 hresult
      obtain ⟨hcount, hg⟩ := Prod.mk.inj (Except.ok.inj hresult)
      have hzero : count = 0 := by simpa [Outcome.changesGraph] using hsame
      rw [Operation.carryOut, ← hg, detach_of_countP_eq_zero (hcount.trans hzero)]
  | clear =>
      obtain rfl := Except.ok.inj hanswer
      cases hsame
  | addParam | updateParam | removeParam | addField | updateField | removeField =>
      obtain ⟨a, rfl⟩ := answer_eq_ok hanswer
      cases hsame
  | createNode | deleteNode | updateNode | setDecorator | moveNode | moveWithDescendants
  | pasteNode =>
      obtain ⟨a, -, rfl⟩ := attempt_eq_ok hanswer
      cases hsame

/-! ### Numbers that can be written -/

/-- An operation that adds a node fails, or the node has the next id, which is logged. -/
theorem carryOut_of_adds (hadds : Adds operation) :
    (∃ fault, operation.carryOut g = (.error fault, g)) ∨
      ∃ node : Node, node.id = g.nextId ∧
        operation.carryOut g = (.ok (.node node), g.append node) ∧
        operation.logged g (.node node) = [g.nextId] := by
  cases operation with
  | createNode kind x y name =>
      simp only [Operation.carryOut]
      cases hresult : g.createNode kind x y name with
      | error fault => exact Or.inl ⟨fault, rfl⟩
      | ok result =>
          obtain ⟨kind, -, hresult⟩ := bind_eq_ok_iff.1 hresult
          obtain ⟨x, -, hresult⟩ := bind_eq_ok_iff.1 hresult
          obtain ⟨y, -, hresult⟩ := bind_eq_ok_iff.1 hresult
          obtain rfl := Except.ok.inj hresult
          exact Or.inr ⟨_, rfl, rfl, rfl⟩
  | pasteNode copied =>
      simp only [Operation.carryOut]
      cases hresult : g.pasteNode copied with
      | error fault => exact Or.inl ⟨fault, rfl⟩
      | ok result =>
          obtain ⟨name, -, hresult⟩ := bind_eq_ok_iff.1 hresult
          obtain rfl := Except.ok.inj hresult
          exact Or.inr ⟨_, rfl, rfl, rfl⟩
  | _ => exact hadds.elim

/-- A graph whose ids, and the places of whose children, are short enough to be written. -/
structure Writable (g : Graph) : Prop where
  ids : ∀ node ∈ g.nodes, isWritable node.id = true
  places : ∀ parent, ∀ n < g.childCount parent, isWritable n = true

namespace Writable

theorem empty : Graph.empty.Writable where
  ids := fun _ h => absurd h List.not_mem_nil
  places := fun _ n h => absurd h (Nat.not_lt_zero n)

theorem order (h : g.Writable) (hw : g.WellFormed) {c : Connection} (hc : c ∈ g.connections) :
    isWritable c.order = true := by
  have hlt := (hw.contiguous c.source).lt (List.mem_filter.2 ⟨hc, decide_eq_true rfl⟩)
  rw [length_siblings] at hlt
  exact h.places c.source c.order hlt

theorem ends (h : g.Writable) (hw : g.WellFormed) {c : Connection} (hc : c ∈ g.connections) :
    isWritable c.source = true ∧ isWritable c.target = true := by
  have hid : ∀ id ∈ g.nodes.map (·.id), isWritable id = true := by
    intro id hid
    obtain ⟨node, hnode, rfl⟩ := List.mem_map.1 hid
    exact h.ids node hnode
  obtain ⟨hsource, htarget⟩ := hw.joined c hc
  exact ⟨hid _ hsource, hid _ htarget⟩

/-- No new ids and no more children. -/
theorem of_within (h : g.Writable) (hids : g'.nodes.map (·.id) ⊆ g.nodes.map (·.id))
    (hends : g'.EndsWithin g) : g'.Writable where
  ids := by
    intro node hnode
    obtain ⟨old, hold, heq⟩ := List.mem_map.1 (hids (List.mem_map_of_mem hnode))
    rw [← heq]
    exact h.ids old hold
  places := fun parent n hn => h.places parent n (hn.trans_le (hends.childCount_le parent))

theorem append (h : g.Writable) {node : Node} (hid : isWritable node.id = true) :
    (g.append node).Writable where
  ids := by
    intro other hother
    rcases List.mem_append.1 hother with hother | hother
    · exact h.ids other hother
    · rw [List.mem_singleton.1 hother]
      exact hid
  places := h.places

theorem connect (h : g.Writable) {c : Connection} (ho : c.order = g.childCount c.source)
    (hc : isWritable c.order = true) :
    Writable { g with connections := g.connections ++ [c] } where
  ids := h.ids
  places := by
    intro parent n hn
    rw [TreeShaped.childCount_concat] at hn
    split_ifs at hn with hs
    · rcases Nat.lt_succ_iff_lt_or_eq.1 hn with hn | rfl
      · exact h.places parent n hn
      · rwa [← hs, ← ho]
    · exact h.places parent n hn

theorem of_sameShape (h : g.Writable) (hs : SameShape g g') : g'.Writable :=
  h.of_within (by rw [hs.ids]; exact List.Subset.refl _) hs.endsWithin

/-- **An operation that succeeds keeps the ids and places short enough to be written.** -/
theorem apply (h : g.Writable) (hw : g.WellFormed) {operation : Operation} {outcome : Outcome}
    (ha : operation.apply g = (.ok outcome, g')) : g'.Writable := by
  obtain ⟨hcarried, hlogged⟩ := apply_eq_ok_iff.1 ha
  have he : Effect g operation g' := by
    have heffect := effect_apply hw.ids_nodup operation
    rwa [ha] at heffect
  cases he with
  | edit hs => exact h.of_sameShape hs
  | append node hid hadds =>
      have hanswer : (operation.carryOut g).1 = .ok outcome := by rw [hcarried]
      rcases carryOut_of_adds hadds with ⟨fault, hfault⟩ | ⟨new, -, hnew, hid'⟩
      · rw [hfault] at hanswer
        cases hanswer
      · rw [hnew] at hanswer
        rw [← Except.ok.inj hanswer, hid'] at hlogged
        exact h.append (hid ▸ hlogged g.nextId (List.mem_singleton_self _))
  | delete id =>
      exact h.of_within (List.filter_sublist.map _).subset (endsWithin_detach g id _)
  | connect c hc ho =>
      refine h.connect ho (hlogged c.order ?_)
      simp only [Operation.carryOut, Graph.connect, hc, Prod.mk.injEq, Except.ok.injEq] at hcarried
      rw [← hcarried.1, ho]
      simp [Operation.logged]
  | disconnect id => exact h.of_within (List.Subset.refl _) (endsWithin_detach g id _)
  | exchange parent i j => exact h.of_within (List.Subset.refl _) (endsWithin_exchange g parent i j)
  | clear => exact empty

end Writable
end BehaviorTree.Graph
