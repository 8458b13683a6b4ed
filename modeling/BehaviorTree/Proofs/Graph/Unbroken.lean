import BehaviorTree.Proofs.Graph.Declared
import BehaviorTree.Proofs.Graph.Success

/-! # Runs in which no call breaks off

An operation ends with a log entry, and where a number in it is too long to be written the call breaks
off after the graph has changed (`Operation.BreaksOff`).  The numbers are ids of nodes and places of
children, so in a graph in which these are short enough (`Graph.Loggable`) only an operation that
brings a new id can break off.

A run in which none does (`Run.Unbroken`) leads from loggable graph to loggable graph
(`Run.Unbroken.loggable`): the ids of a document come from a text, and each new id has been logged.
So in such a run all entries about nodes of the graph can be written. -/

namespace BehaviorTree

open BehaviorTree.Graph BehaviorTree.Text

/-! ### Graphs whose parts can be named -/

/-- A graph whose ids, and the number of whose connections, are short enough to be written. -/
structure Graph.Loggable (g : Graph) : Prop where
  ids : ∀ node ∈ g.nodes, isWritable node.id = true
  few : g.connections.length < 10 ^ numeralLimit

namespace Graph.Loggable

variable {g : Graph}

theorem id (h : g.Loggable) {n : ℤ} (hn : n ∈ g.nodes.map (·.id)) : isWritable n = true := by
  obtain ⟨node, hnode, rfl⟩ := List.mem_map.1 hn
  exact h.ids node hnode

/-- A number of connections can be written. -/
theorem count (h : g.Loggable) {n : ℕ} (hn : n ≤ g.connections.length) : isWritable n = true :=
  (isWritable_iff_lt n).2 (hn.trans_lt h.few)

theorem childCount (h : g.Loggable) (parent : ℤ) : isWritable (g.childCount parent) = true :=
  h.count List.countP_le_length

theorem writable (h : g.Loggable) : g.Writable where
  ids := h.ids
  places _ _ hn := h.count (hn.le.trans List.countP_le_length)

end Graph.Loggable

/-! ### Operations -/

namespace Operation

variable {g : Graph} {operation : Operation}

/-- Where the log entry can be written, the call is the operation. -/
theorem apply_eq_carryOut (h : ∀ outcome, (operation.carryOut g).1 = .ok outcome →
    ∀ n ∈ operation.logged g outcome, isWritable n = true) :
    operation.apply g = operation.carryOut g := by
  refine Prod.ext ?_ rfl
  change (operation.carryOut g).1 >>= operation.log g = (operation.carryOut g).1
  cases hanswer : (operation.carryOut g).1 with
  | error fault => rfl
  | ok outcome => exact if_pos (List.all_eq_true.2 (h outcome hanswer))

/-- A call that does not break off is the operation, or leaves the graph alone. -/
theorem apply_cases (h : ¬ operation.BreaksOff g) : operation.apply g = operation.carryOut g ∨
    (∃ outcome, (operation.carryOut g).1 = .ok outcome ∧
      ∃ n ∈ operation.logged g outcome, isWritable n = false) ∧
    operation.apply g = (.error .integerTooLong, g) := by
  by_cases hlogged : ∀ outcome, (operation.carryOut g).1 = .ok outcome →
      ∀ n ∈ operation.logged g outcome, isWritable n = true
  · exact Or.inl (apply_eq_carryOut hlogged)
  · push Not at hlogged
    obtain ⟨outcome, hanswer, n, hn, hlong⟩ := hlogged
    rw [Ne, Bool.not_eq_true] at hlong
    refine Or.inr ⟨⟨outcome, hanswer, n, hn, hlong⟩, Prod.ext ?_ ?_⟩
    · change (operation.carryOut g).1 >>= operation.log g = _
      rw [hanswer]
      exact if_neg fun hall => by simp [List.all_eq_true.1 hall n hn] at hlong
    · by_contra hchanged
      exact h ⟨outcome, hanswer, hchanged, n, hn, hlong⟩

end Operation

namespace Graph

variable {g : Graph} {operation : Operation}

/-- **The log entry of an operation that is carried out** names ids of nodes and places of children,
unless a node comes. -/
theorem Loggable.isWritable_logged (h : g.Loggable) (hw : g.WellFormed) (hadds : ¬ Adds operation)
    {outcome : Outcome} (hanswer : (operation.carryOut g).1 = .ok outcome)
    (hrejected : outcome.isRejected = false) :
    ∀ n ∈ operation.logged g outcome, isWritable n = true := by
  cases operation with
  | connect source target fromPoint toPoint =>
      simp only [Operation.carryOut, Graph.connect] at hanswer
      cases hcheck : g.checkConnect source target with
      | some rejection =>
          rw [hcheck] at hanswer
          obtain rfl := Except.ok.inj hanswer
          cases hrejected
      | none =>
          rw [hcheck] at hanswer
          obtain rfl := Except.ok.inj hanswer
          obtain ⟨a, b, ha, hb, -⟩ := checkConnect_eq_none_iff.1 hcheck
          obtain ⟨hmema, rfl⟩ := mem_of_find? ha
          obtain ⟨hmemb, rfl⟩ := mem_of_find? hb
          simp only [Operation.logged, List.forall_mem_cons]
          exact ⟨h.ids a hmema, h.ids b hmemb, h.childCount _, List.forall_mem_nil _⟩
  | deleteNode id =>
      obtain ⟨node, hresult, -⟩ := attempt_eq_ok hanswer
      obtain ⟨found, hfound, -⟩ := bind_eq_ok_iff.1 hresult
      obtain ⟨hmem, rfl⟩ := mem_of_find? (get_eq_ok_iff.1 hfound)
      refine List.forall_mem_cons.2 ⟨h.ids found hmem, fun n hn => ?_⟩
      obtain ⟨c, hc, -, rfl⟩ := mem_parentIds.1 hn
      exact (h.writable.ends hw hc).1
  | disconnect id =>
      obtain ⟨count, hresult, rfl⟩ := attempt_eq_ok hanswer
      obtain ⟨found, hfound, hresult⟩ := bind_eq_ok_iff.1 hresult
      obtain ⟨hcount, -⟩ := Prod.mk.inj (Except.ok.inj hresult)
      obtain ⟨hmem, rfl⟩ := mem_of_find? (get_eq_ok_iff.1 hfound)
      simp only [Operation.logged, List.forall_mem_cons]
      exact ⟨h.ids found hmem, h.count (hcount ▸ List.countP_le_length), List.forall_mem_nil _⟩
  | reorderChildren parent a b =>
      simp only [Operation.carryOut, Graph.reorderChildren] at hanswer
      split_ifs at hanswer with ha hb
      · obtain rfl := Except.ok.inj hanswer
        cases hrejected
      · obtain rfl := Except.ok.inj hanswer
        cases hrejected
      · obtain rfl := Except.ok.inj hanswer
        obtain ⟨i, rfl, hi⟩ := exists_order_of_not_all ha
        obtain ⟨j, rfl, hj⟩ := exists_order_of_not_all hb
        obtain ⟨c, hc, rfl⟩ := List.mem_map.1 hi
        obtain ⟨d, hd, rfl⟩ := List.mem_map.1 hj
        obtain ⟨hc, hsource⟩ := List.mem_filter.1 hc
        have hparent : isWritable parent = true :=
          of_decide_eq_true hsource ▸ (h.writable.ends hw hc).1
        simp only [Operation.logged, List.forall_mem_cons]
        exact ⟨h.writable.order hw hc, h.writable.order hw (List.mem_of_mem_filter hd), hparent,
          List.forall_mem_nil _⟩
  | setDecorator id kind =>
      obtain ⟨node, hresult, -⟩ := attempt_eq_ok hanswer
      obtain ⟨found, hfound, -⟩ := bind_eq_ok_iff.1 hresult
      obtain ⟨hmem, rfl⟩ := mem_of_find? (get_eq_ok_iff.1 hfound)
      exact List.forall_mem_singleton.2 (h.ids found hmem)
  | createNode | pasteNode => exact absurd trivial hadds
  | _ => exact List.forall_mem_nil _

/-- What is carried out is answered, unless a node comes. -/
theorem Loggable.apply_eq (h : g.Loggable) (hw : g.WellFormed) {outcome : Outcome} {g' : Graph}
    (hcarried : operation.carryOut g = (.ok outcome, g')) (hadds : ¬ Adds operation)
    (hrejected : outcome.isRejected = false) : operation.apply g = (.ok outcome, g') := by
  rw [Operation.apply_eq_carryOut fun other hother => ?_, hcarried]
  rw [hcarried] at hother
  obtain rfl := Except.ok.inj hother
  exact h.isWritable_logged hw hadds (congrArg Prod.fst hcarried) hrejected

theorem carryOut_eq_self_of_rejected (hw : g.WellFormed) {outcome : Outcome}
    (h : (operation.carryOut g).1 = .ok outcome) (hrejected : outcome.isRejected = true) :
    (operation.carryOut g).2 = g := by
  have hfails : Fails (operation.carryOut g).1 := h ▸ fails_ok_iff.2 hrejected
  refine (Operation.carryOut_eq_self_iff hw.ids_nodup hfails).2 fun hseeks => ?_
  cases operation with
  | updateParam | removeParam | updateField | removeField =>
      obtain ⟨a, rfl⟩ := answer_eq_ok h
      cases hrejected
  | _ => exact hseeks.elim

/-- **Only an operation that brings a new id** can break off. -/
theorem Loggable.not_breaksOff (h : g.Loggable) (hw : g.WellFormed)
    (hnext : Adds operation → isWritable g.nextId = true) : ¬ operation.BreaksOff g := by
  rintro ⟨outcome, hanswer, hchanged, n, hn, hlong⟩
  have hwritable : isWritable n = true := by
    by_cases hadds : Adds operation
    · rcases carryOut_of_adds hadds with ⟨fault, hfault⟩ | ⟨node, -, hnode, hid⟩
      · rw [hfault] at hanswer
        cases hanswer
      · rw [hnode] at hanswer
        rw [← Except.ok.inj hanswer, hid] at hn
        exact List.mem_singleton.1 hn ▸ hnext hadds
    · refine h.isWritable_logged hw hadds hanswer ?_ n hn
      by_contra hrejected
      exact hchanged (carryOut_eq_self_of_rejected hw hanswer (eq_true_of_ne_false hrejected))
  rw [hwritable] at hlong
  cases hlong

/-- An operation that fails brings no new ids. -/
theorem ids_subset_of_failed (hw : g.WellFormed) {fault : Fault}
    (h : (operation.carryOut g).1 = .error fault) :
    (operation.carryOut g).2.nodes.map (·.id) ⊆ g.nodes.map (·.id) := by
  have heffect := effect_apply hw.ids_nodup operation
  rw [Operation.graph_apply] at heffect
  generalize hg' : (operation.carryOut g).2 = g' at heffect ⊢
  cases heffect with
  | edit hs => rw [hs.ids]; exact List.Subset.refl _
  | append node hid hadds =>
      rcases carryOut_of_adds hadds with ⟨_, hfault⟩ | ⟨_, -, hnode, -⟩
      · rw [← hg', hfault]
        exact List.Subset.refl _
      · rw [hnode] at h
        cases h
  | delete id => exact (List.filter_sublist.map _).subset
  | clear => exact List.nil_subset _
  | connect | disconnect | exchange => exact List.Subset.refl _

/-- An operation brings at most one connection. -/
theorem length_connections_apply_le (hw : g.WellFormed) (operation : Operation) :
    (operation.apply g).2.connections.length ≤ g.connections.length + 1 := by
  have hends : ∀ {g' : Graph}, g'.EndsWithin g → g'.connections.length ≤ g.connections.length :=
    fun hwithin => by simpa using hwithin.length_le
  have heffect := effect_apply hw.ids_nodup operation
  generalize (operation.apply g).2 = g' at heffect
  cases heffect with
  | edit hs => exact (hends hs.endsWithin).trans (Nat.le_succ _)
  | append => exact Nat.le_succ _
  | delete id => exact (hends (endsWithin_detach g id _)).trans (Nat.le_succ _)
  | connect c => exact (List.length_append ..).le
  | disconnect id => exact (hends (endsWithin_detach g id _)).trans (Nat.le_succ _)
  | exchange parent i j => exact (hends (endsWithin_exchange g parent i j)).trans (Nat.le_succ _)
  | clear => exact Nat.zero_le _

/-- **An operation that does not break off** keeps the ids short enough to be written. -/
theorem Loggable.ids_apply (h : g.Loggable) (hw : g.WellFormed) (hbreaks : ¬ operation.BreaksOff g) :
    ∀ node ∈ (operation.apply g).2.nodes, isWritable node.id = true := by
  rcases Operation.apply_cases hbreaks with hcarried | ⟨-, hsame⟩
  · cases hanswer : (operation.apply g).1 with
    | ok outcome => exact (h.writable.apply hw (Prod.ext hanswer rfl)).ids
    | error fault =>
        intro node hnode
        rw [hcarried] at hanswer hnode
        exact h.id (ids_subset_of_failed hw hanswer (List.mem_map_of_mem hnode))
  · rw [hsame]
    exact h.ids

/-- **A document that comes from a text** has ids that can be written. -/
theorem isWritable_of_ofJson {half : Char} {text : String} {value : Json}
    (htext : Json.parse half text = .ok value) (h : ofJson value = .ok g) :
    ∀ node ∈ g.nodes, isWritable node.id = true := by
  obtain ⟨nodes, links, hreads, hbuild⟩ := exists_reads_of_ofJson h
  obtain ⟨fields, rfl, hnodes, -⟩ := reads_iff.1 hreads
  rw [(declared_of_build hbuild).nodes_eq]
  exact isWritable_nodesOf (Json.readable_of_parse htext) hnodes

end Graph

/-! ### Runs -/

/-- A run in which no operation breaks off.  Documents come from texts, and a graph has fewer
connections than the longest number that can be written. -/
structure Run.Unbroken (calls : List Call) : Prop where
  texts : ∀ value, Call.load value ∈ calls → ∃ half text, Json.parse half text = .ok value
  completes : ∀ before operation, before ++ [.operate operation] <+: calls →
    ¬ operation.BreaksOff (Run.after before).graph
  few : ∀ before, before <+: calls →
    (Run.after before).graph.connections.length < 10 ^ numeralLimit

namespace Run.Unbroken

variable {calls : List Call}

/-- **In a run in which no call breaks off**, all ids are short enough to be written. -/
theorem loggable (h : Unbroken calls) : (Run.after calls).graph.Loggable := by
  refine ⟨?_, h.few calls (List.prefix_refl _)⟩
  have hids : (Run.after calls).Holds fun g =>
      g.WellFormed ∧ ∀ node ∈ g.nodes, isWritable node.id = true := by
    refine Run.holds_after ⟨WellFormed.empty, fun _ h => absurd h List.not_mem_nil⟩ calls ?_ ?_
    · intro before operation hp hholds
      obtain ⟨hw, hids⟩ := hholds.1
      have hfew := h.few before ((List.prefix_append _ _).trans hp)
      exact ⟨hw.apply operation,
        Loggable.ids_apply ⟨hids, hfew⟩ hw (h.completes before operation hp)⟩
    · intro value g hmem hg
      obtain ⟨half, text, htext⟩ := h.texts value hmem
      exact ⟨WellFormed.of_ofJson hg, isWritable_of_ofJson htext hg⟩
  exact hids.1.2

theorem nil : Unbroken [] where
  texts _ hvalue := absurd hvalue List.not_mem_nil
  completes before operation hp :=
    absurd (List.prefix_nil.1 hp) (List.append_ne_nil_of_right_ne_nil before (List.cons_ne_nil _ _))
  few before hp := by
    rw [List.prefix_nil.1 hp]
    exact Nat.pow_pos (by decide)

/-- A run goes on unbroken with a document that comes from a text. -/
theorem load (h : Unbroken calls) {half : Char} {text : String} {value : Json}
    (htext : Json.parse half text = .ok value)
    (hfew : (Run.after (calls ++ [.load value])).graph.connections.length < 10 ^ numeralLimit) :
    Unbroken (calls ++ [.load value]) where
  texts other hother := by
    rcases List.mem_append.1 hother with hother | hother
    · exact h.texts other hother
    · obtain rfl := Call.load.inj (List.mem_singleton.1 hother)
      exact ⟨half, text, htext⟩
  completes before operation hp := by
    rcases List.prefix_concat_iff.1 hp with hlast | hp
    · cases (List.append_inj' hlast rfl).2
    · exact h.completes before operation hp
  few before hp := by
    rcases List.prefix_concat_iff.1 hp with rfl | hp
    · exact hfew
    · exact h.few before hp

/-- It goes on unbroken with an operation, as long as a new id can be written. -/
theorem operate (h : Unbroken calls) {operation : Operation}
    (hnext : Adds operation → isWritable (Run.after calls).graph.nextId = true)
    (hfew : (Run.after calls).graph.connections.length + 1 < 10 ^ numeralLimit) :
    Unbroken (calls ++ [.operate operation]) where
  texts value hvalue := h.texts value (by simpa using hvalue)
  completes before other hp := by
    rcases List.prefix_concat_iff.1 hp with hlast | hp
    · obtain ⟨rfl, hsame⟩ := List.append_inj' hlast rfl
      obtain rfl := Call.operate.inj (List.cons.inj hsame).1
      exact h.loggable.not_breaksOff (Run.holds_wellFormed before).1 hnext
    · exact h.completes before other hp
  few before hp := by
    rcases List.prefix_concat_iff.1 hp with rfl | hp
    · rw [Run.after_append]
      exact (length_connections_apply_le (Run.holds_wellFormed calls).1 operation).trans_lt hfew
    · exact h.few before hp

end Run.Unbroken

end BehaviorTree
