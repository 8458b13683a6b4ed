import BehaviorTree.Proofs.Graph.ChildLists
import BehaviorTree.Proofs.Graph.Connecting
import Mathlib.Data.Multiset.Filter

/-! # Outlines

Seen from outside, a graph has ids, a list of children for each of them, and lines between them.
That is its `Outline`.  What a call does to an outline can be said without the graph
(`Outline.Step`): an accepted connection puts a child at the end of one list; a node that is deleted
or disconnected goes out of all lists, and the call fails only if there is no such node; an accepted
exchange swaps two items of one list, and is accepted only where there are both; a new node has no
children; and no other call changes anything that shows.

An operation ends with a log entry.  Where a number in it is too long to be written, the call has
taken its step and fails nevertheless (`Outline.Step.breaks`); this is the only way for a call to fail
on nodes that there are.

The graph itself keeps one list of numbered connections.  None of this shows: on every reachable
graph every call takes such a step (`Graph.step_apply`), so what a run of calls makes of the outline
is what the same calls, with the same answers, make of plain lists (`steps_after`). -/

namespace BehaviorTree

open BehaviorTree.Graph

/-- A connection without its place among its siblings. -/
structure Line where
  source : ℤ
  target : ℤ
  fromPoint : String
  toPoint : String
  deriving DecidableEq

/-- A line starts or ends at a node. -/
def Line.Touches (id : ℤ) (line : Line) : Prop := line.source = id ∨ line.target = id

instance (id : ℤ) : DecidablePred (Line.Touches id) :=
  fun line => inferInstanceAs (Decidable (line.source = id ∨ line.target = id))

/-- The line of a connection. -/
def Connection.line (c : Connection) : Line := ⟨c.source, c.target, c.fromPoint, c.toPoint⟩

/-- The ids of the nodes, the children of each in the order in which they run, and the lines between
nodes. -/
structure Outline where
  ids : List ℤ
  kids : ℤ → List ℤ
  lines : Multiset Line

namespace Outline

/-- The outline without nodes. -/
def empty : Outline := ⟨[], fun _ => [], 0⟩

/-- The outline with a node more, which has no children and is no child. -/
def add (o : Outline) (id : ℤ) : Outline := { o with ids := o.ids ++ [id] }

/-- The outline with a line more, whose end becomes the last child of its start. -/
def connect (o : Outline) (line : Line) : Outline where
  ids := o.ids
  kids := Function.update o.kids line.source (o.kids line.source ++ [line.target])
  lines := line ::ₘ o.lines

/-- The outline without the lines that touch a node: the node has no children, and is no child. -/
def detach (o : Outline) (id : ℤ) : Outline where
  ids := o.ids
  kids := fun parent => if parent = id then [] else (o.kids parent).filter (· ≠ id)
  lines := o.lines.filter fun line => ¬ line.Touches id

/-- The outline without a node and the lines that touch it. -/
def delete (o : Outline) (id : ℤ) : Outline := { o.detach id with ids := o.ids.filter (· ≠ id) }

/-- The outline with the children at two places below a parent exchanged. -/
def exchange (o : Outline) (parent : ℤ) (i j : ℕ) : Outline where
  ids := o.ids
  kids := Function.update o.kids parent (exchanged i j (o.kids parent))
  lines := o.lines

/-- There is a child at a place below a parent. -/
def HasPlace (o : Outline) (parent place : ℤ) : Prop :=
  ∃ i < (o.kids parent).length, (i : ℤ) = place

end Outline

/-- An outline has an id that is too long to be written, or so many lines that their number is. -/
def Outline.TooLong (o : Outline) : Prop :=
  (∃ id ∈ o.ids, Text.isWritable id = false) ∨ 10 ^ Text.numeralLimit ≤ o.lines.card

/-- The calls that change at most attributes, positions, arguments and fields of nodes. -/
def Operation.Edits : Operation → Prop
  | updateNode .. | setDecorator .. | moveNode .. | moveWithDescendants .. => True
  | addParam .. | updateParam .. | removeParam .. => True
  | addField .. | updateField .. | removeField .. => True
  | _ => False

/-- What a call does to an outline, by its answer. -/
inductive Outline.Step (o : Outline) : Operation → Except Fault Outcome → Outline → Prop
  /-- An accepted connection makes its target the last child of its source. -/
  | connect (c : Connection) (hsource : c.source ∈ o.ids) (htarget : c.target ∈ o.ids) :
      Step o (.connect c.source c.target c.fromPoint c.toPoint) (.ok (.connected (.accepted c)))
        (o.connect c.line)
  /-- A connection that is refused leaves the outline alone. -/
  | refuse {source target : ℤ} {fromPoint toPoint : String} {answer : Except Fault Outcome}
      (h : ∀ c, answer ≠ .ok (.connected (.accepted c))) :
      Step o (.connect source target fromPoint toPoint) answer o
  /-- A node that there is goes, and goes from all lists. -/
  | delete (node : Node) (h : node.id ∈ o.ids) :
      Step o (.deleteNode node.id) (.ok (.node node)) (o.delete node.id)
  /-- When it is disconnected, it goes from all lists; the answer is the number of the lines that
  go. -/
  | disconnect (id : ℤ) (h : id ∈ o.ids) :
      Step o (.disconnect id) (.ok (.removed (o.lines.countP (Line.Touches id)))) (o.detach id)
  /-- A node that there is not is neither deleted nor disconnected. -/
  | missing {operation : Operation} {id : ℤ} {fault : Fault}
      (hoperation : operation = .deleteNode id ∨ operation = .disconnect id) (h : id ∉ o.ids) :
      Step o operation (.error fault) o
  /-- Two places that there are are exchanged. -/
  | exchange (parent : ℤ) (i j : ℕ) (hi : i < (o.kids parent).length)
      (hj : j < (o.kids parent).length) :
      Step o (.reorderChildren parent i j) (.ok (.reordered (.accepted ()))) (o.exchange parent i j)
  /-- Other places are not. -/
  | noPlace {parent a b : ℤ} {answer : Except Fault Outcome}
      (h : ¬ (o.HasPlace parent a ∧ o.HasPlace parent b))
      (hanswer : answer ≠ .ok (.reordered (.accepted ()))) :
      Step o (.reorderChildren parent a b) answer o
  /-- A new node has a new id. -/
  | add {operation : Operation} (hadds : Adds operation) (node : Node) (h : node.id ∉ o.ids) :
      Step o operation (.ok (.node node)) (o.add node.id)
  /-- A call that fails to add one leaves the outline alone, -/
  | unadded {operation : Operation} (hadds : Adds operation) (fault : Fault) :
      Step o operation (.error fault) o
  /-- and so does an edit. -/
  | edit {operation : Operation} (hedits : operation.Edits) (answer : Except Fault Outcome) :
      Step o operation answer o
  /-- Everything goes. -/
  | clear : Step o .clear (.ok .done) .empty
  /-- A call whose log entry cannot be written takes its step, and fails. -/
  | breaks {operation : Operation} {outcome : Outcome} {o' : Outline}
      (h : Step o operation (.ok outcome) o') (hlong : o.TooLong ∨ o'.TooLong) :
      Step o operation (.error .integerTooLong) o'

/-- A call that is refused leaves the outline alone, also where its log entry fails. -/
theorem Outline.Step.of_rejected {o o' : Outline} {operation : Operation} {outcome : Outcome}
    {fault : Fault} (h : o.Step operation (.ok outcome) o') (hrejected : outcome.isRejected = true) :
    o.Step operation (.error fault) o' := by
  cases h with
  | refuse => exact .refuse fun _ hc => by cases hc
  | noPlace hplaces => exact .noPlace hplaces fun hanswer => by cases hanswer
  | edit hedits => exact .edit hedits _
  | connect | delete | disconnect | exchange | add | clear => cases hrejected

/-- What a node's disconnection that is answered has done. -/
theorem Outline.Step.eq_detach {o o' : Outline} {id : ℤ} {count : ℕ}
    (h : o.Step (.disconnect id) (.ok (.removed count)) o') :
    count = o.lines.countP (Line.Touches id) ∧ o' = o.detach id := by
  cases h with
  | disconnect => exact ⟨rfl, rfl⟩
  | edit hedits => exact hedits.elim

/-- What calls do to an outline, one after the other. -/
inductive Outline.Steps : Outline → List (Operation × Except Fault Outcome) → Outline → Prop
  | nil (o : Outline) : Steps o [] o
  | cons {o o' o'' : Outline} {operation : Operation} {answer : Except Fault Outcome}
      {rest : List (Operation × Except Fault Outcome)} (h : o.Step operation answer o')
      (hrest : Steps o' rest o'') : Steps o ((operation, answer) :: rest) o''

namespace Graph

/-- The outline of a graph. -/
def outline (g : Graph) : Outline :=
  ⟨g.nodes.map (·.id), g.childIds, g.connections.map Connection.line⟩

/-! ### Outlines of connections -/

theorem ignoresOrder_line : IgnoresOrder Connection.line := fun _ _ => rfl

/-- The outline that connections between some ids make. -/
def outlineOf (ids : List ℤ) (cs : List Connection) : Outline :=
  ⟨ids, orderedTargets cs, cs.map Connection.line⟩

theorem outlineOf_nil : outlineOf [] [] = Outline.empty := by
  have hkids : orderedTargets [] = fun _ => [] := by
    funext parent
    rw [orderedTargets, byOrder, siblings_of_none (by simp), sortByOrder, List.mergeSort_nil]
    rfl
  rw [outlineOf, hkids]
  rfl

/-- The outline of a well-formed graph is that of its connections. -/
theorem WellFormed.outline_eq {g : Graph} (h : g.WellFormed) :
    g.outline = outlineOf (g.nodes.map (·.id)) g.connections := by
  rw [outline, childIds_eq h]
  rfl

variable (ids : List ℤ)

theorem outlineOf_concat {cs : List Connection} {c : Connection} (h : Contiguous cs c.source)
    (ho : c.order = (siblings cs c.source).length) :
    outlineOf ids (cs ++ [c]) = (outlineOf ids cs).connect c.line := by
  have hlines : ((cs ++ [c]).map Connection.line : Multiset Line) =
      c.line ::ₘ (cs.map Connection.line : Multiset Line) := by
    rw [List.map_append, Multiset.cons_coe, Multiset.coe_eq_coe]
    exact List.perm_append_singleton _ _
  rw [outlineOf, orderedTargets_concat h ho, hlines]
  rfl

theorem outlineOf_detach {cs : List Connection} (h : ∀ parent, Contiguous cs parent) (id : ℤ) :
    outlineOf ids (Graph.detach cs id) = (outlineOf ids cs).detach id := by
  have hlines : ((Graph.detach cs id).map Connection.line : Multiset Line) =
      (cs.map Connection.line : Multiset Line).filter fun line => ¬ line.Touches id := by
    rw [Multiset.filter_coe, Multiset.coe_eq_coe, List.filter_map]
    refine (map_detach_perm ignoresOrder_line cs id).trans (.of_eq ?_)
    refine congrArg (List.map _) (List.filter_congr fun c _ => ?_)
    have htouches : ¬ c.line.Touches id ↔ c.source ≠ id ∧ c.target ≠ id := not_or
    rw [Bool.eq_iff_iff, Bool.and_eq_true, decide_eq_true_iff, decide_eq_true_iff, ← htouches]
    exact decide_eq_true_iff.symm
  rw [outlineOf, orderedTargets_detach h, hlines]
  rfl

theorem outlineOf_exchange {cs : List Connection} (h : ∀ parent, Contiguous cs parent)
    {parent : ℤ} {i j : ℕ} (hi : i < (siblings cs parent).length)
    (hj : j < (siblings cs parent).length) :
    outlineOf ids (gather parent (exchangeBelow parent i j cs)) =
      (outlineOf ids cs).exchange parent i j := by
  have hlines : ((gather parent (exchangeBelow parent i j cs)).map Connection.line :
      Multiset Line) = (cs.map Connection.line : Multiset Line) := by
    rw [Multiset.coe_eq_coe, ← map_exchangeBelow ignoresOrder_line parent i j cs]
    exact (gather_perm parent _).map _
  rw [outlineOf, orderedTargets_exchange h hi hj, hlines]
  rfl

/-! ### The steps of graphs -/

section steps

variable {g : Graph} (h : g.WellFormed)

include h

theorem mem_ids_outline_iff {id : ℤ} :
    id ∈ g.outline.ids ↔ ∃ node, g.get id = .ok node ∧ node.id = id := by
  constructor
  · intro hid
    obtain ⟨node, hnode, rfl⟩ := List.mem_map.1 hid
    exact ⟨node, get_eq_ok_iff.2 (h.find?_of_mem hnode), rfl⟩
  · rintro ⟨node, hnode, rfl⟩
    exact List.mem_map_of_mem (mem_of_find? (get_eq_ok_iff.1 hnode)).1

theorem not_mem_ids_outline {id : ℤ} {fault : Fault} (hnode : g.get id = .error fault) :
    id ∉ g.outline.ids := by
  intro hid
  obtain ⟨node, hfound, -⟩ := (mem_ids_outline_iff h).1 hid
  rw [hnode] at hfound
  cases hfound

theorem length_kids_outline (parent : ℤ) :
    (g.outline.kids parent).length = (siblings g.connections parent).length := by
  rw [h.outline_eq]
  exact (List.length_map _).trans (length_byOrder _ _)

/-- Where no connection has an order, there is no child at that place. -/
theorem not_hasPlace_outline {parent place : ℤ}
    (hall : ((siblings g.connections parent).all fun c => (c.order : ℤ) ≠ place) = true) :
    ¬ g.outline.HasPlace parent place := by
  rintro ⟨i, hi, rfl⟩
  rw [length_kids_outline h] at hi
  obtain ⟨c, hc, rfl⟩ := List.mem_map.1 ((h.contiguous parent).symm.subset (List.mem_range.2 hi))
  exact absurd rfl (of_decide_eq_true (List.all_eq_true.1 hall c hc))

theorem step_connect (source target : ℤ) (fromPoint toPoint : String) :
    g.outline.Step (.connect source target fromPoint toPoint)
      (Operation.carryOut g (.connect source target fromPoint toPoint)).1
      (Operation.carryOut g (.connect source target fromPoint toPoint)).2.outline := by
  simp only [Operation.carryOut, Graph.connect]
  split
  · refine .refuse fun c hc => ?_
    cases hc
  · rename_i hcheck
    have ho := (length_siblings g source).symm
    have hafter := @WellFormed.connect g h
      ⟨source, target, g.childCount source, fromPoint, toPoint⟩ hcheck rfl
    obtain ⟨a, b, ha, hb, -⟩ := checkConnect_eq_none_iff.1 hcheck
    have hsource := (mem_ids_outline_iff h).2 ⟨a, get_eq_ok_iff.2 ha, (mem_of_find? ha).2⟩
    have htarget := (mem_ids_outline_iff h).2 ⟨b, get_eq_ok_iff.2 hb, (mem_of_find? hb).2⟩
    rw [hafter.outline_eq, outlineOf_concat _ (h.contiguous source) ho, ← h.outline_eq]
    exact .connect ⟨source, target, g.childCount source, fromPoint, toPoint⟩ hsource htarget

theorem step_deleteNode (id : ℤ) :
    g.outline.Step (.deleteNode id) (Operation.carryOut g (.deleteNode id)).1
      (Operation.carryOut g (.deleteNode id)).2.outline := by
  simp only [Operation.carryOut, Graph.deleteNode]
  cases hnode : g.get id with
  | error fault => exact .missing (Or.inl rfl) (not_mem_ids_outline h hnode)
  | ok node =>
      obtain ⟨-, rfl⟩ := mem_of_find? (get_eq_ok_iff.1 hnode)
      have hids : (g.nodes.filter fun other => other.id ≠ node.id).map (·.id) =
          (g.nodes.map (·.id)).filter (· ≠ node.id) := by
        rw [List.filter_map]
        rfl
      have hafter := (h.delete node.id).outline_eq
      rw [hids, outlineOf_detach _ h.contiguous] at hafter
      have hstep := Outline.Step.delete node ((mem_ids_outline_iff h).2 ⟨node, hnode, rfl⟩)
      rw [Outline.delete, h.outline_eq] at hstep
      rw [h.outline_eq]
      exact hafter ▸ hstep

theorem step_disconnect (id : ℤ) :
    g.outline.Step (.disconnect id) (Operation.carryOut g (.disconnect id)).1
      (Operation.carryOut g (.disconnect id)).2.outline := by
  simp only [Operation.carryOut, Graph.disconnect]
  cases hnode : g.get id with
  | error fault => exact .missing (Or.inr rfl) (not_mem_ids_outline h hnode)
  | ok node =>
      obtain ⟨-, rfl⟩ := mem_of_find? (get_eq_ok_iff.1 hnode)
      have hcount : g.connections.countP (fun c => c.source = node.id || c.target = node.id) =
          g.outline.lines.countP (Line.Touches node.id) := by
        rw [outline, Multiset.coe_countP, List.countP_map]
        refine List.countP_congr fun c _ => ?_
        rw [Bool.or_eq_true, decide_eq_true_eq, decide_eq_true_eq]
        exact decide_eq_true_iff.symm
      have hafter := (h.disconnect node.id).outline_eq
      rw [outlineOf_detach _ h.contiguous, ← h.outline_eq] at hafter
      exact hafter ▸ hcount ▸ .disconnect node.id ((mem_ids_outline_iff h).2 ⟨node, hnode, rfl⟩)

theorem step_reorderChildren (parent a b : ℤ) :
    g.outline.Step (.reorderChildren parent a b)
      (Operation.carryOut g (.reorderChildren parent a b)).1
      (Operation.carryOut g (.reorderChildren parent a b)).2.outline := by
  simp only [Operation.carryOut, Graph.reorderChildren]
  split
  · rename_i ha
    refine .noPlace (fun hplaces => not_hasPlace_outline h ha hplaces.1) fun hanswer => ?_
    cases hanswer
  · rename_i ha
    split
    · rename_i hb
      refine .noPlace (fun hplaces => not_hasPlace_outline h hb hplaces.2) fun hanswer => ?_
      cases hanswer
    · rename_i hb
      obtain ⟨i, rfl, hi⟩ := exists_order_of_not_all ha
      obtain ⟨j, rfl, hj⟩ := exists_order_of_not_all hb
      have hplace : ∀ n ∈ (siblings g.connections parent).map (·.order),
          n < (siblings g.connections parent).length :=
        fun n hn => List.mem_range.1 ((h.contiguous parent).subset hn)
      have hafter := (h.exchange hi hj).outline_eq
      rw [outlineOf_exchange _ h.contiguous (hplace i hi) (hplace j hj), ← h.outline_eq] at hafter
      rw [← length_kids_outline h] at hplace
      exact hafter ▸ .exchange parent i j (hplace i hi) (hplace j hj)

/-- A node that is appended has a new id. -/
theorem step_adds {operation : Operation} (hadds : Adds operation) :
    g.outline.Step operation (operation.carryOut g).1 (operation.carryOut g).2.outline := by
  rcases carryOut_of_adds hadds with ⟨fault, hcarried⟩ | ⟨node, hid, hcarried, -⟩
  · rw [hcarried]
    exact .unadded hadds fault
  · have hids : (g.append node).nodes.map (·.id) = g.nodes.map (·.id) ++ [node.id] :=
      List.map_append ..
    have hafter := (h.append hid).outline_eq
    rw [hids] at hafter
    have hnew : node.id ∉ g.outline.ids := by
      intro hmem
      obtain ⟨other, hother, hsame⟩ := List.mem_map.1 hmem
      exact (h.ids_lt other hother).ne (hsame.trans hid)
    have hstep := Outline.Step.add hadds node hnew
    rw [Outline.add, h.outline_eq] at hstep
    rw [hcarried, h.outline_eq]
    exact hafter ▸ hstep

/-- What keeps ids and connections does not show. -/
theorem step_edits {operation : Operation} (hedits : operation.Edits) :
    g.outline.Step operation (operation.carryOut g).1 (operation.carryOut g).2.outline := by
  have hsame : SameShape g (operation.apply g).2 := by
    have heffect := effect_apply h.ids_nodup operation
    generalize (operation.apply g).2 = g' at heffect
    cases heffect with
    | edit hs => exact hs
    | append node hid hadds => cases operation <;> first | exact hadds.elim | exact hedits.elim
    | delete | connect | disconnect | exchange | clear => exact hedits.elim
  have hafter := (h.apply operation).outline_eq
  rw [hsame.ids, hsame.connections, ← h.outline_eq] at hafter
  rw [← Operation.graph_apply, hafter]
  exact .edit hedits _

/-- **What an operation does is a step of the outline.** -/
theorem step_carryOut (operation : Operation) :
    g.outline.Step operation (operation.carryOut g).1 (operation.carryOut g).2.outline := by
  cases operation with
  | connect source target fromPoint toPoint => exact step_connect h source target fromPoint toPoint
  | deleteNode id => exact step_deleteNode h id
  | disconnect id => exact step_disconnect h id
  | reorderChildren parent a b => exact step_reorderChildren h parent a b
  | clear =>
      have hempty : Graph.empty.outline = Outline.empty :=
        WellFormed.empty.outline_eq.trans outlineOf_nil
      exact hempty ▸ .clear
  | createNode | pasteNode => exact step_adds h trivial
  | _ => exact step_edits h trivial

/-- A log entry that cannot be written names something too long in the outline, before or after. -/
theorem tooLong_of_logged {operation : Operation} {outcome : Outcome} {n : ℤ}
    (hanswer : (operation.carryOut g).1 = .ok outcome) (hrejected : outcome.isRejected = false)
    (hn : n ∈ operation.logged g outcome) (hlong : Text.isWritable n = false) :
    g.outline.TooLong ∨ (operation.carryOut g).2.outline.TooLong := by
  by_cases hadds : Adds operation
  · rcases carryOut_of_adds hadds with ⟨fault, hcarried⟩ | ⟨node, hid, hcarried, hlogged⟩
    · rw [hcarried] at hanswer
      cases hanswer
    · rw [hcarried] at hanswer
      rw [← Except.ok.inj hanswer, hlogged, List.mem_singleton, ← hid] at hn
      rw [hcarried]
      refine Or.inr (Or.inl ⟨n, List.mem_map.2 ⟨node, ?_, hn.symm⟩, hlong⟩)
      exact List.mem_append_right _ (List.mem_singleton_self _)
  · by_contra hshort
    obtain ⟨hids, hfew⟩ := not_or.1 (not_or.1 hshort).1
    have hl : g.Loggable := by
      refine ⟨fun node hnode => ?_, ?_⟩
      · by_contra hid
        exact hids ⟨node.id, List.mem_map_of_mem hnode, eq_false_of_ne_true hid⟩
      · rw [outline, Multiset.coe_card, List.length_map] at hfew
        exact Nat.lt_of_not_le hfew
    rw [hl.isWritable_logged h hadds hanswer hrejected n hn] at hlong
    cases hlong

/-- **Every call takes a step of the outline**, and its log entry fails only where something is too
long. -/
theorem step_apply (operation : Operation) :
    g.outline.Step operation (operation.apply g).1 (operation.apply g).2.outline := by
  have hstep := step_carryOut h operation
  change g.outline.Step operation ((operation.carryOut g).1 >>= operation.log g) _
  rw [Operation.graph_apply]
  cases hanswer : (operation.carryOut g).1 with
  | error fault =>
      rw [hanswer] at hstep
      exact hstep
  | ok outcome =>
      rw [hanswer] at hstep
      change g.outline.Step operation (operation.log g outcome) _
      by_cases hwritten : ∀ n ∈ operation.logged g outcome, Text.isWritable n = true
      · rwa [Operation.log, if_pos (List.all_eq_true.2 hwritten)]
      · rw [Operation.log, if_neg (mt List.all_eq_true.1 hwritten)]
        cases hrejected : outcome.isRejected with
        | true => exact hstep.of_rejected hrejected
        | false =>
            push Not at hwritten
            obtain ⟨n, hn, hlong⟩ := hwritten
            exact .breaks hstep
              (tooLong_of_logged h hanswer hrejected hn (eq_false_of_ne_true hlong))

end steps

/-- What operations answer that are made one after the other, and the graph that they leave. -/
def answers (g : Graph) : List Operation → List (Operation × Except Fault Outcome) × Graph
  | [] => ([], g)
  | operation :: rest =>
    let (answer, g') := operation.apply g
    let (more, last) := answers g' rest
    ((operation, answer) :: more, last)

theorem steps_answers {g : Graph} (h : g.WellFormed) (operations : List Operation) :
    g.outline.Steps (g.answers operations).1 (g.answers operations).2.outline := by
  induction operations generalizing g with
  | nil => exact .nil _
  | cons operation rest ih => exact .cons (step_apply h operation) (ih (h.apply operation))

end Graph

/-- **A graph is a map from parents to lists of children.**  From every reachable graph, imported or
not, operations lead to graphs whose child lists and lines are those that the same operations, with
the same answers, make of plain lists. -/
theorem steps_after (calls : List Call) (operations : List Operation) :
    (Run.after calls).graph.outline.Steps ((Run.after calls).graph.answers operations).1
      ((Run.after calls).graph.answers operations).2.outline :=
  steps_answers (Run.holds_wellFormed calls).1 operations

/-- On a circle that came with a document, disconnecting a node of it takes two lines away and empties
both lists. -/
theorem steps_after_circle : ∃ answer : Except Fault Outcome, ∃ after : Graph,
    circleGraph.answers [.disconnect 2] = ([(.disconnect 2, answer)], after) ∧
      circleGraph.childIds 1 = [2] ∧ answer = .ok (.removed 2) ∧
      after.childIds 1 = [] ∧ after.childIds 2 = [] := by
  have hkids : circleGraph.childIds 1 = [2] := by
    rw [Graph.childIds, children_of_ordered (by decide)]
    decide
  have hanswer : ((Operation.disconnect 2).apply circleGraph).1 = .ok (.removed 2) := rfl
  have hsteps := steps_after [.load circle] [.disconnect 2]
  rw [graph_after_circle] at hsteps
  have hafter : ((Operation.disconnect 2).apply circleGraph).2.outline =
      circleGraph.outline.detach 2 := by
    cases hsteps with
    | cons hstep hrest =>
        cases hrest
        exact (hanswer ▸ hstep : circleGraph.outline.Step _ (.ok (.removed 2)) _).eq_detach.2
  have hlists := congrArg Outline.kids hafter
  refine ⟨_, _, rfl, hkids, hanswer, (congrFun hlists 1).trans ?_, congrFun hlists 2⟩
  change (circleGraph.childIds 1).filter (· ≠ 2) = []
  rw [hkids]
  rfl

end BehaviorTree
