import BehaviorTree.Proofs.Document.Loaded
import BehaviorTree.Proofs.Graph.Success

/-! # Calls that fail

A call that fails or is refused should leave the graph as it was.  Two kinds of operations do not.
One asks for an item of a list that its node may have but was never given, as it can be after an
import: the node then gets an empty list before the item is missed (`SeeksUnset`).  The other has
been carried out when its log entry cannot be written (`BreaksOff`).  Any other operation that fails
leaves the graph alone (`Operation.unchanged_iff`).

The document value of a graph tells its nodes and connections (`Graph.toJson_injective`), so what
holds of graphs holds of their document values and next ids. -/

namespace BehaviorTree

open BehaviorTree.Graph BehaviorTree.Text

/-! ### What a document value tells -/

/-- Reading a node back loses only the signs of zero coordinates, and these can be seen in its
document value. -/
theorem Node.toJson_injective {node other : Node} (h : node.toJson = other.toJson) :
    node = other := by
  have hread : nodeOf node.toJson = nodeOf other.toJson := congrArg nodeOf h
  rw [← Node.toJson_entry, ← Node.toJson_entry, nodeOf_toJson, nodeOf_toJson, Node.node_entry,
    Node.node_entry, Except.ok.injEq] at hread
  have hplace : node.x = other.x ∧ node.y = other.y := by
    simp only [Node.toJson, Json.object.injEq, List.cons_append, List.cons.injEq, Prod.mk.injEq,
      Json.number.injEq, Number.float.injEq, true_and] at h
    exact ⟨h.2.2.2.1, h.2.2.2.2.1⟩
  calc node = { node.plain with x := node.x, y := node.y } := rfl
    _ = { other.plain with x := other.x, y := other.y } := by rw [hread, hplace.1, hplace.2]
    _ = other := rfl

theorem Connection.toJson_injective {c d : Connection} (h : c.toJson = d.toJson) : c = d := by
  cases c
  cases d
  simpa [Connection.toJson] using h

namespace Graph

/-- **A document value tells the nodes and connections of its graph.** -/
theorem toJson_injective {g g' : Graph} (h : g.toJson = g'.toJson) :
    g.nodes = g'.nodes ∧ g.connections = g'.connections := by
  simp only [toJson, Json.list, Json.object.injEq, List.cons.injEq, Prod.mk.injEq,
    Json.array.injEq, true_and, and_true] at h
  exact ⟨List.map_injective_iff.2 (fun _ _ => Node.toJson_injective) h.1,
    List.map_injective_iff.2 (fun _ _ => Connection.toJson_injective) h.2⟩

/-- A graph is told by its document value and its next id. -/
theorem eq_iff_toJson {g g' : Graph} :
    g = g' ↔ g.toJson = g'.toJson ∧ g.nextId = g'.nextId := by
  constructor
  · rintro rfl
    exact ⟨rfl, rfl⟩
  · rintro ⟨hjson, hnext⟩
    obtain ⟨hnodes, hconnections⟩ := toJson_injective hjson
    obtain ⟨nodes, connections, nextId⟩ := g
    cases g'
    simp_all

end Graph

/-! ### Failing operations -/

/-- Whether an answer is a rejection. -/
def Outcome.isRejected : Outcome → Bool
  | connected (.rejected _) | reordered (.rejected _) => true
  | _ => false

/-- A call fails if it ends in a fault or is rejected. -/
def Fails (answer : Except Fault Outcome) : Prop :=
  ∀ outcome, answer = .ok outcome → outcome.isRejected = true

theorem fails_error (fault : Fault) : Fails (.error fault) := fun _ h => by cases h

theorem fails_ok_iff {outcome : Outcome} : Fails (.ok outcome) ↔ outcome.isRejected = true := by
  constructor
  · intro h
    exact h outcome rfl
  · intro h other hother
    rwa [← Except.ok.inj hother]

namespace Operation

variable {g : Graph}

/-- The operation asks for an item of a list that its node may have but was never given. -/
def SeeksUnset (g : Graph) : Operation → Prop
  | updateParam id _ _ _ | removeParam id _ =>
    ∃ node, g.find? id = some node ∧ node.acceptsParams = true ∧ node.params = none
  | updateField id _ _ _ _ | removeField id _ =>
    ∃ node, g.find? id = some node ∧ node.kind = .blackboard ∧ node.fields = none
  | _ => False

/-- The operation has changed the graph when a number of its log entry turns out too long to be
written. -/
def BreaksOff (g : Graph) (operation : Operation) : Prop :=
  ∃ outcome, (operation.carryOut g).1 = .ok outcome ∧ (operation.carryOut g).2 ≠ g ∧
    ∃ n ∈ operation.logged g outcome, isWritable n = false

/-- What is rejected is not carried out, so only its log entry can fail. -/
theorem fails_apply_iff {operation : Operation} :
    Fails (operation.apply g).1 ↔ Fails (operation.carryOut g).1 ∨
      ∃ outcome, (operation.carryOut g).1 = .ok outcome ∧
        ∃ n ∈ operation.logged g outcome, isWritable n = false := by
  have happly : (operation.apply g).1 = (operation.carryOut g).1 >>= operation.log g := rfl
  rw [happly]
  cases (operation.carryOut g).1 with
  | error fault => exact iff_of_true (fails_error fault) (Or.inl (fails_error fault))
  | ok outcome =>
      have hbind : (Except.ok outcome >>= operation.log g) = operation.log g outcome := rfl
      rw [hbind, fails_ok_iff]
      unfold log
      split_ifs with hall
      · rw [fails_ok_iff]
        rw [List.all_eq_true] at hall
        constructor
        · intro h
          exact Or.inl h
        · rintro (h | ⟨other, hother, n, hn, hlong⟩)
          · exact h
          · obtain rfl := Except.ok.inj hother
            simp [hall n hn] at hlong
      · simp only [fails_error, true_iff]
        refine Or.inr ⟨outcome, rfl, ?_⟩
        simpa using hall

end Operation

/-! ### Lists of a node -/

namespace Graph

variable {g : Graph} {id : Int}

/-- Putting a node in its own place changes nothing, and any other node with its id is a change. -/
theorem replace_eq_self_iff (hn : (g.nodes.map (·.id)).Nodup) {node changed : Node}
    (hfind : g.find? id = some node) (hid : changed.id = node.id) :
    g.replace changed = g ↔ changed = node := by
  obtain ⟨hnode, -⟩ := mem_of_find? hfind
  constructor
  · intro h
    have hnodes : (g.replace changed).nodes = g.nodes.map fun other => other := by
      rw [h, List.map_id']
    simpa [hid] using List.map_inj_left.1 hnodes node hnode
  · rintro rfl
    have hnodes : (g.replace changed).nodes = g.nodes.map fun other => other := by
      refine List.map_congr_left fun other hother => ?_
      split_ifs with hsame
      · exact (List.inj_on_of_nodup_map hn hother hnode hsame).symm
      · rfl
    rw [List.map_id'] at hnodes
    calc g.replace changed = { g with nodes := (g.replace changed).nodes } := rfl
      _ = g := by rw [hnodes]

/-- A list that is set in place of none is a change. -/
theorem some_getD_eq_iff {α : Type} {items : Option (List α)} :
    some (items.getD []) = items ↔ items ≠ none := by
  cases items <;> simp

/-- An edit of arguments that fails leaves a trace exactly on a node that has no list for them. -/
theorem editParams_eq_self_iff (hn : (g.nodes.map (·.id)).Nodup)
    {change : List Param → Except Fault (Param × List Param)} {fault : Fault}
    (h : (g.editParams id change).1 = .error fault) : (g.editParams id change).2 = g ↔
      ¬ ∃ node, g.find? id = some node ∧ node.acceptsParams = true ∧ node.params = none := by
  simp only [← and_assoc, ← get_eq_ok_iff, ← paramOwner_eq_ok_iff]
  unfold editParams at h ⊢
  cases howner : g.paramOwner id with
  | error _ => simp
  | ok node =>
      have hfind := get_eq_ok_iff.1 (paramOwner_eq_ok_iff.1 howner).1
      have hkept : g.replace { node with params := some (node.params.getD []) } = g ↔
          { node with params := some (node.params.getD []) } = node :=
        replace_eq_self_iff hn hfind rfl
      have hset : { node with params := some (node.params.getD []) } = node ↔ node.params ≠ none := by
        rw [← some_getD_eq_iff]
        exact ⟨fun hsame => congrArg Node.params hsame, fun hsame => by rw [hsame]⟩
      rw [howner] at h
      dsimp only at h ⊢
      split at h
      · simpa using hkept.trans hset
      · cases h

/-- An edit of fields that fails leaves a trace exactly on a node that has no list for them. -/
theorem editFields_eq_self_iff (hn : (g.nodes.map (·.id)).Nodup)
    {change : List Field → Except Fault (Field × List Field)} {fault : Fault}
    (h : (g.editFields id change).1 = .error fault) : (g.editFields id change).2 = g ↔
      ¬ ∃ node, g.find? id = some node ∧ node.kind = .blackboard ∧ node.fields = none := by
  simp only [← and_assoc, ← get_eq_ok_iff, ← blackboard_eq_ok_iff]
  unfold editFields at h ⊢
  cases howner : g.blackboard id with
  | error _ => simp
  | ok node =>
      have hfind := get_eq_ok_iff.1 (blackboard_eq_ok_iff.1 howner).1
      have hkept : g.replace { node with fields := some (node.fields.getD []) } = g ↔
          { node with fields := some (node.fields.getD []) } = node :=
        replace_eq_self_iff hn hfind rfl
      have hset : { node with fields := some (node.fields.getD []) } = node ↔ node.fields ≠ none := by
        rw [← some_getD_eq_iff]
        exact ⟨fun hsame => congrArg Node.fields hsame, fun hsame => by rw [hsame]⟩
      rw [howner] at h
      dsimp only at h ⊢
      split at h
      · simpa using hkept.trans hset
      · cases h

end Graph

/-! ### Operations that fail -/

namespace Operation

variable {g : Graph}

/-- A call of its own that fails leaves the graph alone. -/
theorem attempt_of_fails {α : Type} {wrap : α → Outcome} (hwrap : ∀ a, (wrap a).isRejected = false)
    {result : Except Fault (α × Graph)} (h : Fails (attempt g wrap result).1) :
    (attempt g wrap result).2 = g := by
  cases result with
  | error fault => rfl
  | ok answer =>
      have hrejected := fails_ok_iff.1 h
      rw [hwrap] at hrejected
      cases hrejected

theorem fails_answer_iff {α : Type} {wrap : α → Outcome}
    (hwrap : ∀ a, (wrap a).isRejected = false) {edited : Graph.Edited α} :
    Fails (answer wrap edited).1 ↔ ∃ fault, edited.1 = .error fault := by
  obtain ⟨result, g'⟩ := edited
  cases result with
  | error fault => exact iff_of_true (fails_error fault) ⟨fault, rfl⟩
  | ok a =>
      have hanswer : (answer wrap (.ok a, g')).1 = .ok (wrap a) := rfl
      rw [hanswer, fails_ok_iff, hwrap]
      simp

/-- An operation that seeks an item where its node has no list misses it. -/
theorem SeeksUnset.fails {operation : Operation} (h : SeeksUnset g operation) :
    Fails (operation.carryOut g).1 := by
  cases operation with
  | updateParam id index name value | removeParam id index =>
      obtain ⟨node, hfind, haccepts, hunset⟩ := h
      have howner := paramOwner_eq_ok_iff.2 ⟨get_eq_ok_iff.2 hfind, haccepts⟩
      refine (fails_answer_iff fun _ => rfl).2 ⟨(Fault.noParam index).raised, ?_⟩
      simp [Graph.updateParam, Graph.removeParam, editParams, howner, hunset, item?]
  | updateField id index key value comment | removeField id index =>
      obtain ⟨node, hfind, hkind, hunset⟩ := h
      have howner := blackboard_eq_ok_iff.2 ⟨get_eq_ok_iff.2 hfind, hkind⟩
      refine (fails_answer_iff fun _ => rfl).2 ⟨(Fault.noField index).raised, ?_⟩
      simp [Graph.updateField, Graph.removeField, editFields, howner, hunset, item?]
  | _ => exact h.elim

/-- **An operation that fails before its log entry** leaves a trace exactly if it seeks an item where
its node has no list. -/
theorem carryOut_eq_self_iff (hn : (g.nodes.map (·.id)).Nodup) {operation : Operation}
    (h : Fails (operation.carryOut g).1) :
    (operation.carryOut g).2 = g ↔ ¬ SeeksUnset g operation := by
  cases operation with
  | createNode | deleteNode | disconnect | updateNode | setDecorator | moveNode
  | moveWithDescendants | pasteNode => exact iff_of_true (attempt_of_fails (fun _ => rfl) h) id
  | connect source target fromPoint toPoint =>
      refine iff_of_true ?_ id
      simp only [carryOut, Graph.connect] at h ⊢
      cases hcheck : g.checkConnect source target with
      | some rejection => rfl
      | none =>
          rw [hcheck] at h
          cases fails_ok_iff.1 h
  | reorderChildren parent a b =>
      refine iff_of_true ?_ id
      simp only [carryOut, Graph.reorderChildren] at h ⊢
      split_ifs at h ⊢
      · rfl
      · rfl
      · cases fails_ok_iff.1 h
  | clear => cases fails_ok_iff.1 h
  | addParam id name value =>
      obtain ⟨fault, hfault⟩ := (fails_answer_iff fun _ => rfl).1 h
      refine iff_of_true ?_ not_false
      refine (editParams_eq_self_iff hn hfault).2 ?_
      rintro ⟨node, hfind, haccepts, -⟩
      have howner := paramOwner_eq_ok_iff.2 ⟨get_eq_ok_iff.2 hfind, haccepts⟩
      simp [Graph.addParam, editParams, howner] at hfault
  | addField id key value comment =>
      obtain ⟨fault, hfault⟩ := (fails_answer_iff fun _ => rfl).1 h
      refine iff_of_true ?_ not_false
      refine (editFields_eq_self_iff hn hfault).2 ?_
      rintro ⟨node, hfind, hkind, -⟩
      have howner := blackboard_eq_ok_iff.2 ⟨get_eq_ok_iff.2 hfind, hkind⟩
      simp [Graph.addField, editFields, howner] at hfault
  | updateParam | removeParam =>
      obtain ⟨fault, hfault⟩ := (fails_answer_iff fun _ => rfl).1 h
      exact editParams_eq_self_iff hn hfault
  | updateField | removeField =>
      obtain ⟨fault, hfault⟩ := (fails_answer_iff fun _ => rfl).1 h
      exact editFields_eq_self_iff hn hfault

/-- **An operation that fails leaves the graph as it was**, unless it seeks an item where its node
has no list or breaks off at its log entry. -/
theorem unchanged_iff (hn : (g.nodes.map (·.id)).Nodup) (operation : Operation) :
    (Fails (operation.apply g).1 → (operation.apply g).2 = g) ↔
      ¬ SeeksUnset g operation ∧ ¬ BreaksOff g operation := by
  rw [fails_apply_iff, graph_apply]
  constructor
  · intro hkeeps
    refine ⟨fun hseeks => ?_, ?_⟩
    · have hfails := hseeks.fails
      exact (carryOut_eq_self_iff hn hfails).1 (hkeeps (Or.inl hfails)) hseeks
    · rintro ⟨outcome, hok, hchanged, hlong⟩
      exact hchanged (hkeeps (Or.inr ⟨outcome, hok, hlong⟩))
  · rintro ⟨hseeks, hbreaks⟩ (hfails | ⟨outcome, hok, hlong⟩)
    · exact (carryOut_eq_self_iff hn hfails).2 hseeks
    · by_contra hchanged
      exact hbreaks ⟨outcome, hok, hchanged, hlong⟩

end Operation

/-! ### Calls of a run -/

/-- A call of a run fails: an operation ends in a fault or is rejected, or a document is not
accepted. -/
def Call.Fails (run : Run) : Call → Prop
  | operate operation => BehaviorTree.Fails (operation.apply run.graph).1
  | load value => ∃ fault, Graph.ofJson value = .error fault
  | restore _ => False

/-- What a call of a run does not change: what is written of the graph, and its next id. -/
structure Call.LeavesUntouched (run : Run) (call : Call) : Prop where
  written : (call.result run).toJson = run.graph.toJson
  nextId : (call.result run).nextId = run.graph.nextId

theorem Call.leavesUntouched_iff {run : Run} {call : Call} :
    call.LeavesUntouched run ↔ call.result run = run.graph := by
  rw [Graph.eq_iff_toJson]
  exact ⟨fun h => ⟨h.written, h.nextId⟩, fun h => ⟨h.1, h.2⟩⟩

/-- **Calls that fail**: after any calls, imports among them, a further call that fails leaves what
is written of the graph and its next id as they were, exactly if it is no operation that seeks an
item of a list that its node was never given, and none that has been carried out, with a change,
when its log entry turns out to have a number that is too long to be written. -/
theorem Run.leavesUntouched_of_fails_iff (calls : List Call) (call : Call) :
    (call.Fails (after calls) → call.LeavesUntouched (after calls)) ↔
      ∀ operation, call = .operate operation →
        ¬ operation.SeeksUnset (after calls).graph ∧ ¬ operation.BreaksOff (after calls).graph := by
  rw [Call.leavesUntouched_iff]
  cases call with
  | operate operation =>
      have hn := (wellFormed_after calls).ids_nodup
      refine (Operation.unchanged_iff hn operation).trans ?_
      simp
  | load value =>
      refine iff_of_true ?_ (by simp)
      rintro ⟨fault, hfault⟩
      simp [Call.result, hfault, Except.toOption]
  | restore age => exact iff_of_true False.elim (by simp)

/-- A node is there although its creation fails, if its id is too long to be written. -/
theorem Operation.breaksOff_createNode {g : Graph} (kind : NodeKind)
    (h : isWritable g.nextId = false) :
    BreaksOff g (.createNode kind.text (.int 0) (.int 0) "") := by
  have hkind : parseKind kind.text = .ok kind := by
    simp [parseKind, NodeKind.ofText?_text]
  have hzero : coordinate (.int 0) = .ok 0 := by decide
  obtain ⟨node, hid, hcarried⟩ : ∃ node : Node, node.id = g.nextId ∧
      carryOut g (.createNode kind.text (.int 0) (.int 0) "") =
        (.ok (.node node), g.append node) := by
    refine ⟨freshNode g.nextId kind "" (clampPosition 0 0), rfl, ?_⟩
    simp only [carryOut, Graph.createNode, hkind, hzero]
    rfl
  refine ⟨.node node, ?_, ?_, node.id, List.mem_singleton_self _, hid ▸ h⟩
  · rw [hcarried]
  · rw [hcarried]
    intro hsame
    have hnext := congrArg Graph.nextId hsame
    simp [append] at hnext

/-- A document with one action, which has no list of arguments. -/
def bareAction (id : ℤ) : Json :=
  .object [("nodes", .array [.object [("id", .number (.int id)), ("type", .text "ACTION")]])]

theorem graph_after_bareAction (id : ℤ) : (Run.after [.load (bareAction id)]).graph =
    { nodes := [{ id := id, kind := .action }], nextId := id + 1 } := by
  have hread : Graph.ofJson (bareAction id) =
      .ok { nodes := [{ id := id, kind := .action }], nextId := id + 1 } := by
    rfl
  exact Call.result_load_of_ok {} hread

/-- Both kinds of operations that leave a trace when they fail. -/
theorem Run.fails_and_changes {calls : List Call} {operation : Operation}
    (h : operation.SeeksUnset (after calls).graph ∨ operation.BreaksOff (after calls).graph) :
    (Call.operate operation).Fails (after calls) ∧
      ¬ (Call.operate operation).LeavesUntouched (after calls) := by
  rw [Call.leavesUntouched_iff, ← Classical.not_imp]
  intro hkeeps
  have hn := (wellFormed_after calls).ids_nodup
  obtain ⟨hseeks, hbreaks⟩ := (Operation.unchanged_iff hn operation).1 hkeeps
  exact h.elim hseeks hbreaks

/-- An action that was imported without arguments gets an empty list when its first argument is
missed; and one that is created behind the greatest id that can be written stays although its
creation fails. -/
theorem Run.not_leavesUntouched_bareAction :
    ((Call.operate (.updateParam 1 0 none none)).Fails (after [.load (bareAction 1)]) ∧
      ¬ (Call.operate (.updateParam 1 0 none none)).LeavesUntouched
        (after [.load (bareAction 1)])) ∧
    ((Call.create .action).Fails (after [.load (bareAction (10 ^ numeralLimit - 1))]) ∧
      ¬ (Call.create .action).LeavesUntouched
        (after [.load (bareAction (10 ^ numeralLimit - 1))])) := by
  constructor
  · refine fails_and_changes (Or.inl ?_)
    rw [graph_after_bareAction]
    exact ⟨{ id := 1, kind := .action }, by decide, rfl, rfl⟩
  · refine fails_and_changes (Or.inr ?_)
    rw [graph_after_bareAction]
    refine Operation.breaksOff_createNode .action ?_
    rw [← Bool.not_eq_true, isWritable_iff_lt]
    simp

end BehaviorTree
