import BehaviorTree.Graph.Basic

/-!
# Traversal

The nodes below a node in preorder, each once, also in graphs with cycles and shared children. The
traversal keeps a stack of ids still to visit and a list of ids already visited; it ends because
each visit of an id with successors takes one from the sources not yet visited.

* `preorder`: the traversal over any successor function.
* `Graph.reaches`: whether a path leads from one id to another.
* `Graph.descendants`: a node and all nodes below it.
-/

namespace BehaviorTree

/-- How many of the sources are not visited. -/
def unvisited (sources visited : List Int) : Nat := sources.countP fun id => id ∉ visited

theorem unvisited_source (head : Int) (tail visited : List Int) :
    unvisited (head :: tail) visited =
      unvisited tail visited + if head ∈ visited then 0 else 1 := by
  by_cases h : head ∈ visited <;> simp [unvisited, h]

theorem unvisited_cons_le (sources visited : List Int) (id : Int) :
    unvisited sources (id :: visited) ≤ unvisited sources visited := by
  apply List.countP_mono_left
  simp only [decide_eq_true_eq, List.mem_cons, not_or]
  exact fun _ _ h => h.2

theorem unvisited_cons_lt {sources visited : List Int} {id : Int} (hs : id ∈ sources)
    (hv : id ∉ visited) : unvisited sources (id :: visited) < unvisited sources visited := by
  induction sources with
  | nil => simp at hs
  | cons head tail ih =>
    have hle := unvisited_cons_le tail visited id
    rw [unvisited_source, unvisited_source]
    by_cases hhead : head = id
    · subst hhead
      simp only [List.mem_cons, true_or, if_true, hv, if_false]
      omega
    · have htail : id ∈ tail := (List.mem_cons.1 hs).resolve_left (Ne.symm hhead)
      have := ih htail
      by_cases hseen : head ∈ visited
      · simp only [List.mem_cons, hseen, or_true, if_true]; omega
      · simp only [List.mem_cons, hseen, hhead, or_self, if_false]; omega

/-- Visits the ids on the stack and what follows from them, depth first: an id is listed when it is
first met, and its successors come before the rest of the stack. Only the given sources have
successors. -/
def preorder (next : Int → List Int) (sources : List Int) (stack visited : List Int) : List Int :=
  match stack with
  | [] => []
  | id :: rest =>
    if id ∈ visited then preorder next sources rest visited
    else if id ∈ sources then
      id :: preorder next sources (next id ++ rest) (id :: visited)
    else id :: preorder next sources rest (id :: visited)
termination_by (unvisited sources visited, stack.length)
decreasing_by
  · exact Prod.Lex.right _ (by simp)
  · exact Prod.Lex.left _ _ (unvisited_cons_lt ‹_› ‹_›)
  · have := unvisited_cons_le sources visited id
    rcases Nat.lt_or_eq_of_le this with h | h
    · exact Prod.Lex.left _ _ h
    · rw [h]; exact Prod.Lex.right _ (by simp)

namespace Graph

/-- The ids that connections leave. -/
def sources (g : Graph) : List Int := g.connections.map (·.source)

/-- The targets of the connections out of an id, in list order. -/
def targets (g : Graph) (id : Int) : List Int :=
  (g.connections.filter fun c => c.source = id).map (·.target)

/-- The ids of a node's children, in the order in which they run. -/
def childIds (g : Graph) (id : Int) : List Int := (g.children id).map (·.id)

/-- Whether a path of connections, perhaps empty, leads from one id to another. -/
def reaches (g : Graph) (start goal : Int) : Bool :=
  goal ∈ preorder g.targets g.sources [start] []

/-- The ids of a node and of all nodes below it, parents before children. -/
def descendantIds (g : Graph) (id : Int) : List Int := preorder g.childIds g.sources [id] []

/-- A node and all nodes below it, in preorder. -/
def descendants (g : Graph) (id : Int) : Except Fault (List Node) := do
  let _ ← g.get id
  return (g.descendantIds id).filterMap g.find?

end Graph
end BehaviorTree
