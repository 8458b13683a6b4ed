import BehaviorTree.Proofs.Graph.Effect
import BehaviorTree.Proofs.Graph.Run

/-! # The world

A node is meant to lie inside the world.  Whatever the numbers are, infinite or undefined ones among
them, clamping gives a position there (`inWorld_place`), and every operation that makes or moves a
node clamps: after an operation a node lies inside the world or where one has been before
(`Graph.settles_apply`).

Imports take positions as they are.  So a node outside the world stands where some import of the run
has put one (`Run.holds_placed`), and all graphs of a run lie inside the world exactly when all that
it imports do (`inWorld_iff`). -/

namespace BehaviorTree

open Float.Model

/-! ### Clamping -/

theorem Decimal.le_of_lt {x y : Float} (h : x < y) : x ≤ y := by
  have hcases : ∀ {f f' : UnpackedFloat}, f.lt f' = true → f.le f' = true := by
    intro f f' hlt
    have hcompare : f.compare f' = some .lt := by simpa [UnpackedFloat.lt] using hlt
    rw [UnpackedFloat.le, hcompare]
    rfl
  exact decide_eq_true (hcases (of_decide_eq_true h))

/-- Clamping ends between the bounds, for all numbers and for what is no number. -/
theorem clamp_mem {low high : Float} (hlow : low ≤ low) (hhigh : high ≤ high) (h : low ≤ high)
    (x : Float) : low ≤ clamp low high x ∧ clamp low high x ≤ high := by
  have hcapped : (if x < high then x else high) ≤ high := by
    split_ifs with hx
    · exact Decimal.le_of_lt hx
    · exact hhigh
  unfold clamp
  dsimp only
  generalize (if x < high then x else high) = capped at hcapped ⊢
  split_ifs with hlt
  · exact ⟨Decimal.le_of_lt hlt, hcapped⟩
  · exact ⟨hlow, h⟩

/-- Where a node stands. -/
def Node.position (node : Node) : Float × Float := (node.x, node.y)

/-- The positions at which a node lies inside the world. -/
def InWorld (position : Float × Float) : Prop :=
  (-2000.0 ≤ position.1 ∧ position.1 ≤ 1820.0) ∧ -2000.0 ≤ position.2 ∧ position.2 ≤ 1920.0

instance (position : Float × Float) : Decidable (InWorld position) := by
  unfold InWorld
  infer_instance

theorem inWorld_clampPosition (x y : Float) : InWorld (clampPosition x y) := by
  have hx : worldMax - nodeWidth = 1820.0 := by decide
  have hy : worldMax - nodeHeight = 1920.0 := by decide
  rw [clampPosition, hx, hy]
  exact ⟨clamp_mem (by decide) (by decide) (by decide) x,
    clamp_mem (by decide) (by decide) (by decide) y⟩

theorem inWorld_place (node : Node) (x y : Float) : InWorld (Graph.place node x y).position :=
  inWorld_clampPosition x y

namespace Graph

/-- All nodes of a graph lie inside the world. -/
def InWorld (g : Graph) : Prop := ∀ node ∈ g.nodes, BehaviorTree.InWorld node.position

instance (g : Graph) : Decidable g.InWorld := by
  unfold InWorld
  infer_instance

/-! ### What operations do -/

/-- Every node of the second graph lies inside the world or where a node of the first graph does. -/
def Settles (g g' : Graph) : Prop :=
  ∀ node ∈ g'.nodes,
    BehaviorTree.InWorld node.position ∨ ∃ old ∈ g.nodes, old.position = node.position

namespace Settles

variable {g g' g'' : Graph}

theorem of_subset (h : g'.nodes ⊆ g.nodes) : g.Settles g' :=
  fun node hnode => Or.inr ⟨node, h hnode, rfl⟩

theorem refl (g : Graph) : g.Settles g := of_subset (List.Subset.refl _)

theorem trans (h : g.Settles g') (h' : g'.Settles g'') : g.Settles g'' := by
  intro node hnode
  rcases h' node hnode with hin | ⟨old, hold, he⟩
  · exact Or.inl hin
  · rw [← he]
    exact h old hold

/-- A node comes inside the world. -/
theorem append {node : Node} (h : BehaviorTree.InWorld node.position) :
    g.Settles (g.append node) := by
  intro other hother
  rcases List.mem_append.1 hother with hother | hother
  · exact Or.inr ⟨other, hother, rfl⟩
  · rw [List.mem_singleton.1 hother]
    exact Or.inl h

theorem replace {node : Node}
    (h : BehaviorTree.InWorld node.position ∨ ∃ old ∈ g.nodes, old.position = node.position) :
    g.Settles (g.replace node) := by
  intro other hother
  obtain ⟨old, hold, rfl⟩ := List.mem_map.1 hother
  split_ifs
  · exact h
  · exact Or.inr ⟨old, hold, rfl⟩

/-- A node that was asked for changes, but stays where it is. -/
theorem replace_of_get {id : Int} {node changed : Node} (h : g.get id = .ok node)
    (he : changed.position = node.position) : g.Settles (g.replace changed) :=
  replace (Or.inr ⟨node, (mem_of_find? (get_eq_ok_iff.1 h)).1, he.symm⟩)

/-- Nodes inside the world take the places of others, one after the other. -/
theorem foldl_replace {changed : List Node}
    (h : ∀ node ∈ changed, BehaviorTree.InWorld node.position) (g : Graph) :
    g.Settles (changed.foldl Graph.replace g) := by
  induction changed generalizing g with
  | nil => exact refl g
  | cons node rest ih =>
      have hfirst : g.Settles (g.replace node) := replace (Or.inl (h node List.mem_cons_self))
      exact hfirst.trans (ih (fun other ho => h other (List.mem_cons_of_mem _ ho)) _)

end Settles

theorem position_setDetail (node : Node) (value : String) (d : Detail) :
    (node.setDetail value d).position = node.position := by
  cases d <;> rfl

theorem position_set (node : Node) (value : String) (which : Attribute) :
    (which.set node value).position = node.position := by
  cases which with
  | detail d => exact position_setDetail node value d
  | _ => rfl

section edits

variable {g g' : Graph} {id : Int}

theorem settles_updateNode {edits : List (String × String)} {node : Node}
    (h : g.updateNode id edits = .ok (node, g')) : g.Settles g' := by
  obtain ⟨old, hold, h⟩ := bind_eq_ok_iff.1 h
  obtain ⟨attributes, -, h⟩ := bind_eq_ok_iff.1 h
  obtain ⟨rfl, rfl⟩ := Prod.mk.inj (Except.ok.inj h)
  refine Settles.replace_of_get hold ?_
  exact List.foldlRecOn (motive := fun changed => changed.position = old.position) _ _ rfl
    fun changed hchanged (edit : Attribute × String) _ =>
      (position_set changed edit.2 edit.1).trans hchanged

theorem settles_setDecorator {kindText : String} {node : Node}
    (h : g.setDecorator id kindText = .ok (node, g')) : g.Settles g' := by
  obtain ⟨old, hold, h⟩ := bind_eq_ok_iff.1 h
  split at h
  · cases h
  · obtain ⟨kind, -, h⟩ := bind_eq_ok_iff.1 h
    obtain ⟨rfl, rfl⟩ := Prod.mk.inj (Except.ok.inj h)
    refine Settles.replace_of_get hold ?_
    exact List.foldlRecOn (motive := fun changed => changed.position = old.position) Detail.all _
      rfl fun changed hchanged d _ => (position_setDetail changed "" d).trans hchanged

theorem settles_moveNode {x y : Number} {node : Node}
    (h : g.moveNode id x y = .ok (node, g')) : g.Settles g' := by
  obtain ⟨old, -, h⟩ := bind_eq_ok_iff.1 h
  obtain ⟨x, -, h⟩ := bind_eq_ok_iff.1 h
  obtain ⟨y, -, h⟩ := bind_eq_ok_iff.1 h
  obtain ⟨rfl, rfl⟩ := Prod.mk.inj (Except.ok.inj h)
  exact Settles.replace (Or.inl (inWorld_place old x y))

theorem settles_moveWithDescendants {dx dy : Number} {nodes : List Node}
    (h : g.moveWithDescendants id dx dy = .ok (nodes, g')) : g.Settles g' := by
  obtain ⟨group, -, h⟩ := bind_eq_ok_iff.1 h
  obtain ⟨dx, -, h⟩ := bind_eq_ok_iff.1 h
  obtain ⟨dy, -, h⟩ := bind_eq_ok_iff.1 h
  obtain ⟨rfl, rfl⟩ := Prod.mk.inj (Except.ok.inj h)
  refine Settles.foldl_replace (fun moved hmoved => ?_) g
  obtain ⟨old, -, rfl⟩ := List.mem_map.1 hmoved
  exact inWorld_place old _ _

theorem settles_editParams (id : Int) (change : List Param → Except Fault (Param × List Param)) :
    g.Settles (g.editParams id change).2 := by
  unfold editParams
  split
  · exact .refl g
  · rename_i node h
    dsimp only
    split <;> exact Settles.replace_of_get (paramOwner_eq_ok_iff.1 h).1 rfl

theorem settles_editFields (id : Int) (change : List Field → Except Fault (Field × List Field)) :
    g.Settles (g.editFields id change).2 := by
  unfold editFields
  split
  · exact .refl g
  · rename_i node h
    dsimp only
    split <;> exact Settles.replace_of_get (blackboard_eq_ok_iff.1 h).1 rfl

end edits

theorem settles_attempt {α : Type} {g : Graph} {wrap : α → Outcome}
    {result : Except Fault (α × Graph)} (h : ∀ a g', result = .ok (a, g') → g.Settles g') :
    g.Settles (Operation.attempt g wrap result).2 := by
  cases result with
  | error fault => exact .refl g
  | ok answer => exact h answer.1 answer.2 rfl

theorem settles_createNode {g g' : Graph} {kindText name : String} {x y : Number} {node : Node}
    (h : g.createNode kindText x y name = .ok (node, g')) : g.Settles g' := by
  obtain ⟨kind, -, h⟩ := bind_eq_ok_iff.1 h
  obtain ⟨x, -, h⟩ := bind_eq_ok_iff.1 h
  obtain ⟨y, -, h⟩ := bind_eq_ok_iff.1 h
  obtain ⟨rfl, rfl⟩ := Prod.mk.inj (Except.ok.inj h)
  exact Settles.append (inWorld_clampPosition x y)

theorem settles_pasteNode {g g' : Graph} {copied node : Node}
    (h : g.pasteNode copied = .ok (node, g')) : g.Settles g' := by
  obtain ⟨name, -, h⟩ := bind_eq_ok_iff.1 h
  obtain ⟨rfl, rfl⟩ := Prod.mk.inj (Except.ok.inj h)
  exact Settles.append (inWorld_clampPosition _ _)

/-- **After an operation** a node lies inside the world or where one has been before. -/
theorem settles_apply (operation : Operation) (g : Graph) : g.Settles (operation.apply g).2 := by
  rw [Operation.graph_apply]
  cases operation with
  | createNode kind x y name => exact settles_attempt fun _ _ h => settles_createNode h
  | deleteNode id =>
      refine settles_attempt fun _ _ h => ?_
      obtain ⟨node, -, h⟩ := bind_eq_ok_iff.1 h
      obtain ⟨rfl, rfl⟩ := Prod.mk.inj (Except.ok.inj h)
      exact .of_subset fun _ hnode => List.mem_of_mem_filter hnode
  | connect source target fromPoint toPoint =>
      simp only [Operation.carryOut, connect]
      split <;> exact .of_subset (List.Subset.refl _)
  | disconnect id =>
      refine settles_attempt fun _ _ h => ?_
      obtain ⟨node, -, h⟩ := bind_eq_ok_iff.1 h
      obtain ⟨rfl, rfl⟩ := Prod.mk.inj (Except.ok.inj h)
      exact .of_subset (List.Subset.refl _)
  | reorderChildren parent a b =>
      simp only [Operation.carryOut, reorderChildren]
      split_ifs <;> exact .of_subset (List.Subset.refl _)
  | updateNode id edits => exact settles_attempt fun _ _ h => settles_updateNode h
  | setDecorator id kind => exact settles_attempt fun _ _ h => settles_setDecorator h
  | moveNode id x y => exact settles_attempt fun _ _ h => settles_moveNode h
  | moveWithDescendants id dx dy => exact settles_attempt fun _ _ h => settles_moveWithDescendants h
  | addParam id name value => exact settles_editParams id _
  | updateParam id index name value => exact settles_editParams id _
  | removeParam id index => exact settles_editParams id _
  | addField id key value comment => exact settles_editFields id _
  | updateField id index key value comment => exact settles_editFields id _
  | removeField id index => exact settles_editFields id _
  | pasteNode copied => exact settles_attempt fun _ _ h => settles_pasteNode h
  | clear => exact .of_subset (List.nil_subset _)

end Graph

/-! ### Runs -/

/-- A node outside the world stands where an import of the run has put one. -/
theorem Run.holds_placed (calls : List Call) :
    (Run.after calls).Holds fun g => ∀ node ∈ g.nodes, InWorld node.position ∨
      ∃ value imported, Call.load value ∈ calls ∧ Graph.ofJson value = .ok imported ∧
        ∃ old ∈ imported.nodes, old.position = node.position := by
  refine Run.holds_after (fun _ hnode => absurd hnode List.not_mem_nil) calls ?_ ?_
  · intro before operation _ hbefore node hnode
    rcases Graph.settles_apply operation _ node hnode with hin | ⟨old, hold, he⟩
    · exact Or.inl hin
    · rw [← he]
      exact hbefore.1 old hold
  · intro value imported hmem hread node hnode
    exact Or.inr ⟨value, imported, hmem, hread, node, hnode, rfl⟩

/-- **The world.**  All graphs that a run passes through lie inside the world exactly when all that
it imports do. -/
theorem inWorld_iff (calls : List Call) :
    (∀ before, before <+: calls → (Run.after before).graph.InWorld) ↔
      ∀ value imported, Call.load value ∈ calls → Graph.ofJson value = .ok imported →
        imported.InWorld := by
  constructor
  · intro h value imported hmem hread
    obtain ⟨before, rest, hcalls⟩ := List.append_of_mem hmem
    have hbefore : before ++ [.load value] <+: calls := ⟨rest, by simp [hcalls]⟩
    have hgraph : (Run.after (before ++ [.load value])).graph = imported := by
      rw [Run.after_append]
      exact Call.result_load_of_ok _ hread
    rw [← hgraph]
    exact h _ hbefore
  · intro h before hbefore node hnode
    rcases (Run.holds_placed before).1 node hnode with
      hin | ⟨value, imported, hmem, hread, old, hold, he⟩
    · exact hin
    · rw [← he]
      exact h value imported (hbefore.subset hmem) hread old hold

/-- The import of one node to the right of the world. -/
def strayImport : Json :=
  .object [("nodes", .array [.object [("id", .number (.int 1)), ("type", .text "ACTION"),
    ("x", .number (.int 5000))]])]

/-- The import leaves its node where it is. -/
theorem not_inWorld_strayImport :
    ∃ node ∈ (Run.after [.load strayImport]).graph.nodes, ¬ InWorld node.position := by
  decide

end BehaviorTree
