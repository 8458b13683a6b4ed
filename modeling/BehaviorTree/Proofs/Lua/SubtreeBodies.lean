import BehaviorTree.Proofs.Graph.Numbering
import BehaviorTree.Proofs.Keyed
import BehaviorTree.Proofs.Lua.Exported
import BehaviorTree.Proofs.Validation.Errors

/-! # The trees beside the main tree

A script keeps the trees of its subtree holders by their trimmed names, and of holders with one name
the last counts (`Script.value?_subtrees`).

A graph without an error about duplicate names may still have several holders without a name.  So
its script has one tree for each holder exactly if at most one holder of a tree has a blank name
(`Script.one_tree_each_iff`). -/

namespace BehaviorTree

open BehaviorTree.Text

/-- The holder whose tree counts for a name: the last one with that name. -/
def Graph.keeper? (g : Graph) (name : String) : Option Node :=
  Keyed.find? (fun holder => trim holder.name) name g.treeHolders.reverse

theorem Graph.exists_keeper {g : Graph} {holder : Node} (h : holder ∈ g.treeHolders) :
    ∃ keeper, g.keeper? (trim holder.name) = some keeper := by
  refine Option.isSome_iff_exists.1 (List.find?_isSome.2 ⟨holder, List.mem_reverse.2 h, ?_⟩)
  exact decide_eq_true rfl

namespace Lua.Script

variable {e : Exporter}

/-- The names of a script are those of the holders with a tree, each once. -/
theorem nodup_names {subtrees : List (String × Table Leaf)} (h : subtreesOf e = .ok subtrees) :
    (subtrees.map Prod.fst).Nodup := by
  obtain ⟨trees, -, rfl⟩ := exists_trees h
  exact Keyed.nodup_filled trees

theorem rel_find?_of_hasTree {holders : List Node} {trees : List (String × Table Leaf)}
    (h : List.Forall₂ (HasTree e) holders trees) (name : String) :
    Option.Rel (HasTree e) (Keyed.find? (fun holder => trim holder.name) name holders)
      (Keyed.find? Prod.fst name trees) := by
  induction h with
  | nil => exact .none
  | @cons holder tree holders trees hfirst hrest ih =>
      rw [Keyed.find?_cons, Keyed.find?_cons, hfirst.1]
      split_ifs
      · exact .some hfirst
      · exact ih

/-- **The tree of a name** is that of the last holder with that name. -/
theorem value?_subtrees {subtrees : List (String × Table Leaf)} (h : subtreesOf e = .ok subtrees)
    {name : String} {keeper : Node} (hkeeper : e.graph.keeper? name = some keeper) :
    ∃ body, holderBody? e keeper = .ok (some body) ∧
      Keyed.value? name subtrees = some body := by
  obtain ⟨trees, htrees, rfl⟩ := exists_trees h
  have hrel := rel_find?_of_hasTree (List.rel_reverse htrees) name
  rw [Graph.keeper?] at hkeeper
  rw [hkeeper] at hrel
  rw [Keyed.value?, Keyed.find?_filled]
  cases hfound : Keyed.find? Prod.fst name trees.reverse with
  | none => rw [hfound] at hrel; cases hrel
  | some tree =>
      rw [hfound] at hrel
      cases hrel with
      | some htree => exact ⟨tree.2, htree.2, rfl⟩

end Lua.Script

/-! ### Names without duplicates -/

/-- Items that are distinct but for one of them. -/
theorem nodup_iff_of_nodup_filter {α : Type} [DecidableEq α] {a : α} {items : List α}
    (h : (items.filter fun item => item ≠ a).Nodup) : items.Nodup ↔ items.count a ≤ 1 := by
  rw [List.nodup_iff_count_le_one]
  refine ⟨fun hall => hall a, fun hone item => ?_⟩
  by_cases hitem : item = a
  · rwa [hitem]
  · rw [← List.count_filter (p := fun item => decide (item ≠ a)) (by simpa using hitem)]
    exact List.nodup_iff_count_le_one.1 h item

namespace Graph

variable {g : Graph}

theorem map_fst_subtreeNames (g : Graph) : (Validation.subtreeNames g).map Prod.fst =
    ((g.ofKind .subtree).map fun node => trim node.name).filter fun name => name ≠ "" := by
  rw [Validation.subtreeNames, List.filter_map, List.map_map, List.filter_map]
  refine congrArg₂ List.map rfl (List.filter_congr fun node _ => ?_)
  rw [Bool.eq_iff_iff]
  simp

/-- Where no name is reported, the holders with a tree have distinct names exactly if at most one of
the names is blank. -/
theorem nodup_treeHolders_iff (h : ∀ issue ∈ g.errors, issue.code ≠ "E2006") :
    (g.treeHolders.map fun holder => trim holder.name).Nodup ↔
      (g.treeHolders.filter fun holder => Validation.isBlankText holder.name).length ≤ 1 := by
  have hnamed : ((g.treeHolders.map fun holder => trim holder.name).filter
      fun name => name ≠ "").Nodup := by
    have hclean : ((Validation.subtreeNames g).map Prod.fst).Nodup := by
      by_contra hdup
      obtain ⟨issue, hissue, hcode⟩ := exists_duplicateName_iff.2 hdup
      exact h issue hissue hcode
    rw [map_fst_subtreeNames] at hclean
    exact hclean.sublist ((List.filter_sublist.map _).filter _)
  rw [nodup_iff_of_nodup_filter hnamed, List.count, List.countP_map, List.countP_eq_length_filter]
  refine iff_of_eq (congrArg (fun holders => List.length holders ≤ 1)
    (List.filter_congr fun holder _ => ?_))
  rw [Bool.eq_iff_iff]
  simp [Validation.isBlankText, String.isEmpty_iff]

end Graph

namespace Lua

/-- **Which scripts have a tree for each holder.**  Where no name is reported as a duplicate, the
trees of a script are those of the holders, one by one, exactly if at most one holder with a tree
has a blank name; there are fewer trees otherwise.  The names of the trees are distinct in any
case. -/
theorem Script.one_tree_each_iff {g : Graph} {warned : Bool} {report : Report}
    (hreport : g.validate warned = .ok report)
    (hnames : ∀ issue ∈ report.issues, issue.code ≠ "E2006") {modulePath : String} {script : Script}
    (hscript : Script.ofGraph g modulePath = .ok script) :
    (script.subtrees.map Prod.fst).Nodup ∧
    (List.Forall₂ (fun holder entry => entry.1 = trim holder.name ∧
        ∃ child rest, g.children holder.id = child :: rest ∧
          (Exporter.ofGraph g modulePath).body? false child = .ok (some entry.2))
        g.treeHolders script.subtrees ↔
      (g.treeHolders.filter fun holder => Validation.isBlankText holder.name).length ≤ 1) ∧
    (script.subtrees.length = g.treeHolders.length ↔
      (g.treeHolders.filter fun holder => Validation.isBlankText holder.name).length ≤ 1) := by
  rw [Graph.issues_of_validate hreport] at hnames
  obtain ⟨root, -, -, -, hsubtrees, -⟩ := ofGraph_eq_ok_iff.1 hscript
  obtain ⟨trees, (htrees : List.Forall₂ _ g.treeHolders trees), hfilled⟩ := exists_trees hsubtrees
  have hkeys := map_fst_of_hasTree htrees
  have hdistinct : (trees.map Prod.fst).Nodup ↔
      (g.treeHolders.filter fun holder => Validation.isBlankText holder.name).length ≤ 1 := by
    rw [hkeys]
    exact Graph.nodup_treeHolders_iff hnames
  refine ⟨nodup_names hsubtrees, ?_, ?_⟩
  · rw [← hdistinct]
    constructor
    · intro hall
      have hown : List.Forall₂ (HasTree (Exporter.ofGraph g modulePath)) g.treeHolders
          script.subtrees :=
        hall.imp fun holder entry hentry => ⟨hentry.1, holderBody?_eq_some_iff.2 hentry.2⟩
      rw [hkeys]
      exact map_fst_of_hasTree hown ▸ nodup_names hsubtrees
    · intro hnodup
      rw [hfilled, Keyed.filled_eq_self_iff.2 hnodup]
      exact htrees.imp fun holder tree htree => ⟨htree.1, holderBody?_eq_some_iff.1 htree.2⟩
  · rw [← hdistinct, hfilled, ← Keyed.length_filled_iff, htrees.length_eq]

/-! ### Two holders -/

/-- An action whose function is called like itself. -/
def namedAction (id : Int) (name : String) : Node :=
  { id := id, kind := .action, name := name, func := name }

/-- The table of such an action. -/
def namedActionTable (name : String) : Table Leaf :=
  [leafEntry "type" (.member .nodeType "ACTION"), leafEntry "name" (.scalar (.text name)),
    leafEntry "func" (.module name)]

/-- An action that idles, and two subtrees with some names that step aside. -/
def twoHolders (first second : String) : Graph where
  nodes := [namedAction 1 "idle", { id := 2, kind := .subtree, name := first },
    namedAction 3 "left", { id := 4, kind := .subtree, name := second }, namedAction 5 "right"]
  connections := [{ source := 2, target := 3 }, { source := 4, target := 5 }]
  nextId := 6

/-- What is exported of it. -/
def twoHoldersScript (first second : String) : Script where
  root := 1
  main := namedActionTable "idle"
  subtrees := Keyed.filled Prod.fst
    [(trim first, namedActionTable "left"), (trim second, namedActionTable "right")]

theorem ofKind_twoHolders (first second : String) : (twoHolders first second).ofKind .subtree =
    [{ id := 2, kind := .subtree, name := first }, { id := 4, kind := .subtree, name := second }] :=
  rfl

theorem children_twoHolders (first second : String) :
    (twoHolders first second).children 2 = [namedAction 3 "left"] ∧
      (twoHolders first second).children 4 = [namedAction 5 "right"] :=
  ⟨Graph.children_of_ordered (List.pairwise_singleton _ _),
    Graph.children_of_ordered (List.pairwise_singleton _ _)⟩

theorem treeHolders_twoHolders (first second : String) : (twoHolders first second).treeHolders =
    [{ id := 2, kind := .subtree, name := first },
      { id := 4, kind := .subtree, name := second }] := by
  obtain ⟨hfirst, hsecond⟩ := children_twoHolders first second
  rw [Graph.treeHolders, ofKind_twoHolders]
  simp [hfirst, hsecond, namedAction]

theorem ofGraph_twoHolders (first second : String) :
    Script.ofGraph (twoHolders first second) "" = .ok (twoHoldersScript first second) := by
  obtain ⟨hfirst, hsecond⟩ := children_twoHolders first second
  have hchildless : ∀ {id}, id ≠ 2 → id ≠ 4 → (twoHolders first second).children id = [] :=
    fun h2 h4 => Graph.children_of_none (by simpa [twoHolders] using ⟨Ne.symm h2, Ne.symm h4⟩)
  have hleft : Script.holderBody? (Exporter.ofGraph (twoHolders first second) "")
      { id := 2, kind := .subtree, name := first } = .ok (some (namedActionTable "left")) :=
    Script.holderBody?_eq_some_iff.2 ⟨_, [], hfirst, Exporter.body?_eq_some_iff.2
      ⟨by decide, Exporter.bodyOn_of_childless rfl (hchildless (by decide) (by decide))⟩⟩
  have hright : Script.holderBody? (Exporter.ofGraph (twoHolders first second) "")
      { id := 4, kind := .subtree, name := second } = .ok (some (namedActionTable "right")) :=
    Script.holderBody?_eq_some_iff.2 ⟨_, [], hsecond, Exporter.body?_eq_some_iff.2
      ⟨by decide, Exporter.bodyOn_of_childless rfl (hchildless (by decide) (by decide))⟩⟩
  have hlog : logEntry [1, ((twoHoldersScript first second).subtrees.length : Int)] = .ok () := by
    have hcounts : ∀ count ∈ List.range 3, logEntry [1, (count : Int)] = .ok () := by decide
    exact hcounts _ (List.mem_range.2 (Nat.lt_succ_of_le (Keyed.length_filled_le _)))
  refine Script.ofGraph_eq_ok_iff.2 ⟨namedAction 1 "idle", rfl, rfl, ?_, ?_, hlog⟩
  · exact Exporter.body?_eq_some_iff.2
      ⟨by decide, Exporter.bodyOn_of_childless rfl (hchildless (by decide) (by decide))⟩
  · have hholders : (Exporter.ofGraph (twoHolders first second) "").graph.ofKind .subtree =
        [{ id := 2, kind := .subtree, name := first },
          { id := 4, kind := .subtree, name := second }] := rfl
    rw [Script.subtreesOf, hholders, List.mapM_cons, List.mapM_cons, hleft, hright]
    rfl

/-- Two subtrees with names of their own. -/
theorem Script.one_tree_each_iff_named :
    ((twoHoldersScript "Left" "Right").subtrees.map Prod.fst).Nodup ∧
    (List.Forall₂ (fun holder entry => entry.1 = trim holder.name ∧
        ∃ child rest, (twoHolders "Left" "Right").children holder.id = child :: rest ∧
          (Exporter.ofGraph (twoHolders "Left" "Right") "").body? false child =
            .ok (some entry.2))
        (twoHolders "Left" "Right").treeHolders (twoHoldersScript "Left" "Right").subtrees ↔
      ((twoHolders "Left" "Right").treeHolders.filter fun holder =>
        Validation.isBlankText holder.name).length ≤ 1) ∧
    ((twoHoldersScript "Left" "Right").subtrees.length =
        (twoHolders "Left" "Right").treeHolders.length ↔
      ((twoHolders "Left" "Right").treeHolders.filter fun holder =>
        Validation.isBlankText holder.name).length ≤ 1) := by
  have hreport : (twoHolders "Left" "Right").validate true = .ok {} := by decide
  exact Script.one_tree_each_iff hreport (List.forall_mem_nil _) (ofGraph_twoHolders _ _)

/-- **Two subtrees without a name** are no error, and the script has the tree of one only. -/
theorem Script.tree_lost :
    (twoHolders " " "  ").validate true = .ok {} ∧
      Script.ofGraph (twoHolders " " "  ") "" = .ok (twoHoldersScript " " "  ") ∧
      (twoHolders " " "  ").treeHolders.length = 2 ∧
      (twoHoldersScript " " "  ").subtrees = [("", namedActionTable "right")] := by
  refine ⟨by decide, ofGraph_twoHolders _ _, ?_, rfl⟩
  rw [treeHolders_twoHolders]
  rfl

end Lua
end BehaviorTree
