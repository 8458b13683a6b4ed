import BehaviorTree.Proofs.Graph.Run
import BehaviorTree.Proofs.Lua.Exported
import BehaviorTree.Proofs.Lua.Separators
import BehaviorTree.Proofs.Reference

/-! # Graphs that can be exported

An export reads the texts of some attributes as numbers, and a number between separators cannot be
read (`Separated`).  It also logs what it does, and an id with too many digits has no text that could
be logged (`Loggable`).  Nothing else makes an export fail once the root is found: a graph is exported
exactly if no node that is written has such a text and the log entries can be written
(`scriptText_iff`).

Each part of an export returns if the texts that it reads can be read (`ReadsIf`) and the connections
that it leaves out can be named, so the export returns if this holds of all the nodes that it
visits. -/

namespace BehaviorTree

open BehaviorTree.Text BehaviorTree.Decimal

namespace Lua

namespace Exporter

variable (e : Exporter)

/-! ### Attributes -/

theorem readsIf_policyLeaf (text : String) :
    ReadsIf (Clear (e.resolver.resolve text).default?) (e.policyLeaf text) := by
  unfold policyLeaf
  cases h : e.resolver.resolve text with
  | literal name => exact .of_ok clear_none
  | reference key default => exact readsIf_ofResolved (.reference key default)

theorem readsIf_subtreeLeaf (text : String) :
    ReadsIf (Clear (e.resolver.resolve text).default?) (e.subtreeLeaf text) := by
  unfold subtreeLeaf
  cases h : e.resolver.resolve text with
  | literal name => exact .of_ok clear_none
  | reference key default => exact readsIf_ofResolved (.reference key default)

theorem readsIf_paramLeaf (text : String) :
    ReadsIf (Clear (e.resolver.resolve text).text?) (e.paramLeaf text) := by
  unfold paramLeaf
  cases h : e.resolver.resolve text with
  | literal value =>
      dsimp only
      split_ifs with hempty
      · obtain rfl := String.isEmpty_iff.1 hempty
        exact .of_ok clear_empty
      · exact readsIf_ofResolved (.literal value)
  | reference key default => exact readsIf_ofResolved (.reference key default)

theorem readsIf_functionLeaf (text : String) :
    ReadsIf (Clear (e.resolver.resolve text).default?) (e.functionLeaf text) := by
  unfold functionLeaf
  by_cases href : isReference text = true
  · rw [parseValue_of_isReference href]
    have hleaf := e.readsIf_leafOf text
    rw [Resolver.resolve_of_isReference href] at hleaf ⊢
    exact hleaf
  · rw [Bool.not_eq_true] at href
    rw [Resolver.resolve_of_not_isReference href]
    have hplain : ∀ key, parseValue text true ≠ .reference key := by
      intro key h
      unfold parseValue at h
      rw [if_neg (by simp [href])] at h
      split at h <;> cases h
    cases hvalue : parseValue text true with
    | reference key => exact absurd hvalue (hplain key)
    | rawPath path => exact .of_ok clear_none
    | literal name => exact .of_ok clear_none

/-- An attribute that is empty is not written, and there is nothing to read. -/
theorem readsIf_attributeEntry (name : String) {text : String} {leaf : String → Except Fault Leaf}
    {P : Prop} (hempty : text = "" → P) (hleaf : ReadsIf P (leaf text)) :
    ReadsIf P (attributeEntry name text leaf) := by
  unfold attributeEntry
  split_ifs with h
  · exact .of_ok (hempty (String.isEmpty_iff.1 h))
  · exact hleaf.map

theorem clear_default?_empty {text : String} (h : text = "") :
    Clear (e.resolver.resolve text).default? := by
  rw [h, Resolver.resolve_empty]
  exact clear_none

theorem clear_text?_empty {text : String} (h : text = "") :
    Clear (e.resolver.resolve text).text? := by
  rw [h, Resolver.resolve_empty]
  exact clear_empty

theorem readsIf_paramEntry (param : Param) :
    ReadsIf (param.name ≠ "" → Clear (e.resolver.resolve param.value).text?)
      (e.paramEntry param) := by
  unfold paramEntry
  split_ifs with hempty
  · exact .of_ok fun hname => absurd (String.isEmpty_iff.1 hempty) hname
  · have hname : param.name ≠ "" := fun hname => hempty (String.isEmpty_iff.2 hname)
    exact (e.readsIf_paramLeaf param.value).map.congr (imp_iff_right hname).symm

theorem readsIf_paramsEntry (node : Node) :
    ReadsIf (∀ param ∈ node.params.getD [], param.name ≠ "" →
      Clear (e.resolver.resolve param.value).text?) (e.paramsEntry node) := by
  unfold paramsEntry
  split
  · rename_i hnil
    rw [hnil]
    exact .of_ok nofun
  · exact (ReturnsIf.mapM fun param _ => e.readsIf_paramEntry param).map

/-! ### Nodes -/

/-- The texts that an export of a node reads as numbers: those of the details and of the arguments,
and where an attribute is a reference, the default of its key. -/
inductive Converts (e : Exporter) (node : Node) : String → Prop
  | func {s : String} (h : s ∈ (e.resolver.resolve node.func).default?) : Converts e node s
  | policy {s : String} (h : s ∈ (e.resolver.resolve node.policy).default?) : Converts e node s
  | subtree {s : String} (hd : node.decorator = some .subtreeRef)
      (h : s ∈ (e.resolver.resolve (node.detailText .subtree)).default?) : Converts e node s
  | detail {d : Detail} {key s : String} (hkey : (d, key) ∈ detailKeys)
      (h : s ∈ (e.resolver.resolve (node.detailText d)).text?) : Converts e node s
  | argument {param : Param} {s : String} (hmem : param ∈ node.params.getD [])
      (hname : param.name ≠ "") (h : s ∈ (e.resolver.resolve param.value).text?) : Converts e node s

theorem readsIf_subtreeEntry (node : Node) :
    ReadsIf (node.decorator = some .subtreeRef →
      Clear (e.resolver.resolve (node.detailText .subtree)).default?) (e.subtreeEntry node) := by
  unfold subtreeEntry
  split_ifs with hd
  · have hleaf := e.readsIf_subtreeLeaf (node.detailText .subtree)
    exact (readsIf_attributeEntry _ e.clear_default?_empty hleaf).congr (imp_iff_right hd).symm
  · exact .of_ok fun hcon => absurd hcon hd

/-- **The table of a node** is written unless a text cannot be read. -/
theorem readsIf_head (node : Node) :
    ReadsIf (∀ s, e.Converts node s → ¬ Separated s) (e.head node) := by
  have hfunc := readsIf_attributeEntry "func" e.clear_default?_empty
    (e.readsIf_functionLeaf node.func)
  have hpolicy := readsIf_attributeEntry "policy" e.clear_default?_empty
    (e.readsIf_policyLeaf node.policy)
  have hdetails : ReadsIf (∀ pair ∈ detailKeys,
      Clear (e.resolver.resolve (node.detailText pair.1)).text?)
      (detailKeys.mapM fun pair => attributeEntry pair.2 (node.detailText pair.1) e.leafOf) :=
    .mapM fun pair _ => readsIf_attributeEntry pair.2 e.clear_text?_empty
      (e.readsIf_leafOf (node.detailText pair.1))
  have hsubtree := e.readsIf_subtreeEntry node
  refine (hfunc.bind fun _ _ => (e.readsIf_paramsEntry node).bind fun _ _ =>
    hpolicy.bind fun _ _ => hdetails.bind fun _ _ => hsubtree.map).congr ?_
  constructor
  · rintro ⟨hfunc, hparams, hpolicy, hdetails, hsubtree⟩ s hs
    cases hs with
    | func h => exact hfunc s h
    | policy h => exact hpolicy s h
    | subtree hd h => exact hsubtree hd s h
    | detail hkey h => exact hdetails _ hkey s h
    | argument hmem hname h => exact hparams _ hmem hname s h
  · intro h
    refine ⟨fun s hs => h s (.func hs), fun param hmem hname s hs => h s (.argument hmem hname hs),
      fun s hs => h s (.policy hs), ?_, fun hd s hs => h s (.subtree hd hs)⟩
    intro pair hkey s hs
    exact h s (.detail hkey hs)

/-! ### Trees -/

/-- The connections that are left out on the way down from a node, as their targets stand above their
sources. -/
inductive LeavesOut (e : Exporter) (main : Bool) : List Int → Node → Int → Int → Prop
  | here {path : List Int} {node child : Node} (h : child ∈ e.shownChildren main node.id)
      (hpath : child.id ∈ path) : LeavesOut e main path node node.id child.id
  | inside {path : List Int} {node child : Node} {source target : Int}
      (h : child ∈ e.writtenChildren main path node.id)
      (hbelow : LeavesOut e main (child.id :: path) child source target) :
      LeavesOut e main path node source target

/-- The nodes that are visited from a node can be written, and the connections that are left out on
the way can be logged. -/
structure WritableBelow (e : Exporter) (main : Bool) (path : List Int) (node : Node) : Prop where
  texts : ∀ other, e.Visits main path node other → ∀ s, e.Converts other s → ¬ Separated s
  skips : ∀ source target, e.LeavesOut main path node source target →
    isWritable source = true ∧ isWritable target = true

/-- What can be written below a node is what can be written of it and of its children. -/
theorem writableBelow_iff {main : Bool} {path : List Int} {node : Node} :
    e.WritableBelow main path node ↔ (∀ s, e.Converts node s → ¬ Separated s) ∧
      ∀ child ∈ e.shownChildren main node.id,
        (child.id ∈ path → isWritable node.id = true ∧ isWritable child.id = true) ∧
        (child.id ∉ path → e.WritableBelow main (child.id :: path) child) := by
  constructor
  · intro h
    refine ⟨h.texts node (.self path node), fun child hchild => ⟨?_, ?_⟩⟩
    · exact fun hpath => h.skips _ _ (.here hchild hpath)
    · intro hpath
      have hwritten := mem_writtenChildren_iff.2 ⟨hchild, hpath⟩
      exact ⟨fun other hvisits => h.texts other (.child hwritten hvisits),
        fun source target hskip => h.skips source target (.inside hwritten hskip)⟩
  · rintro ⟨hnode, hchildren⟩
    have hbelow : ∀ child ∈ e.writtenChildren main path node.id,
        e.WritableBelow main (child.id :: path) child := by
      intro child hwritten
      obtain ⟨hchild, hpath⟩ := mem_writtenChildren_iff.1 hwritten
      exact (hchildren child hchild).2 hpath
    constructor
    · intro other hvisits
      cases hvisits with
      | self => exact hnode
      | child hwritten hvisits => exact (hbelow _ hwritten).texts other hvisits
    · intro source target hskip
      cases hskip with
      | here hchild hpath => exact (hchildren _ hchild).1 hpath
      | inside hwritten hskip => exact (hbelow _ hwritten).skips source target hskip

/-- The faults of an export once the root is found: a text that cannot be read, and an id that
cannot be logged. -/
def Misses (fault : Fault) : Prop := fault = .unreadableNumber ∨ fault = .integerTooLong

theorem misses_of_unreadable (fault : Fault) (h : fault = .unreadableNumber) : Misses fault :=
  Or.inl h

/-- A log entry is written if each of its numbers can be. -/
theorem returnsIf_logEntry (numbers : List Int) :
    ReturnsIf Misses (∀ n ∈ numbers, isWritable n = true) (logEntry numbers) := by
  unfold logEntry
  split_ifs with h
  · exact .of_ok (List.all_eq_true.1 h)
  · exact .of_error (Or.inr rfl) fun hall => h (List.all_eq_true.2 hall)

/-- **A body** is written if everything below the node can be. -/
theorem returnsIf_bodyOn (main : Bool) (path : List Int) (node : Node) :
    ReturnsIf Misses (e.WritableBelow main path node) (e.bodyOn main path node) := by
  induction path, node using written_induct e main with
  | step path node ih =>
      have hchild : ∀ child ∈ e.shownChildren main node.id, ReturnsIf Misses
          ((child.id ∈ path → isWritable node.id = true ∧ isWritable child.id = true) ∧
            (child.id ∉ path → e.WritableBelow main (child.id :: path) child))
          (e.childBody? main path node.id child) := by
        intro child hchild
        unfold childBody?
        by_cases hpath : child.id ∈ path
        · rw [if_pos hpath]
          refine (returnsIf_logEntry [node.id, child.id]).map.congr ?_
          simp [hpath]
        · rw [if_neg hpath]
          have hbody := ih child (mem_writtenChildren_iff.2 ⟨hchild, hpath⟩)
          exact hbody.fmap.congr (by simp [hpath])
      rw [bodyOn_eq]
      have hhead := (e.readsIf_head node).mono misses_of_unreadable
      refine (hhead.bind fun _ _ => (ReturnsIf.mapM hchild).map).congr ?_
      rw [writableBelow_iff]

/-- The tree below a node can be written. -/
def WritableTree (e : Exporter) (main : Bool) (node : Node) : Prop :=
  e.WritableBelow main [node.id] node

/-- The trees of the subtree holders can be written. -/
def WritableSubtrees (e : Exporter) : Prop :=
  ∀ holder ∈ e.graph.ofKind .subtree, ∀ child ∈ (e.graph.children holder.id).head?,
    child.kind ≠ .blackboard → e.WritableTree false child

theorem returnsIf_holderBody? (holder : Node) :
    ReturnsIf Misses (∀ child ∈ (e.graph.children holder.id).head?, child.kind ≠ .blackboard →
      e.WritableTree false child) (Script.holderBody? e holder) := by
  unfold Script.holderBody?
  cases e.graph.children holder.id with
  | nil =>
      refine .of_ok ?_
      simp
  | cons child rest =>
      have hbody : ReturnsIf Misses (e.WritableTree false child)
          (some <$> e.bodyOn false [child.id] child) :=
        (e.returnsIf_bodyOn false [child.id] child).fmap
      simp only [List.head?_cons, Option.mem_some_iff, forall_eq', body?]
      split_ifs with hkind
      · exact .of_ok fun hcon => absurd hkind hcon
      · exact hbody.congr (imp_iff_right hkind).symm

theorem returnsIf_subtreesOf : ReturnsIf Misses e.WritableSubtrees (Script.subtreesOf e) :=
  (ReturnsIf.mapM fun holder _ => (e.returnsIf_holderBody? holder).map).map

/-! ### What an export visits -/

/-- The nodes that an export with a root writes: those visited from the root, and those visited from
the first child of a subtree holder, unless it is a blackboard. -/
inductive Exports (e : Exporter) (root : Node) : Node → Prop
  | main {node : Node} (h : e.Visits (!(e.graph.ofKind .subtree).isEmpty) [root.id] root node) :
      Exports e root node
  | subtree {holder child node : Node} (hholder : holder ∈ e.graph.ofKind .subtree)
      (hchild : child ∈ (e.graph.children holder.id).head?) (hkind : child.kind ≠ .blackboard)
      (h : e.Visits false [child.id] child node) : Exports e root node

/-- The connections that an export with a root leaves out as cyclic. -/
inductive Omits (e : Exporter) (root : Node) : Int → Int → Prop
  | main {source target : Int}
      (h : e.LeavesOut (!(e.graph.ofKind .subtree).isEmpty) [root.id] root source target) :
      Omits e root source target
  | subtree {holder child : Node} {source target : Int} (hholder : holder ∈ e.graph.ofKind .subtree)
      (hchild : child ∈ (e.graph.children holder.id).head?) (hkind : child.kind ≠ .blackboard)
      (h : e.LeavesOut false [child.id] child source target) : Omits e root source target

/-- The log entries of an export can be written: the id of the root, the number of names of trees
beside the main tree, and the ends of the connections that are left out. -/
structure Loggable (e : Exporter) (root : Node) : Prop where
  start : isWritable root.id = true
  trees : isWritable (e.graph.treeHolders.map fun holder => trim holder.name).dedup.length = true
  omitted : ∀ source target, e.Omits root source target →
    isWritable source = true ∧ isWritable target = true

theorem length_subtreesOf {subtrees : List (String × Table Leaf)}
    (h : Script.subtreesOf e = .ok subtrees) :
    subtrees.length = (e.graph.treeHolders.map fun holder => trim holder.name).dedup.length := by
  obtain ⟨trees, htrees, rfl⟩ := Script.exists_trees h
  rw [Keyed.length_filled, Script.map_fst_of_hasTree htrees]

/-- What an export with a root can write, tree by tree. -/
theorem writable_iff (root : Node) :
    ((∀ node, e.Exports root node → ∀ s, e.Converts node s → ¬ Separated s) ∧
      e.Loggable root) ↔
      e.WritableTree (!(e.graph.ofKind .subtree).isEmpty) root ∧ e.WritableSubtrees ∧
        isWritable root.id = true ∧
        isWritable (e.graph.treeHolders.map fun holder => trim holder.name).dedup.length = true := by
  constructor
  · rintro ⟨htexts, hlog⟩
    refine ⟨⟨fun node h => htexts node (.main h), fun _ _ h => hlog.omitted _ _ (.main h)⟩, ?_,
      hlog.start, hlog.trees⟩
    intro holder hholder child hchild hkind
    exact ⟨fun node h => htexts node (.subtree hholder hchild hkind h),
      fun _ _ h => hlog.omitted _ _ (.subtree hholder hchild hkind h)⟩
  · rintro ⟨hmain, hsubtrees, hroot, htrees⟩
    refine ⟨fun node hnode => ?_, hroot, htrees, fun source target hskip => ?_⟩
    · cases hnode with
      | main h => exact hmain.texts node h
      | subtree hholder hchild hkind h => exact (hsubtrees _ hholder _ hchild hkind).texts node h
    · cases hskip with
      | main h => exact hmain.skips source target h
      | subtree hholder hchild hkind h =>
          exact (hsubtrees _ hholder _ hchild hkind).skips source target h

end Exporter

theorem kind_of_scriptRoot {g : Graph} {root : Node} (h : g.scriptRoot = .ok root) :
    root.kind ≠ .blackboard := by
  unfold Graph.scriptRoot at h
  dsimp only at h
  split_ifs at h
  split at h
  · rename_i hboard
    obtain rfl := Except.ok.inj h
    obtain ⟨board, -, hfirst⟩ := List.exists_of_findSome?_eq_some hboard
    have hkind := List.find?_some hfirst
    exact of_decide_eq_true hkind
  · rename_i hothers
    have hroot : root ∈ g.roots.filter fun node => node.kind ≠ .blackboard := by
      rw [hothers, Except.ok.inj h]
      exact List.mem_cons_self
    exact of_decide_eq_true (List.mem_filter.1 hroot).2
  · cases h

/-- The steps of an export once the root is found. -/
theorem Script.ofGraph_of_root {g : Graph} {root : Node} (h : g.scriptRoot = .ok root)
    (modulePath : String) : ofGraph g modulePath = do
      let body ← (Exporter.ofGraph g modulePath).bodyOn (!(g.ofKind .subtree).isEmpty) [root.id] root
      let subtrees ← subtreesOf (Exporter.ofGraph g modulePath)
      logEntry [root.id, subtrees.length]
      return ⟨root.id, body, subtrees⟩ := by
  have hkind := kind_of_scriptRoot h
  unfold ofGraph
  rw [h]
  change (Exporter.body? _ _ root >>= _) = _
  rw [Exporter.body?, if_neg hkind]
  cases (Exporter.ofGraph g modulePath).bodyOn (!(g.ofKind .subtree).isEmpty) [root.id] root with
  | error fault => rfl
  | ok body => rfl

/-- **An export with a root** returns if the texts of the nodes that are written can be read and the
log entries can be written. -/
theorem returnsIf_scriptText {g : Graph} {root : Node} (h : g.scriptRoot = .ok root)
    (modulePath indent : String) :
    ReturnsIf Exporter.Misses ((∀ node, (Exporter.ofGraph g modulePath).Exports root node →
      ∀ s, (Exporter.ofGraph g modulePath).Converts node s → ¬ Separated s) ∧
        (Exporter.ofGraph g modulePath).Loggable root)
      (scriptText g modulePath indent) := by
  unfold scriptText
  refine ReturnsIf.map ?_
  rw [Script.ofGraph_of_root h]
  let e := Exporter.ofGraph g modulePath
  have hlog : ∀ subtrees, Script.subtreesOf e = .ok subtrees →
      ReturnsIf Exporter.Misses (isWritable root.id = true ∧
          isWritable (e.graph.treeHolders.map fun holder => trim holder.name).dedup.length = true)
        (logEntry [root.id, subtrees.length]) := by
    intro subtrees hsubtrees
    refine (Exporter.returnsIf_logEntry _).congr ?_
    rw [e.length_subtreesOf hsubtrees]
    simp
  refine ((e.returnsIf_bodyOn _ [root.id] root).bind fun _ _ =>
    e.returnsIf_subtreesOf.bind fun subtrees hsubtrees => (hlog subtrees hsubtrees).map).congr ?_
  exact (e.writable_iff root).symm

/-- **When a graph is exported**: where the root selection succeeds, a text is returned for any
module path and any indentation, exactly if no text that is read for a node that is written is a
number between separators, and the log entries can be written.  The only faults besides those of the
root selection are that of such a number and that of an id with too many digits. -/
theorem scriptText_iff (g : Graph) (modulePath indent : String) :
    ((∀ root, g.scriptRoot = .ok root → ∃ text, scriptText g modulePath indent = .ok text) ↔
      ∀ root, g.scriptRoot = .ok root →
        (∀ node, (Exporter.ofGraph g modulePath).Exports root node →
          ∀ s, (Exporter.ofGraph g modulePath).Converts node s → ¬ Separated s) ∧
        (Exporter.ofGraph g modulePath).Loggable root) ∧
    ∀ fault, scriptText g modulePath indent = .error fault →
      fault = .unreadableNumber ∨ fault = .integerTooLong ∨
        ∃ failure, g.scriptRoot = .error failure ∧ fault = .exporting failure := by
  constructor
  · refine forall_congr' fun root => forall_congr' fun hroot => ?_
    exact (returnsIf_scriptText hroot modulePath indent).exists_iff
  · intro fault h
    cases hroot : g.scriptRoot with
    | ok root =>
        exact ((returnsIf_scriptText hroot modulePath indent).faultsIn fault h).imp_right Or.inl
    | error failure =>
        have hfailed : scriptText g modulePath indent = .error (.exporting failure) := by
          simp [scriptText, Script.ofGraph, hroot, Except.mapError, bind, Except.bind]
        rw [hfailed] at h
        exact Or.inr (Or.inr ⟨failure, rfl, (Except.error.inj h).symm⟩)

/-- A decorator is made to wait for as long as a text says. -/
def waiting (text : String) : List Call :=
  [.create .decorator, .operate (.setDecorator 1 "WAIT"),
    .operate (.updateNode 1 [("wait_duration", text)])]

theorem separated_five : Separated "\x1c5" :=
  ⟨by decide, by decide⟩

/-- **A number behind a separator** is set without a fault, and the graph has a root, but there is no
text of it. -/
theorem not_exported_separated :
    (∃ root, (Run.after (waiting "\x1c5")).graph.scriptRoot = .ok root) ∧
      ∀ modulePath indent, scriptText (Run.after (waiting "\x1c5")).graph modulePath indent =
        .error .unreadableNumber := by
  have hfound : (Run.after (waiting "\x1c5")).graph.scriptRoot.toOption.map
      (fun root => root.detailText .waitDuration) = some "\x1c5" := by
    decide
  obtain ⟨root, hsome, hwait⟩ := Option.map_eq_some_iff.1 hfound
  have hroot := toOption_eq_some_iff.1 hsome
  refine ⟨⟨root, hroot⟩, fun modulePath indent => ?_⟩
  have href : isReference "\x1c5" = false := by decide
  have hread : "\x1c5" ∈ ((Exporter.ofGraph (Run.after (waiting "\x1c5")).graph
      modulePath).resolver.resolve (root.detailText .waitDuration)).text? := by
    rw [hwait, Resolver.resolve_of_not_isReference href]
    exact congrArg some (by decide)
  have hkey : (Detail.waitDuration, "wait_duration") ∈ detailKeys := by decide
  have hhead : (Exporter.ofGraph (Run.after (waiting "\x1c5")).graph modulePath).head root =
      .error .unreadableNumber := by
    rcases Exporter.readsIf_head _ root with ⟨hclear, -⟩ | ⟨-, fault, hfault, herror⟩
    · exact absurd separated_five (hclear _ (.detail hkey hread))
    · rw [herror, hfault]
  rw [scriptText, Script.ofGraph_of_root hroot, Exporter.bodyOn_eq, hhead]
  rfl

end Lua
end BehaviorTree
