import BehaviorTree.Proofs.Lua.Exported
import BehaviorTree.Proofs.Reference
import BehaviorTree.Proofs.Text.Trimming
import BehaviorTree.Proofs.Validation.Errors
import BehaviorTree.Proofs.Validation.Warnings

/-! # Names of subtrees

A decorator refers to a subtree by a text, and the trees of a script stand under the trimmed names
of their holders.  A validation compares the trimmed text with these names, and the script has the
text itself, but for the backslash in front of an at sign.  So in a graph that is validated without
error and without a warning of an unknown subtree, the names that a script refers to are there just
for the texts that are `Plain` (`Script.subtrees_defined_iff`). -/

namespace BehaviorTree.Lua

open BehaviorTree.Text BehaviorTree.Validation

/-! ### The name that stands for a text -/

/-- The text of a reference to a subtree that a script refers to by a name of a holder, if the
holder is there: a text without blanks at its ends, or an escaped one with such a name in it. -/
def Plain (g : Graph) (text : String) : Prop :=
  if isEscaped text then dropFirst text ∈ g.holderNames else trim text = text

theorem ofResolved_reference_ne_text {key name : String} {value? : Option String} :
    Leaf.ofResolved (.reference key value?) ≠ .ok (.scalar (.text name)) := by
  unfold Leaf.ofResolved
  cases value? with
  | none => nofun
  | some value =>
      dsimp only
      split_ifs
      · nofun
      · intro h
        obtain ⟨s, -, h⟩ := bind_eq_ok_iff.1 h
        cases h

theorem Exporter.subtreeLeaf_eq_text_iff {e : Exporter} {text name : String} :
    e.subtreeLeaf text = .ok (.scalar (.text name)) ↔
      isReference text = false ∧ name = if isEscaped text then dropFirst text else text := by
  unfold subtreeLeaf
  by_cases href : isReference text = true
  · rw [Resolver.resolve_of_isReference href]
    simp [href, ofResolved_reference_ne_text]
  · have hfalse : isReference text = false := by simpa using href
    rw [Resolver.resolve_of_not_isReference hfalse]
    simp only [hfalse, true_and, Except.ok.injEq, Leaf.scalar.injEq, Scalar.text.injEq]
    exact eq_comm

/-- The subtree names among the leaves that a node is written with. -/
theorem Exporter.writes_subtreeName_iff {e : Exporter} {node : Node} {leaf : Leaf} :
    e.Writes node (.named "subtree_name") leaf ↔ node.decorator = some .subtreeRef ∧
      node.detailText .subtree ≠ "" ∧ e.subtreeLeaf (node.detailText .subtree) = .ok leaf := by
  have hkeys : ∀ pair ∈ detailKeys, pair.2 ≠ "subtree_name" := by decide
  constructor
  · intro h
    generalize hplace : Key.named "subtree_name" = place at h
    cases h with
    | own h =>
        cases h with
        | subtree hd hne h => exact ⟨hd, hne, h⟩
        | detail hkey => exact absurd (Key.named.inj hplace).symm (hkeys _ hkey)
        | _ => exact absurd hplace (by decide)
    | argument => cases hplace
  · rintro ⟨hd, hne, h⟩
    exact .own (.subtree hd hne h)

/-! ### The names of a script -/

/-- A subtree holder with a child that is written has its name in the script. -/
theorem Script.mem_names_iff {e : Exporter} {subtrees : List (String × Table Leaf)}
    (h : subtreesOf e = .ok subtrees)
    (hfirst : ∀ holder ∈ e.graph.ofKind .subtree, ∃ child rest,
      e.graph.children holder.id = child :: rest ∧ child.kind ≠ .blackboard) {name : String} :
    name ∈ subtrees.map Prod.fst ↔ name ∈ e.graph.holderNames := by
  simp only [Graph.holderNames, List.mem_map]
  constructor
  · rintro ⟨⟨name, body⟩, hmem, rfl⟩
    obtain ⟨holder, hholder, hname, -⟩ := exists_holder_of_mem h hmem
    exact ⟨holder, hholder, hname⟩
  · rintro ⟨holder, hholder, rfl⟩
    obtain ⟨child, rest, hchildren, hkind⟩ := hfirst holder hholder
    obtain ⟨answer, hanswer⟩ : ∃ answer, holderBody? e holder = .ok answer := by
      obtain ⟨bodies, hbodies, -⟩ := bind_eq_ok_iff.1 h
      obtain ⟨pair, -, hpair⟩ := exists_mem_of_mapM hbodies hholder
      obtain ⟨answer, hanswer, -⟩ := bind_eq_ok_iff.1 hpair
      exact ⟨answer, hanswer⟩
    have hbody : ∃ body, answer = some body := by
      simp only [holderBody?, hchildren, Exporter.body?, if_neg hkind] at hanswer
      obtain ⟨body, -, hbody⟩ := map_eq_ok_iff.1 hanswer
      exact ⟨body, hbody.symm⟩
    obtain ⟨body, rfl⟩ := hbody
    exact List.mem_map.1 (mem_names_of_holder h hholder hanswer)

/-- A subtree holder without an error has a child. -/
theorem exists_child_of_clean {g : Graph} (hg : g.WellFormed) (hclean : g.errors = [])
    {holder : Node} (hholder : holder ∈ g.ofKind .subtree) :
    ∃ child rest, g.children holder.id = child :: rest := by
  obtain ⟨hnode, hkind⟩ := List.mem_filter.1 hholder
  refine List.exists_cons_of_ne_nil (hg.children_ne_nil_iff.2 ?_)
  by_contra hnone
  obtain ⟨issue, hissue, -⟩ := Graph.exists_noChildren_iff.2
    ⟨holder, hnode, rfl, Or.inr (of_decide_eq_true hkind), by simpa using hnone⟩
  rw [hclean] at hissue
  cases hissue

/-- Where no warning is about the subtree that a node refers to, the trimmed text is the name of a
holder, and the text itself is one if it is plain. -/
theorem mem_holderNames_iff_plain {g : Graph} {report : Report}
    (h : g.validate true = .ok report) (hw : ∀ issue ∈ report.warnings, issue.code ≠ "W2103")
    {node : Node} (hnode : node ∈ g.nodes) (hd : node.decorator = some .subtreeRef)
    (hne : node.detailText .subtree ≠ "") (href : isReference (node.detailText .subtree) = false) :
    (if isEscaped (node.detailText .subtree) then dropFirst (node.detailText .subtree)
      else node.detailText .subtree) ∈ g.holderNames ↔ Plain g (node.detailText .subtree) := by
  unfold Plain
  split_ifs with hescaped
  · rfl
  · constructor
    · intro hname
      obtain ⟨holder, -, hname⟩ := List.mem_map.1 hname
      rw [← hname, trim_trim]
    · intro htrim
      by_contra hname
      have hwarned : Warned g node (.unknownSubtree (trim (node.detailText .subtree))) :=
        .subtree hd (by rwa [htrim]) (by rwa [htrim]) (by rwa [htrim])
      exact hw ⟨node.id, _⟩ ((Graph.mem_warnings_iff h).2 ⟨node, hnode, rfl, hwarned⟩) rfl

/-- **The subtrees that a script refers to by name are in it** exactly when the texts of all
references to subtrees are plain: this holds of the scripts of graphs that are validated without
error and without a warning of an unknown subtree, as long as no subtree is a blackboard. -/
theorem Script.subtrees_defined_iff {g : Graph} (hg : g.WellFormed) {report : Report}
    (hreport : g.validate true = .ok report) (hclean : report.issues = [])
    (hw : ∀ issue ∈ report.warnings, issue.code ≠ "W2103")
    (hboards : ∀ holder ∈ g.ofKind .subtree, ∀ child ∈ g.children holder.id,
      child.kind ≠ .blackboard)
    {modulePath : String} {script : Script} (hscript : Script.ofGraph g modulePath = .ok script) :
    (∀ name, Table.Holds script.table (.named "subtree_name") (.leaf (.scalar (.text name))) →
      name ∈ script.subtrees.map Prod.fst) ↔
    ∀ node, (Exporter.ofGraph g modulePath).Covers script node →
      node.decorator = some .subtreeRef → node.detailText .subtree ≠ "" →
        isReference (node.detailText .subtree) = false → Plain g (node.detailText .subtree) := by
  obtain ⟨root, -, -, -, hsubtrees, -⟩ := ofGraph_eq_ok_iff.1 hscript
  have herrors : g.errors = [] := by
    obtain ⟨found, -, hfound⟩ := bind_eq_ok_iff.1 hreport
    obtain rfl := Except.ok.inj hfound
    exact hclean
  have hfirst : ∀ holder ∈ g.ofKind .subtree, ∃ child rest,
      g.children holder.id = child :: rest ∧ child.kind ≠ .blackboard := by
    intro holder hholder
    obtain ⟨child, rest, hchildren⟩ := exists_child_of_clean hg herrors hholder
    exact ⟨child, rest, hchildren, hboards holder hholder child (by simp [hchildren])⟩
  have hnames : ∀ {name}, name ∈ script.subtrees.map Prod.fst ↔ name ∈ g.holderNames :=
    mem_names_iff hsubtrees hfirst
  simp only [hnames, holds_table_iff hscript, Exporter.writes_subtreeName_iff,
    Exporter.subtreeLeaf_eq_text_iff]
  constructor
  · intro h node hcovers hd hne href
    exact (mem_holderNames_iff_plain hreport hw hcovers.mem hd hne href).1
      (h _ ⟨node, hcovers, hd, hne, href, rfl⟩)
  · rintro h name ⟨node, hcovers, hd, hne, href, rfl⟩
    exact (mem_holderNames_iff_plain hreport hw hcovers.mem hd hne href).2
      (h node hcovers hd hne href)

/-! ### A patrol -/

/-- The decorator that refers to the patrol by a text. -/
def patrolReference (text : String) : Node :=
  { id := 1, kind := .decorator, name := "Go", decorator := some .subtreeRef, subtree := some text }

/-- The holder of the patrol. -/
def patrolHolder : Node := { id := 2, kind := .subtree, name := "Patrol" }

/-- What is done on patrol. -/
def patrolAction : Node := { id := 3, kind := .action, name := "Walk", func := "walk" }

/-- A reference to a subtree by a text, and the subtree `Patrol`. -/
def patrolGraph (text : String) : Graph where
  nodes := [patrolReference text, patrolHolder, patrolAction]
  connections := [{ source := 2, target := 3 }]
  nextId := 4

/-- What is exported of it. -/
def patrolScript (text : String) : Script where
  root := 1
  main := [leafEntry "type" (.member .nodeType "SUBTREE_REF"),
    leafEntry "name" (.scalar (.text "Go")), leafEntry "subtree_name" (.scalar (.text text))]
  subtrees := [("Patrol", [leafEntry "type" (.member .nodeType "ACTION"),
    leafEntry "name" (.scalar (.text "Walk")), leafEntry "func" (.module "walk")])]

theorem wellFormed_patrolGraph (text : String) : (patrolGraph text).WellFormed where
  ids_nodup := by simp [patrolGraph, patrolReference, patrolHolder, patrolAction]
  ids_lt := by simp [patrolGraph, patrolReference, patrolHolder, patrolAction]
  joined := by simp [patrolGraph, patrolReference, patrolHolder, patrolAction]
  edges_nodup := by simp [patrolGraph]
  contiguous := by
    intro parent
    by_cases h : parent = 2
    · subst h
      exact .refl _
    · exact Graph.contiguous_of_siblings_nil
        (Graph.siblings_of_none (by simpa [patrolGraph] using Ne.symm h))

theorem children_patrolHolder (text : String) :
    (patrolGraph text).children patrolHolder.id = [patrolAction] :=
  Graph.children_of_ordered (List.pairwise_singleton _ _)

theorem subtree_patrolGraph (text : String) : ∀ holder ∈ (patrolGraph text).ofKind .subtree,
    ∀ child ∈ (patrolGraph text).children holder.id, child.kind ≠ .blackboard := by
  have hholders : (patrolGraph text).ofKind .subtree = [patrolHolder] := rfl
  intro holder hholder child hchild
  rw [hholders] at hholder
  obtain rfl := List.mem_singleton.1 hholder
  rw [children_patrolHolder] at hchild
  obtain rfl := List.mem_singleton.1 hchild
  decide

theorem ofGraph_patrolGraph {text : String} (hne : text ≠ "") (href : isReference text = false)
    (hescaped : isEscaped text = false) :
    Script.ofGraph (patrolGraph text) "" = .ok (patrolScript text) := by
  have hleaf : (Exporter.ofGraph (patrolGraph text) "").subtreeLeaf text =
      .ok (.scalar (.text text)) :=
    Exporter.subtreeLeaf_eq_text_iff.2 ⟨href, by simp [hescaped]⟩
  have hsubtree : (Exporter.ofGraph (patrolGraph text) "").subtreeEntry (patrolReference text) =
      .ok [leafEntry "subtree_name" (.scalar (.text text))] := by
    have hd : (patrolReference text).decorator = some .subtreeRef := rfl
    rw [Exporter.subtreeEntry, if_pos hd]
    change Exporter.attributeEntry "subtree_name" text _ = _
    rw [Exporter.attributeEntry, if_neg (by simpa using hne), hleaf]
    rfl
  have hchildless : ∀ {id}, id ≠ 2 → (patrolGraph text).children id = [] := by
    intro id hid
    exact Graph.children_of_none (by simpa [patrolGraph] using Ne.symm hid)
  have hbody : Script.holderBody? (Exporter.ofGraph (patrolGraph text) "") patrolHolder =
      .ok (some [leafEntry "type" (.member .nodeType "ACTION"),
        leafEntry "name" (.scalar (.text "Walk")), leafEntry "func" (.module "walk")]) := by
    refine Script.holderBody?_eq_some_iff.2
      ⟨patrolAction, [], children_patrolHolder text, Exporter.body?_eq_some_iff.2 ⟨by decide, ?_⟩⟩
    exact Exporter.bodyOn_of_childless rfl (hchildless (by decide))
  refine Script.ofGraph_eq_ok_iff.2 ⟨patrolReference text, rfl, rfl, ?_, ?_,
    show logEntry [1, 1] = .ok () by decide⟩
  · refine Exporter.body?_eq_some_iff.2 ⟨by simp [patrolReference], ?_⟩
    refine Exporter.bodyOn_of_childless ?_ (hchildless (show (1 : Int) ≠ 2 by decide))
    unfold Exporter.head
    rw [hsubtree]
    rfl
  · have hholders : (Exporter.ofGraph (patrolGraph text) "").graph.ofKind .subtree =
      [patrolHolder] := rfl
    rw [Script.subtreesOf, hholders, List.mapM_cons, hbody]
    rfl

/-- A reference by the name. -/
theorem Script.subtrees_defined_iff_patrol :
    (∀ name, Table.Holds (patrolScript "Patrol").table (.named "subtree_name")
        (.leaf (.scalar (.text name))) → name ∈ (patrolScript "Patrol").subtrees.map Prod.fst) ↔
      ∀ node, (Exporter.ofGraph (patrolGraph "Patrol") "").Covers (patrolScript "Patrol") node →
        node.decorator = some .subtreeRef → node.detailText .subtree ≠ "" →
          isReference (node.detailText .subtree) = false →
            Plain (patrolGraph "Patrol") (node.detailText .subtree) := by
  have hreport : (patrolGraph "Patrol").validate true = .ok {} := by decide
  exact Script.subtrees_defined_iff (wellFormed_patrolGraph _) hreport rfl (by decide)
    (subtree_patrolGraph "Patrol") (ofGraph_patrolGraph (by decide) (by decide) (by decide))

/-- **A blank in front of a name** is no error and no unknown subtree, and the script refers to a
subtree that it does not have. -/
theorem Script.subtree_undefined :
    (patrolGraph " Patrol").WellFormed ∧ (patrolGraph " Patrol").validate true = .ok {} ∧
      (∀ holder ∈ (patrolGraph " Patrol").ofKind .subtree,
        ∀ child ∈ (patrolGraph " Patrol").children holder.id, child.kind ≠ .blackboard) ∧
      Script.ofGraph (patrolGraph " Patrol") "" = .ok (patrolScript " Patrol") ∧
      Table.Holds (patrolScript " Patrol").table (.named "subtree_name")
        (.leaf (.scalar (.text " Patrol"))) ∧
      " Patrol" ∉ (patrolScript " Patrol").subtrees.map Prod.fst := by
  have hplace : (Key.named "subtree_name", .leaf (.scalar (.text " Patrol"))) ∈
      (patrolScript " Patrol").table :=
    .tail _ (.tail _ (.head _))
  exact ⟨wellFormed_patrolGraph _, by decide, subtree_patrolGraph _,
    ofGraph_patrolGraph (by decide) (by decide) (by decide), .here hplace, by decide⟩

end BehaviorTree.Lua
