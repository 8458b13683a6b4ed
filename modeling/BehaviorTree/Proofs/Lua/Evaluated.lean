import BehaviorTree.Proofs.Graph.Numbering
import BehaviorTree.Proofs.Lua.Tree

/-! # Evaluated scripts

A script is evaluated to the tree of its graph (`Script.evaluate_render`): whatever is written into
a text is read back from it.  This holds of any interpreter that follows the manual, where there is
room for the text: the value of a script is that of its table, and the table denotes the tree. -/

namespace BehaviorTree

open BehaviorTree.Text BehaviorTree.Lua

namespace Lua

theorem Exporter.keepsPolicies {g : Graph} {names : String → Bool} (h : g.PoliciesAreNames names)
    (modulePath : String) : (Exporter.ofGraph g modulePath).KeepsPolicies :=
  fun node hnode name hliteral hname => bareName_eq (h node hnode name hliteral hname).2

/-! ### Stand-ins -/

theorem usesStandIns_numeralExpr (cs : List Char) : (numeralExpr cs).usesStandIns = true := by
  unfold numeralExpr
  split <;> rfl

theorem usesStandIns_scalar (s : Scalar) : s.expr.usesStandIns = true := by
  cases s with
  | number x => exact usesStandIns_numeralExpr (numeral x)
  | _ => rfl

theorem usesStandIns_leaf (leaf : Leaf) : leaf.expr.usesStandIns = true := by
  cases leaf with
  | scalar s => exact usesStandIns_scalar s
  | member group name => cases group <;> rfl
  | indexed group name => cases group <;> rfl
  | descriptor key default =>
      cases default with
      | none => rfl
      | some s =>
          have hgroup : isGroup (.plain Group.messageType.name) = true := by decide
          rw [← expr_descriptorTable]
          simp [descriptorTable, Code.expr, entriesExpr, Expr.usesStandIns, entriesUseStandIns,
            Leaf.expr, usesStandIns_scalar, hgroup]
  | _ => rfl

mutual

/-- **A code** reads nothing but the stand-ins. -/
theorem usesStandIns_expr (code : Code Leaf) : code.expr.usesStandIns = true := by
  cases code with
  | leaf leaf => exact usesStandIns_leaf leaf
  | table entries => exact entriesUseStandIns_expr entries

theorem entriesUseStandIns_expr (entries : Table Leaf) :
    entriesUseStandIns (entriesExpr entries) = true := by
  cases entries with
  | nil => rfl
  | cons entry rest =>
      rw [entriesExpr, entriesUseStandIns, usesStandIns_expr entry.2, entriesUseStandIns_expr rest]
      rfl

end

/-! ### Scripts -/

section interpreters

variable {lua : Interpreter} {names : String → Bool} {room : String → Prop}

/-- What an interpreter yields for a text that is read and that there is room for. -/
theorem Interpreter.evaluate_of_read (hlua : lua.FollowsManual names room) {source : String}
    {e : Expr} (hread : Chunk.read? (fun _ => true) source = some (.result e))
    (hnames : Chunk.read? names source = some (.result e)) (hstandIns : e.usesStandIns = true)
    (hroom : room source) {value : Value} (hvalue : e.evaluate?.bind yielded? = some value) :
    lua.evaluate source = value.toJson.map .ok := by
  have hcompiles : lua.compiles source = true :=
    (hlua.compiles_iff hread).2 ⟨⟨_, hnames⟩, hroom⟩
  rw [evaluate, if_pos hcompiles, hlua.run_eq hnames hstandIns, hvalue]

end interpreters

/-! ### The tree of a guard -/

/-- The members of a node that are there whether or not it has them. -/
def guardMembers (type name : String) (func params policy wait subtree : Option Json) :
    List (String × Option Json) :=
  [("type", some (.text type)), ("name", some (.text name)), ("func", func), ("params", params),
    ("policy", policy), ("timeout_duration", none), ("cooldown_duration", none),
    ("wait_duration", wait), ("repeater_count", none), ("max_retries", none),
    ("subtree_name", subtree)]

def guardArguments : Json :=
  .object [("amount", .array [.text "BLACKBOARD", .text "hp", .number (.float 100.0)]),
    ("fast", .bool true), ("to", .array [.text "BLACKBOARD", .text "goal"])]

def guardHealMembers : List (String × Option Json) :=
  guardMembers "ACTION" "Heal \"me\"" (some (.object [("module", .text "ai.heal")]))
    (some guardArguments) none none none

theorem headTree_guardHeal :
    (Exporter.ofGraph guardGraph "ai").headTree guardHeal = .ok guardHealMembers := by
  have hhp : (Exporter.ofGraph guardGraph "ai").resolver.resolve "@hp" =
      .reference "hp" (some "100") := by decide
  have hgoal : (Exporter.ofGraph guardGraph "ai").resolver.resolve "@goal" =
      .reference "goal" (some "") := by decide
  have hfast : (Exporter.ofGraph guardGraph "ai").resolver.resolve "TRUE" = .literal "TRUE" := by
    decide
  have hnumber : Scalar.ofText "100" = .ok (.number 100.0) := by decide
  have hboolean : Scalar.ofText "TRUE" = .ok (.boolean true) := by decide +kernel
  have hamount : (Exporter.ofGraph guardGraph "ai").paramTree "@hp" =
      .ok (some (.array [.text "BLACKBOARD", .text "hp", .number (.float 100.0)])) := by
    have htree : resolvedTree (.reference "hp" (some "100")) =
        .ok (.array [.text "BLACKBOARD", .text "hp", .number (.float 100.0)]) :=
      bind_eq_ok_iff.2 ⟨_, hnumber, rfl⟩
    rw [Exporter.paramTree, hhp]
    exact congrArg (fun x => some <$> x) htree
  have hto : (Exporter.ofGraph guardGraph "ai").paramTree "@goal" =
      .ok (some (.array [.text "BLACKBOARD", .text "goal"])) := by
    rw [Exporter.paramTree, hgoal]
    rfl
  have hquick : (Exporter.ofGraph guardGraph "ai").paramTree "TRUE" = .ok (some (.bool true)) := by
    rw [Exporter.paramTree, hfast]
    exact congrArg (fun x => some <$> Scalar.json <$> x) hboolean
  have hupdates : ((guardHeal.params.getD []).filter fun param => !param.name.isEmpty).mapM
      (fun param => do
        return (param.name, ← (Exporter.ofGraph guardGraph "ai").paramTree param.value)) =
      .ok [("amount", some (.array [.text "BLACKBOARD", .text "hp", .number (.float 100.0)])),
        ("fast", some (.bool true)), ("sound", none),
        ("to", some (.array [.text "BLACKBOARD", .text "goal"]))] :=
    mapM_eq_ok_iff.2 (.cons (bind_eq_ok_iff.2 ⟨_, hamount, rfl⟩)
      (.cons (bind_eq_ok_iff.2 ⟨_, hquick, rfl⟩) (.cons rfl
        (.cons (bind_eq_ok_iff.2 ⟨_, hto, rfl⟩) .nil))))
  have hparams : (Exporter.ofGraph guardGraph "ai").paramsTree guardHeal =
      .ok (some guardArguments) := bind_eq_ok_iff.2 ⟨_, hupdates, rfl⟩
  unfold Exporter.headTree
  rw [hparams]
  rfl

theorem headTree_guardRest : (Exporter.ofGraph guardGraph "ai").headTree guardRest =
    .ok (guardMembers "WAIT" "Rest" none none none (some (.number (.float 2.5))) none) := by
  have hliteral : (Exporter.ofGraph guardGraph "ai").resolver.resolve "2.5" = .literal "2.5" := by
    decide
  have hnumber : Scalar.ofText "2.5" = .ok (.number 2.5) := by decide
  have hwait : (Exporter.ofGraph guardGraph "ai").valueTree "2.5" = .ok (.number (.float 2.5)) := by
    rw [Exporter.valueTree, hliteral]
    exact congrArg (fun x => Scalar.json <$> x) hnumber
  have hdetails : (detailKeys.mapM fun pair => do
      return (pair.2, ← attributeTree (guardRest.detailText pair.1)
        (Exporter.ofGraph guardGraph "ai").valueTree)) =
      .ok [("timeout_duration", none), ("cooldown_duration", none),
        ("wait_duration", some (.number (.float 2.5))), ("repeater_count", none),
        ("max_retries", none)] :=
    mapM_eq_ok_iff.2 (.cons rfl (.cons rfl (.cons
      (bind_eq_ok_iff.2 ⟨_, congrArg (fun x => some <$> x) hwait, rfl⟩) (.cons rfl
        (.cons rfl .nil)))))
  exact bind_eq_ok_iff.2 ⟨_, rfl, bind_eq_ok_iff.2 ⟨_, rfl, bind_eq_ok_iff.2 ⟨_, rfl,
    bind_eq_ok_iff.2 ⟨_, hdetails, rfl⟩⟩⟩⟩

def guardWatchMembers : List (String × Option Json) :=
  guardMembers "PARALLEL" "Watch" none none (some (.text "ALL")) none none ++
    [("children", some (.array [.object (Json.present (guardHealMembers ++ [("children", none)]))]))]

def guardRestMembers : List (String × Option Json) :=
  guardMembers "WAIT" "Rest" none none none (some (.number (.float 2.5))) none ++
    [("children", some (.array [.object (Json.present guardWatchMembers)]))]

def guardWalkMembers : List (String × Option Json) :=
  guardMembers "SUBTREE_REF" "Walk" none none none none (some (.text "Patrol")) ++
    [("children", none)]

def guardRootMembers : List (String × Option Json) :=
  guardMembers "SEQUENCE" "Guard" none none none none none ++
    [("children", some (.array [.object (Json.present guardRestMembers),
      .object (Json.present guardWalkMembers)]))]

def guardPauseMembers : List (String × Option Json) :=
  guardMembers "WAIT" "Pause" none none none none none ++ [("children", none)]

/-- What the script of a guard means. -/
def guardTree : Json :=
  .object (Json.present (guardRootMembers ++
    [("subtrees", some (.object [("Patrol", .object (Json.present guardPauseMembers))]))]))

theorem scriptTree_guardGraph : guardGraph.scriptTree "ai" = .ok guardTree := by
  obtain ⟨-, hroot, hrest, hwatch, hpatrol⟩ := children_guardGraph
  have hkept : ∀ {main path id children}, guardGraph.children id = children →
      (Exporter.ofGraph guardGraph "ai").treeChildren main path id = children.filter fun child =>
        child.kind ≠ .blackboard ∧ (main → child.kind ≠ .subtree) ∧ child.id ∉ path := by
    rintro main path id _ rfl
    rfl
  have hbelowRoot : (Exporter.ofGraph guardGraph "ai").treeChildren true [2] 2 =
      [guardRest, guardWalk] := hkept hroot
  have hbelowRest : (Exporter.ofGraph guardGraph "ai").treeChildren true [3, 2] 3 =
      [guardWatch] := hkept hrest
  have hbelowWatch : (Exporter.ofGraph guardGraph "ai").treeChildren true [5, 3, 2] 5 =
      [guardHeal] := hkept hwatch
  have hbare : ∀ {main path} node {head}, node.id = 4 ∨ node.id = 6 ∨ node.id = 8 →
      (Exporter.ofGraph guardGraph "ai").headTree node = .ok head →
        (Exporter.ofGraph guardGraph "ai").bodyTree main path node =
          .ok (head ++ [("children", none)]) :=
    fun _ _ hid hhead => Exporter.bodyTree_of_children hhead (hkept (childless_guardGraph hid)) .nil
  have hheal : (Exporter.ofGraph guardGraph "ai").bodyTree true [6, 5, 3, 2] guardHeal =
      .ok (guardHealMembers ++ [("children", none)]) :=
    hbare guardHeal (by decide) headTree_guardHeal
  have hwatch : (Exporter.ofGraph guardGraph "ai").bodyTree true [5, 3, 2] guardWatch =
      .ok guardWatchMembers :=
    Exporter.bodyTree_of_children rfl hbelowWatch (.cons hheal .nil)
  have hrest : (Exporter.ofGraph guardGraph "ai").bodyTree true [3, 2] guardRest =
      .ok guardRestMembers :=
    Exporter.bodyTree_of_children headTree_guardRest hbelowRest (.cons hwatch .nil)
  have hwalk : (Exporter.ofGraph guardGraph "ai").bodyTree true [4, 2] guardWalk =
      .ok guardWalkMembers := hbare guardWalk (by decide) rfl
  have hbody : (Exporter.ofGraph guardGraph "ai").bodyTree true [2] guardRoot =
      .ok guardRootMembers :=
    Exporter.bodyTree_of_children rfl hbelowRoot (.cons hrest (.cons hwalk .nil))
  have hpause : (Exporter.ofGraph guardGraph "ai").bodyTree false [8] guardPause =
      .ok guardPauseMembers := hbare guardPause (by decide) rfl
  have hholder : (Exporter.ofGraph guardGraph "ai").holderTree guardPatrol =
      .ok (some (.object (Json.present guardPauseMembers))) := by
    have hchildren : (Exporter.ofGraph guardGraph "ai").graph.children guardPatrol.id =
        [guardPause] := hpatrol
    rw [Exporter.holderTree, hchildren]
    exact bind_eq_ok_iff.2 ⟨_, hpause, rfl⟩
  have hholders : (Exporter.ofGraph guardGraph "ai").graph.ofKind .subtree = [guardPatrol] := rfl
  have hsubtrees : (Exporter.ofGraph guardGraph "ai").subtreesTree =
      .ok [("Patrol", .object (Json.present guardPauseMembers))] := by
    rw [Exporter.subtreesTree, hholders, List.mapM_cons, hholder]
    rfl
  rw [Graph.scriptTree, scriptRoot_guardGraph]
  exact bind_eq_ok_iff.2 ⟨_, rfl, bind_eq_ok_iff.2 ⟨_, hbody, bind_eq_ok_iff.2 ⟨_, hsubtrees, rfl⟩⟩⟩

end Lua

end BehaviorTree
