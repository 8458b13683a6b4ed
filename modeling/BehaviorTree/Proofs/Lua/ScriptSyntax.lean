import BehaviorTree.Proofs.Graph.Numbering
import BehaviorTree.Proofs.Lua.Exported
import BehaviorTree.Proofs.Lua.Reading
import BehaviorTree.Proofs.Reference

/-! # Syntax of scripts

When the text of a script is a chunk.  Whatever a designer types into a node, the names that a
script writes are identifiers and its numbers are finite (`Writes.writable`), so its text is cut into
the lexemes of its table and read back as the expression of that table.  The text fails to be a
chunk only where a reserved word stands behind a point, which only a policy can put there
(`Writes.sound_or_policy`, `Script.unreserved_iff_policies`).

So any interpreter that follows the manual compiles the text of a script exactly if its policies are
no reserved words and there is room for it (`Script.check_render_iff`). -/

namespace BehaviorTree

open BehaviorTree.Text BehaviorTree.Decimal BehaviorTree.Lua

namespace Lua

/-! ### Leaves -/

theorem writable_ofText {text : String} {s : Scalar} (h : Scalar.ofText text = .ok s) :
    s.Writable := by
  unfold Scalar.ofText at h
  obtain ⟨x?, hx, h⟩ := bind_eq_ok_iff.1 h
  cases x? with
  | some x =>
      obtain rfl := Except.ok.inj h
      exact isFinite_of_number? hx
  | none =>
      obtain rfl := Except.ok.inj h
      cases boolean? text <;> trivial

/-- A leaf that is written as one and has only common names behind a point. -/
def Leaf.Sound (leaf : Leaf) : Prop := leaf.Writable ∧ leaf.unreserved isCommonName = true

theorem Leaf.unreserved_of_common {names : String → Bool} (hnames : NamesCommon names) {leaf : Leaf}
    (h : leaf.unreserved isCommonName = true) : leaf.unreserved names = true := by
  cases leaf with
  | member group name => exact hnames _ h
  | _ => rfl

theorem sound_ofResolved {resolved : Resolved} {leaf : Leaf}
    (h : Leaf.ofResolved resolved = .ok leaf) : leaf.Sound := by
  unfold Leaf.ofResolved at h
  split at h
  · obtain ⟨s, hs, h⟩ := bind_eq_ok_iff.1 h
    obtain rfl := Except.ok.inj h
    exact ⟨writable_ofText hs, rfl⟩
  · obtain rfl := Except.ok.inj h
    exact ⟨trivial, rfl⟩
  · split_ifs at h
    · obtain rfl := Except.ok.inj h
      exact ⟨trivial, rfl⟩
    · obtain ⟨s, hs, h⟩ := bind_eq_ok_iff.1 h
      obtain rfl := Except.ok.inj h
      exact ⟨writable_ofText hs, rfl⟩

namespace Exporter

variable {e : Exporter}

/-- The type of a node is an identifier and no reserved word. -/
theorem sound_type (node : Node) : (Leaf.member .nodeType node.effectiveType).Sound := by
  have htype : isIdentifier node.effectiveType = true ∧
      isCommonName (bareName node.effectiveType) = true := by
    unfold Node.effectiveType
    split
    · rename_i kind _
      cases kind <;> decide
    · cases node.kind <;> decide
  exact htype

theorem sound_functionLeaf {text : String} {leaf : Leaf} (h : e.functionLeaf text = .ok leaf) :
    leaf.Sound := by
  unfold functionLeaf at h
  split at h
  · exact sound_ofResolved h
  · obtain rfl := Except.ok.inj h
    exact ⟨trivial, rfl⟩
  · obtain rfl := Except.ok.inj h
    exact ⟨trivial, rfl⟩

theorem sound_subtreeLeaf {text : String} {leaf : Leaf} (h : e.subtreeLeaf text = .ok leaf) :
    leaf.Sound := by
  unfold subtreeLeaf at h
  split at h
  · obtain rfl := Except.ok.inj h
    exact ⟨trivial, rfl⟩
  · exact sound_ofResolved h

theorem sound_paramLeaf {text : String} {leaf : Leaf} (h : e.paramLeaf text = .ok leaf) :
    leaf.Sound := by
  unfold paramLeaf at h
  split at h
  · split_ifs at h
    · obtain rfl := Except.ok.inj h
      exact ⟨trivial, rfl⟩
    · exact sound_ofResolved h
  · exact sound_ofResolved h

/-- A policy that is an identifier is written as it is. -/
theorem policyLeaf_cases {text : String} {leaf : Leaf} (h : e.policyLeaf text = .ok leaf) :
    leaf.Sound ∨ ∃ name, e.resolver.resolve text = .literal name ∧ isIdentifier name = true ∧
      leaf = .member .parallelPolicy name := by
  unfold policyLeaf at h
  split at h
  · rename_i name hliteral
    obtain rfl := Except.ok.inj h
    split_ifs with hname
    · exact Or.inr ⟨name, hliteral, hname, rfl⟩
    · exact Or.inl ⟨trivial, rfl⟩
  · exact Or.inl (sound_ofResolved h)

/-- **Only a policy** can put a reserved word behind a point. -/
theorem Writes.sound_or_policy {node : Node} {key : Key} {leaf : Leaf}
    (h : e.Writes node key leaf) : leaf.Sound ∨ ∃ name,
      e.resolver.resolve node.policy = .literal name ∧ isIdentifier name = true ∧
        leaf = .member .parallelPolicy name := by
  cases h with
  | argument _ _ h => exact Or.inl (sound_paramLeaf h)
  | own h =>
      cases h with
      | type => exact Or.inl (sound_type node)
      | name => exact Or.inl ⟨trivial, rfl⟩
      | func _ h => exact Or.inl (sound_functionLeaf h)
      | policy _ h => exact policyLeaf_cases h
      | detail _ _ h => exact Or.inl (sound_ofResolved h)
      | subtree _ _ h => exact Or.inl (sound_subtreeLeaf h)

/-- A leaf of an export is written as one, whatever the texts of the node are. -/
theorem Writes.writable {node : Node} {key : Key} {leaf : Leaf} (h : e.Writes node key leaf) :
    leaf.Writable := by
  rcases h.sound_or_policy with h | ⟨name, _, hname, rfl⟩
  · exact h.1
  · exact hname

end Exporter

theorem Script.writable_table {g : Graph} {modulePath : String} {script : Script}
    (h : ofGraph g modulePath = .ok script) : (Code.table script.table).Writable := by
  refine Table.all_of_holds script.table fun key value hholds => ?_
  refine ⟨writable_of_holds h hholds, fun leaf hleaf => ?_⟩
  obtain ⟨node, -, hwrites⟩ := (holds_table_iff h).1 (hleaf ▸ hholds)
  exact hwrites.writable

/-- The literal policies that are written behind a point are names. -/
def Script.PoliciesNamed (e : Exporter) (names : String → Bool) (script : Script) : Prop :=
  ∀ node, e.Covers script node → ∀ name, e.resolver.resolve node.policy = .literal name →
    isIdentifier name = true → names (bareName name) = true

theorem bareName_eq {name : String} (h : name.toList.getLast? ≠ some '\n') :
    bareName name = name := by
  rw [bareName, dropFinalNewline, if_neg h, String.ofList_toList]

end Lua

/-- Every policy that is written behind a point is a name there: no reserved word, and no line feed
ends it. -/
def Graph.PoliciesAreNames (g : Graph) (names : String → Bool) : Prop :=
  ∀ node ∈ g.nodes, ∀ name, (Resolver.ofGraph g).resolve node.policy = .literal name →
    isIdentifier name = true → names name = true ∧ name.toList.getLast? ≠ some '\n'

theorem Graph.PoliciesAreNames.named {g : Graph} {names : String → Bool}
    (h : g.PoliciesAreNames names) (modulePath : String) (script : Script) :
    script.PoliciesNamed (Exporter.ofGraph g modulePath) names := by
  intro node hcovers name hliteral hname
  obtain ⟨hpolicy, hfeed⟩ := h node hcovers.mem name hliteral hname
  rwa [bareName_eq hfeed]

namespace Lua

section reading

variable {names : String → Bool} (hnames : NamesCommon names) {g : Graph} {modulePath : String}
  {script : Script}

include hnames

/-- **Where a policy is a reserved word**, one stands behind a point, and nowhere else. -/
theorem Script.unreserved_iff_policies (h : ofGraph g modulePath = .ok script) :
    (Code.table script.table).Unreserved names ↔
      script.PoliciesNamed (Exporter.ofGraph g modulePath) names := by
  constructor
  · intro hunreserved node hcovers name hliteral hname
    have hne : node.policy ≠ "" := by
      intro hempty
      have hresolve : (Exporter.ofGraph g modulePath).resolver.resolve "" = .literal "" :=
        Resolver.resolve_empty _
      rw [hempty, hresolve] at hliteral
      obtain rfl := Resolved.literal.inj hliteral
      exact absurd hname (by decide)
    have hleaf : (Exporter.ofGraph g modulePath).policyLeaf node.policy =
        .ok (.member .parallelPolicy name) := by
      rw [Exporter.policyLeaf, hliteral]
      exact congrArg Except.ok (if_pos hname)
    have hholds := (holds_table_iff h).2 ⟨node, hcovers, .own (.policy hne hleaf)⟩
    have hbehind := Table.leaf_of_all hunreserved hholds
    exact hbehind
  · intro hpolicies
    refine Table.all_of_holds script.table fun key value hholds => ⟨trivial, fun leaf hleaf => ?_⟩
    obtain ⟨node, hcovers, hwrites⟩ := (holds_table_iff h).1 (hleaf ▸ hholds)
    rcases hwrites.sound_or_policy with hsound | ⟨name, hliteral, hname, rfl⟩
    · exact Leaf.unreserved_of_common hnames hsound.2
    · exact hpolicies node hcovers name hliteral hname

/-! ### Reading a script -/

theorem ofLexemes?_lexemes {code : Code Leaf} (h : code.Writable) :
    Expr.ofLexemes? names code.lexemes =
      if code.unreserved names then some code.expr else none := by
  have hrun := run_code hnames h [] [] (Or.inl rfl)
  rw [List.append_nil] at hrun
  unfold Expr.ofLexemes?
  rw [hrun]
  split_ifs <;> rfl

end reading

/-- The lexemes of a table end with its brace. -/
theorem getLast?_lexemes (entries : Table Leaf) :
    (Code.table entries).lexemes.getLast? = some (.symbol '\x7d') := by
  cases entries with
  | nil => rfl
  | cons entry rest =>
      rw [Code.lexemes, ← List.append_assoc, ← List.append_assoc, ← List.cons_append]
      exact List.getLast?_concat ..

theorem chunk_ofLexemes? (names : String → Bool) (entries : Table Leaf) :
    Chunk.ofLexemes? names (.name "return" :: (Code.table entries).lexemes) =
      (Expr.ofLexemes? names (Code.table entries).lexemes).map .result := by
  have hdrop : dropSemicolon (Code.table entries).lexemes = (Code.table entries).lexemes := by
    unfold dropSemicolon
    rw [getLast?_lexemes]
    rfl
  unfold Chunk.ofLexemes?
  simp only [hdrop]
  split
  · rename_i hnil
    exact absurd hnil (lexemes_ne_nil _)
  · rfl

namespace Script

/-- The lexemes of the text of a table, whatever the indentation is. -/
theorem lex_render {indent : String} (hindent : ∀ c ∈ indent.toList, isChunkBlank c = true)
    {entries : Table Leaf} (h : (Code.table entries).Writable) :
    lex 0 ("return " ++ renderTable indent entries).toList =
      some (.name "return" :: (Code.table entries).lexemes) := by
  have hall := (lexes_word "return" (by decide)).append
    (lexes_space.append_anything (lexes_write hindent h 0)) rfl
  have htext : ("return " ++ renderTable indent entries).toList =
      "return".toList ++ ([' '] ++ (Code.table entries).write Leaf.write indent.toList 0) ++ [] := by
    simp [renderTable, Code.render]
  rw [htext, hall [] rfl]
  simp [lex]

theorem read?_render {names : String → Bool} (hnames : NamesCommon names) {script : Script}
    (h : (Code.table script.table).Writable) {indent : String}
    (hindent : ∀ c ∈ indent.toList, isChunkBlank c = true) :
    Chunk.read? names (script.render indent) =
      if (Code.table script.table).unreserved names then
        some (.result (Code.table script.table).expr)
      else none := by
  unfold Chunk.read? render
  rw [lex_render hindent h, Option.bind_eq_bind, Option.bind_some, chunk_ofLexemes?,
    ofLexemes?_lexemes hnames h]
  split_ifs <;> rfl

theorem isChunkBlank_of_indent {indent : String}
    (h : ∀ c ∈ indent.toList, c = ' ' ∨ c = '\t') :
    ∀ c ∈ indent.toList, isChunkBlank c = true := by
  intro c hc
  rcases h c hc with rfl | rfl <;> rfl

/-- If any word may stand as a name, the text of a script is a chunk. -/
theorem read?_render_anything {script : Script} (h : (Code.table script.table).Writable)
    {indent : String} (hindent : ∀ c ∈ indent.toList, isChunkBlank c = true) :
    Chunk.read? (fun _ => true) (script.render indent) =
      some (.result (Code.table script.table).expr) := by
  have hall : (Code.table script.table).unreserved (fun _ => true) = true :=
    (unreserved_iff _).2 (h.mono (fun _ _ => trivial) fun leaf _ => by cases leaf <;> rfl)
  rw [read?_render (fun _ _ => rfl) h hindent, if_pos hall]

end Script

/-! ### Interpreters -/

theorem Interpreter.check_eq_ok_iff {lua : Interpreter} {source : String} :
    lua.check source = .ok () ↔ lua.compiles source = true := by
  unfold check
  split_ifs with h <;> simp [h]

theorem NamesCommon.isName : NamesCommon isName := by
  intro word h
  exact (Bool.and_eq_true_iff.1 h).1

/-- **The standard interpreter follows the manual**, for the words that all versions reserve. -/
theorem Interpreter.standard_followsManual :
    standard.FollowsManual isName fun source => hasRoom source = true where
  reserved word h := by
    rw [isName, decide_eq_false_iff_not]
    exact not_not_intro h
  common := NamesCommon.isName
  compiles_iff _ := by
    rw [standard, Bool.and_eq_true, Option.isSome_iff_exists]
  run_eq {source e} h _ := by
    change (Chunk.read? isName source).bind Chunk.evaluate? = _
    rw [h]
    rfl

/-! ### A guard -/

/-- A guard runs two nodes after the other. -/
def guardRoot : Node := { id := 2, kind := .sequence, name := "Guard" }

/-- It rests before it watches. -/
def guardRest : Node :=
  { id := 3, kind := .decorator, name := "Rest", decorator := some .wait, waitDuration := some "2.5" }

/-- Then it walks its round, which is told elsewhere. -/
def guardWalk : Node :=
  { id := 4, kind := .decorator, name := "Walk", decorator := some .subtreeRef,
    subtree := some "Patrol" }

def guardWatch : Node := { id := 5, kind := .parallel, name := "Watch", policy := "ALL" }

/-- What it does while it watches, with arguments of all sorts. -/
def guardHeal : Node :=
  { id := 6, kind := .action, name := "Heal \"me\"", func := "heal",
    params := some [{ name := "amount", value := "@hp" }, { name := "fast", value := "TRUE" },
      { name := "sound" }, { name := "to", value := "@goal" }] }

def guardPatrol : Node := { id := 7, kind := .subtree, name := "Patrol" }

def guardPause : Node := { id := 8, kind := .wait, name := "Pause" }

/-- What it knows. -/
def guardFacts : Node :=
  { id := 1, kind := .blackboard, name := "Facts",
    fields := some [{ key := " hp ", value := "100" }, { key := "goal" }] }

/-- The tree of a guard, below a blackboard and beside a subtree. -/
def guardGraph : Graph where
  nodes := [guardFacts, guardRoot, guardRest, guardWalk, guardWatch, guardHeal, guardPatrol,
    guardPause]
  connections := [{ source := 1, target := 2 }, { source := 2, target := 3 },
    { source := 2, target := 4, order := 1 }, { source := 3, target := 5 },
    { source := 5, target := 6 }, { source := 7, target := 8 }]
  nextId := 9

/-- The entries of the arguments. -/
def guardParams : Table Leaf :=
  [(.indexed "amount", .leaf (.descriptor "hp" (some (.number 100.0)))),
    (.indexed "fast", .leaf (.scalar (.boolean true))), (.indexed "sound", .leaf .nil),
    (.indexed "to", .leaf (.descriptor "goal" none))]

def guardHealTable : Table Leaf :=
  [leafEntry "type" (.member .nodeType "ACTION"),
    leafEntry "name" (.scalar (.text "Heal \"me\"")),
    leafEntry "func" (.module "ai.heal"), (.named "params", .table guardParams)]

def guardWatchTable : Table Leaf :=
  [leafEntry "type" (.member .nodeType "PARALLEL"), leafEntry "name" (.scalar (.text "Watch")),
    leafEntry "policy" (.member .parallelPolicy "ALL")] ++ Exporter.childrenEntry [guardHealTable]

def guardRestTable : Table Leaf :=
  [leafEntry "type" (.member .nodeType "WAIT"), leafEntry "name" (.scalar (.text "Rest")),
    leafEntry "wait_duration" (.scalar (.number 2.5))] ++ Exporter.childrenEntry [guardWatchTable]

def guardWalkTable : Table Leaf :=
  [leafEntry "type" (.member .nodeType "SUBTREE_REF"), leafEntry "name" (.scalar (.text "Walk")),
    leafEntry "subtree_name" (.scalar (.text "Patrol"))]

/-- What is exported of a guard. -/
def guardScript : Script where
  root := 2
  main := [leafEntry "type" (.member .nodeType "SEQUENCE"), leafEntry "name" (.scalar (.text "Guard"))]
    ++ Exporter.childrenEntry [guardRestTable, guardWalkTable]
  subtrees := [("Patrol", [leafEntry "type" (.member .nodeType "WAIT"),
    leafEntry "name" (.scalar (.text "Pause"))])]

theorem children_guardGraph : guardGraph.children 1 = [guardRoot] ∧
    guardGraph.children 2 = [guardRest, guardWalk] ∧ guardGraph.children 3 = [guardWatch] ∧
      guardGraph.children 5 = [guardHeal] ∧ guardGraph.children 7 = [guardPause] := by
  refine ⟨?_, ?_, ?_, ?_, ?_⟩ <;>
    exact (Graph.children_of_ordered (by decide)).trans (by decide)

theorem childless_guardGraph {id : Int} (h : id = 4 ∨ id = 6 ∨ id = 8) :
    guardGraph.children id = [] := by
  refine Graph.children_of_none fun c hc hsource => ?_
  have hsources : ∀ c ∈ guardGraph.connections, ¬ (c.source = 4 ∨ c.source = 6 ∨ c.source = 8) := by
    decide
  exact hsources c hc (hsource ▸ h)

theorem scriptRoot_guardGraph : guardGraph.scriptRoot = .ok guardRoot := by
  have hroots : guardGraph.roots.filter (fun node => node.kind = .blackboard) =
      guardGraph.nodes.take 1 := by decide
  have hsome : guardGraph.roots.isEmpty = false := by decide
  have hfirst : guardGraph.firstTree? guardFacts.id = some guardRoot := by
    rw [Graph.firstTree?, show guardGraph.children guardFacts.id = _ from children_guardGraph.1]
    rfl
  have hfound : (guardGraph.nodes.take 1).findSome? (fun board => guardGraph.firstTree? board.id) =
      some guardRoot := by
    change List.findSome? _ [guardFacts] = _
    rw [List.findSome?_cons, hfirst]
  unfold Graph.scriptRoot
  rw [hroots]
  simp only [hsome, hfound]
  rfl

theorem head_guardHeal :
    (Exporter.ofGraph guardGraph "ai").head guardHeal = .ok guardHealTable := by
  have hentries : (guardHeal.params.getD []).mapM (Exporter.ofGraph guardGraph "ai").paramEntry =
      .ok [[(.indexed "amount", .leaf (.descriptor "hp" (some (.number 100.0))))],
        [(.indexed "fast", .leaf (.scalar (.boolean true)))], [(.indexed "sound", .leaf .nil)],
        [(.indexed "to", .leaf (.descriptor "goal" none))]] :=
    mapM_eq_ok_iff.2
      (.cons (Exporter.paramEntry_eq (by decide) (by decide))
        (.cons (Exporter.paramEntry_eq (by decide) (by decide +kernel))
          (.cons (Exporter.paramEntry_eq (by decide) (by decide))
            (.cons (Exporter.paramEntry_eq (by decide) (by decide)) .nil))))
  have hparams : (Exporter.ofGraph guardGraph "ai").paramsEntry guardHeal =
      .ok [(.named "params", .table guardParams)] :=
    bind_eq_ok_iff.2 ⟨_, hentries, rfl⟩
  unfold Exporter.head
  rw [hparams]
  rfl

theorem head_guardRest : (Exporter.ofGraph guardGraph "ai").head guardRest =
    .ok [leafEntry "type" (.member .nodeType "WAIT"), leafEntry "name" (.scalar (.text "Rest")),
      leafEntry "wait_duration" (.scalar (.number 2.5))] := by
  have hwait : Exporter.attributeEntry "wait_duration" "2.5"
      (Exporter.ofGraph guardGraph "ai").leafOf =
        .ok [leafEntry "wait_duration" (.scalar (.number 2.5))] :=
    Exporter.attributeEntry_eq (by decide) (by decide)
  have hdetails : (detailKeys.mapM fun pair => Exporter.attributeEntry pair.2
      (guardRest.detailText pair.1) (Exporter.ofGraph guardGraph "ai").leafOf) =
        .ok [[], [], [leafEntry "wait_duration" (.scalar (.number 2.5))], [], []] :=
    mapM_eq_ok_iff.2 (.cons rfl (.cons rfl (.cons hwait (.cons rfl (.cons rfl .nil)))))
  exact bind_eq_ok_iff.2 ⟨[], rfl, bind_eq_ok_iff.2 ⟨[], rfl, bind_eq_ok_iff.2 ⟨[], rfl,
    bind_eq_ok_iff.2 ⟨_, hdetails, rfl⟩⟩⟩⟩

theorem ofGraph_guardGraph : Script.ofGraph guardGraph "ai" = .ok guardScript := by
  obtain ⟨-, hroot, hrest, hwatch, hpatrol⟩ := children_guardGraph
  have hshown : ∀ {id children}, guardGraph.children id = children →
      (Exporter.ofGraph guardGraph "ai").shownChildren true id =
        children.filter (Exporter.isShown true) := by
    rintro id _ rfl
    rfl
  have hheal : (Exporter.ofGraph guardGraph "ai").bodyOn true [6, 5, 3, 2] guardHeal =
      .ok guardHealTable :=
    Exporter.bodyOn_of_childless head_guardHeal (childless_guardGraph (by decide))
  have hwatch : (Exporter.ofGraph guardGraph "ai").bodyOn true [5, 3, 2] guardWatch =
      .ok guardWatchTable :=
    Exporter.bodyOn_of_shown rfl (hshown hwatch) (by decide) (.cons hheal .nil)
  have hrest : (Exporter.ofGraph guardGraph "ai").bodyOn true [3, 2] guardRest =
      .ok guardRestTable :=
    Exporter.bodyOn_of_shown head_guardRest (hshown hrest) (by decide) (.cons hwatch .nil)
  have hwalk : (Exporter.ofGraph guardGraph "ai").bodyOn true [4, 2] guardWalk =
      .ok guardWalkTable :=
    Exporter.bodyOn_of_childless rfl (childless_guardGraph (by decide))
  have hbody : (Exporter.ofGraph guardGraph "ai").bodyOn true [2] guardRoot = .ok guardScript.main :=
    Exporter.bodyOn_of_shown rfl (hshown hroot) (by decide) (.cons hrest (.cons hwalk .nil))
  have hpause : Script.holderBody? (Exporter.ofGraph guardGraph "ai") guardPatrol =
      .ok (some [leafEntry "type" (.member .nodeType "WAIT"),
        leafEntry "name" (.scalar (.text "Pause"))]) :=
    Script.holderBody?_eq_some_iff.2 ⟨_, [], hpatrol, Exporter.body?_eq_some_iff.2
      ⟨by decide, Exporter.bodyOn_of_childless rfl (childless_guardGraph (by decide))⟩⟩
  refine Script.ofGraph_eq_ok_iff.2 ⟨guardRoot, scriptRoot_guardGraph, rfl,
    Exporter.body?_eq_some_iff.2 ⟨by decide, hbody⟩, ?_, by decide⟩
  have hholders : (Exporter.ofGraph guardGraph "ai").graph.ofKind .subtree = [guardPatrol] := rfl
  rw [Script.subtreesOf, hholders, List.mapM_cons, hpause]
  rfl

theorem Script.hasRoom_render {script : Script} (h : (Code.table script.table).Writable)
    (hunreserved : (Code.table script.table).unreserved isName = true) {indent : String}
    (hindent : ∀ c ∈ indent.toList, isChunkBlank c = true) :
    Interpreter.hasRoom (script.render indent) =
      (Interpreter.isWithinLevels 0 false (.name "return" :: (Code.table script.table).lexemes) &&
        (Code.table script.table).expr.fits) := by
  have hlex : lex 0 (script.render indent).toList =
      some (.name "return" :: (Code.table script.table).lexemes) := lex_render hindent h
  rw [Interpreter.hasRoom, hlex, read?_render NamesCommon.isName h hindent, if_pos hunreserved]
  rfl

theorem hasRoom_guardScript : Interpreter.hasRoom (guardScript.render "\t") = true := by
  rw [Script.hasRoom_render (Script.writable_table ofGraph_guardGraph) (by decide)
    (Script.isChunkBlank_of_indent (by simp))]
  decide +kernel

theorem policies_guardGraph : guardGraph.PoliciesAreNames isName := by
  have hresolved : ∀ node ∈ guardGraph.nodes,
      (Resolver.ofGraph guardGraph).resolve node.policy = .literal node.policy ∧
        (isIdentifier node.policy = true →
          isName node.policy = true ∧ node.policy.toList.getLast? ≠ some '\n') := by
    decide
  intro node hnode name hliteral
  obtain ⟨hsame, hname⟩ := hresolved node hnode
  rw [hsame] at hliteral
  obtain rfl := Resolved.literal.inj hliteral
  exact hname

/-- The node of a graph with a policy. -/
def parallelNode (policy : String) : Node :=
  { id := 1, kind := .parallel, name := "Parallel", policy := policy }

/-- A graph of one node with a policy. -/
def parallelGraph (policy : String) : Graph := ⟨[parallelNode policy], [], 2⟩

/-- What is exported of it. -/
def parallelScript (policy : String) : Script where
  root := 1
  main :=
    [leafEntry "type" (.member .nodeType "PARALLEL"),
      leafEntry "name" (.scalar (.text "Parallel")),
      leafEntry "policy" (.member .parallelPolicy policy)]

theorem ofGraph_parallelGraph {policy : String} (hne : policy.isEmpty = false)
    (hliteral : parseValue policy false = .literal policy) (hname : isIdentifier policy = true) :
    Script.ofGraph (parallelGraph policy) "" = .ok (parallelScript policy) := by
  have hleaf : (Exporter.ofGraph (parallelGraph policy) "").policyLeaf policy =
      .ok (.member .parallelPolicy policy) := by
    simp [Exporter.policyLeaf, Resolver.resolve, hliteral, hname]
  have hhead : (Exporter.ofGraph (parallelGraph policy) "").head (parallelNode policy) =
      .ok (parallelScript policy).main := by
    have hpolicy : Exporter.attributeEntry "policy" (parallelNode policy).policy
        (Exporter.ofGraph (parallelGraph policy) "").policyLeaf =
          .ok [leafEntry "policy" (.member .parallelPolicy policy)] := by
      change Exporter.attributeEntry "policy" policy _ = _
      rw [Exporter.attributeEntry, hne, hleaf]
      rfl
    unfold Exporter.head
    rw [hpolicy]
    rfl
  have hchildren : (parallelGraph policy).children (parallelNode policy).id = [] := by
    simp [parallelGraph, Graph.children, Graph.outgoing, Graph.sortByOrder]
  have hbody : (Exporter.ofGraph (parallelGraph policy) "").body? false (parallelNode policy) =
      .ok (some (parallelScript policy).main) :=
    Exporter.body?_eq_some_iff.2 ⟨show NodeKind.parallel ≠ .blackboard by decide,
      Exporter.bodyOn_of_childless hhead hchildren⟩
  have hlog : logEntry [1, 0] = .ok () := by decide
  exact Script.ofGraph_eq_ok_iff.2 ⟨parallelNode policy, rfl, rfl, hbody, rfl, hlog⟩

end Lua

end BehaviorTree
