import BehaviorTree.Proofs.Document.Reading
import BehaviorTree.Proofs.Lua.Denotes
import BehaviorTree.Proofs.Lua.ScriptSyntax

/-! # The tree of a graph

What a script means is said without any text: the tree of a graph is a document value that is read
off its nodes by a recursion along its connections (`Graph.scriptTree`).  The tables of an export
denote the members of this tree, part by part: the attributes (`describes_head`), the bodies
(`describes_bodyOn`), the subtrees (`describes_subtreesOf`) and the whole
(`Script.denotes_table`). -/

namespace BehaviorTree

open BehaviorTree.Text BehaviorTree.Lua

namespace Lua

/-! ### The tree -/

/-- The document value of an attribute.  A reference is the list of a mark, its key, and its default
unless that is empty. -/
def resolvedTree : Resolved → Except Fault Json
  | .literal text => Scalar.json <$> Scalar.ofText text
  | .reference key default =>
    match default.filter fun text => !text.isEmpty with
    | none => .ok (.array [.text "BLACKBOARD", .text key])
    | some text => do return .array [.text "BLACKBOARD", .text key, (← Scalar.ofText text).json]

/-- The value of an attribute that is not empty. -/
def attributeTree (text : String) (tree : String → Except Fault Json) :
    Except Fault (Option Json) :=
  if text.isEmpty then .ok none else some <$> tree text

namespace Exporter

variable (e : Exporter)

/-- The value of a text: a number, a truth value, a text or a reference. -/
def valueTree (text : String) : Except Fault Json := resolvedTree (e.resolver.resolve text)

/-- The value of a policy or of a subtree name: a text even where it looks like a number. -/
def nameTree (text : String) : Except Fault Json :=
  match e.resolver.resolve text with
  | .literal name => .ok (.text name)
  | reference => resolvedTree reference

/-- The value of a function: the path of its module, or a reference. -/
def functionTree (text : String) : Except Fault Json :=
  match parseValue text true with
  | .reference _ => e.valueTree text
  | .rawPath path => .ok (.object [("module", .text path)])
  | .literal name =>
    let path := if e.modulePath.isEmpty then name else e.modulePath ++ "." ++ name
    .ok (.object [("module", .text path)])

/-- The value of an argument, if it has one. -/
def paramTree (text : String) : Except Fault (Option Json) :=
  match e.resolver.resolve text with
  | .literal value => if value.isEmpty then .ok none else some <$> resolvedTree (.literal value)
  | reference => some <$> resolvedTree reference

/-- The values of the arguments with a name.  The last one of a name counts, and one without a value
removes it. -/
def paramsTree (node : Node) : Except Fault (Option Json) :=
  match node.params.getD [] with
  | [] => .ok none
  | params => do
    let updates ← (params.filter fun param => !param.name.isEmpty).mapM fun param => do
      return (param.name, ← e.paramTree param.value)
    return some (.object (updates.foldl setOrRemove []))

/-- The value of the subtree that a decorator refers to. -/
def subtreeTree (node : Node) : Except Fault (Option Json) :=
  if node.decorator = some .subtreeRef then attributeTree (node.detailText .subtree) e.nameTree
  else .ok none

/-- The members of a node but for its children. -/
def headTree (node : Node) : Except Fault (List (String × Option Json)) := do
  let func ← attributeTree node.func e.functionTree
  let params ← e.paramsTree node
  let policy ← attributeTree node.policy e.nameTree
  let details ← detailKeys.mapM fun (d, key) => do
    return (key, ← attributeTree (node.detailText d) e.valueTree)
  let subtree ← e.subtreeTree node
  return ("type", some (.text node.effectiveType)) :: ("name", some (.text node.name)) ::
    ("func", func) :: ("params", params) :: ("policy", policy) ::
      (details ++ [("subtree_name", subtree)])

/-- The children of a node in the tree: no blackboards, no subtree holders in the main tree, and
none that stands above. -/
def treeChildren (main : Bool) (path : List Int) (id : Int) : List Node :=
  (e.graph.children id).filter fun child =>
    child.kind ≠ .blackboard ∧ (main → child.kind ≠ .subtree) ∧ child.id ∉ path

theorem unvisited_of_treeChildren {main : Bool} {path : List Int} {id : Int} {child : Node}
    (h : child ∈ e.treeChildren main path id) :
    unvisited (e.graph.nodes.map (·.id)) (child.id :: path)
      < unvisited (e.graph.nodes.map (·.id)) path := by
  obtain ⟨hchild, hkept⟩ := List.mem_filter.1 h
  exact unvisited_cons_lt (List.mem_map_of_mem (Graph.mem_children hchild))
    (of_decide_eq_true hkept).2.2

/-- The members of a node with those of its children. -/
def bodyTree (main : Bool) (path : List Int) (node : Node) :
    Except Fault (List (String × Option Json)) := do
  let head ← e.headTree node
  let children ← (e.treeChildren main path node.id).attach.mapM fun ⟨child, _⟩ => do
    return Json.object (Json.present (← bodyTree main (child.id :: path) child))
  return head ++ [("children", if children.isEmpty then none else some (.array children))]
termination_by unvisited (e.graph.nodes.map (·.id)) path
decreasing_by exact e.unvisited_of_treeChildren ‹_›

/-- The tree of a subtree holder: that of its first child, unless it is a blackboard. -/
def holderTree (holder : Node) : Except Fault (Option Json) :=
  match e.graph.children holder.id with
  | [] => .ok none
  | child :: _ =>
    if child.kind = .blackboard then .ok none
    else do return some (.object (Json.present (← e.bodyTree false [child.id] child)))

/-- The trees of the subtree holders by their trimmed names; the last one of a name counts. -/
def subtreesTree : Except Fault (List (String × Json)) := do
  let trees ← (e.graph.ofKind .subtree).mapM fun holder => do
    return (trim holder.name, ← e.holderTree holder)
  return trees.foldl (fun fields (name, tree) => match tree with
    | some tree => Json.setField name tree fields
    | none => fields) []

end Exporter

end Lua

/-- **The tree of a graph**, with the trees of its subtrees. -/
def Graph.scriptTree (g : Graph) (modulePath : String) : Except Fault Json := do
  let root ← g.scriptRoot.mapError .exporting
  let e := Exporter.ofGraph g modulePath
  let body ← e.bodyTree true [root.id] root
  let subtrees ← e.subtreesTree
  return .object (Json.present
    (body ++ [("subtrees", if subtrees.isEmpty then none else some (.object subtrees))]))

namespace Lua

/-! ### Attributes -/

/-- The entries of a table denote the members that are there. -/
def Describes (entries : Table Leaf) (members : List (String × Option Json)) : Prop :=
  List.Forall₂ EntryDenotes entries (Json.present members)

theorem describes_nil (name : String) : Describes [] [(name, none)] := .nil

theorem describes_singleton {name : String} {code : Code Leaf} {json : Json}
    (h : Denotes code json) : Describes [(.named name, code)] [(name, some json)] :=
  .cons ⟨rfl, h⟩ .nil

theorem Describes.append {entries others : Table Leaf} {members more : List (String × Option Json)}
    (h : Describes entries members) (h' : Describes others more) :
    Describes (entries ++ others) (members ++ more) := by
  rw [Describes, Json.present, List.flatMap_append]
  exact List.rel_append h h'

theorem describes_flatten {tables : List (Table Leaf)} {members : List (String × Option Json)}
    (h : List.Forall₂ (fun table member => Describes table [member]) tables members) :
    Describes tables.flatten members := by
  induction h with
  | nil => exact .nil
  | cons hfirst hrest ih => exact hfirst.append ih

theorem denotes_ofText {text : String} {s : Scalar} (h : Scalar.ofText text = .ok s) :
    Denotes (.leaf (.scalar s)) s.json :=
  denotes_scalar (writable_ofText h)

theorem denotes_ofResolved {resolved : Resolved} {leaf : Leaf}
    (h : Leaf.ofResolved resolved = .ok leaf) :
    ∃ json, resolvedTree resolved = .ok json ∧ Denotes (.leaf leaf) json := by
  unfold Leaf.ofResolved at h
  split at h
  · rename_i text
    obtain ⟨s, hs, h⟩ := bind_eq_ok_iff.1 h
    obtain rfl := Except.ok.inj h
    exact ⟨s.json, map_eq_ok_iff.2 ⟨s, hs, rfl⟩, denotes_ofText hs⟩
  · rename_i key
    obtain rfl := Except.ok.inj h
    exact ⟨_, rfl, denotes_descriptor key nofun⟩
  · rename_i key default
    split_ifs at h with hempty
    · obtain rfl := Except.ok.inj h
      refine ⟨.array [.text "BLACKBOARD", .text key], ?_, denotes_descriptor key nofun⟩
      rw [resolvedTree, Option.filter_some, if_neg (by simp [hempty])]
    · obtain ⟨s, hs, h⟩ := bind_eq_ok_iff.1 h
      obtain rfl := Except.ok.inj h
      refine ⟨.array [.text "BLACKBOARD", .text key, s.json], ?_,
        denotes_descriptor key fun s' hs' => Option.some.inj hs' ▸ writable_ofText hs⟩
      rw [resolvedTree, Option.filter_some, if_pos (by simpa using hempty)]
      exact map_eq_ok_iff.2 ⟨s, hs, rfl⟩

/-- What writes a text as a leaf and what reads it as a document value agree. -/
def Agree (leaf : String → Except Fault Leaf) (tree : String → Except Fault Json) (text : String) :
    Prop :=
  ∀ l, leaf text = .ok l → ∃ json, tree text = .ok json ∧ Denotes (.leaf l) json

theorem describes_attributeEntry {name text : String} {leaf : String → Except Fault Leaf}
    {tree : String → Except Fault Json} (hagree : Agree leaf tree text) {entries : Table Leaf}
    (h : Exporter.attributeEntry name text leaf = .ok entries) :
    ∃ json?, attributeTree text tree = .ok json? ∧ Describes entries [(name, json?)] := by
  unfold Exporter.attributeEntry at h
  unfold attributeTree
  split_ifs at h with hempty
  · obtain rfl := Except.ok.inj h
    exact ⟨none, if_pos hempty, describes_nil name⟩
  · obtain ⟨l, hl, h⟩ := bind_eq_ok_iff.1 h
    obtain rfl := Except.ok.inj h
    obtain ⟨json, hjson, hdenotes⟩ := hagree l hl
    exact ⟨some json, (if_neg hempty).trans (map_eq_ok_iff.2 ⟨json, hjson, rfl⟩),
      describes_singleton hdenotes⟩

namespace Exporter

variable {e : Exporter}

theorem agree_leafOf (text : String) : Agree e.leafOf e.valueTree text :=
  fun _ h => denotes_ofResolved h

theorem agree_functionLeaf (text : String) : Agree e.functionLeaf e.functionTree text := by
  intro l h
  unfold functionLeaf at h
  unfold functionTree
  generalize parseValue text true = value at h ⊢
  cases value with
  | reference key => exact denotes_ofResolved h
  | rawPath path =>
      obtain rfl := Except.ok.inj h
      exact ⟨_, rfl, denotes_module _⟩
  | literal name =>
      obtain rfl := Except.ok.inj h
      exact ⟨_, rfl, denotes_module _⟩

theorem agree_subtreeLeaf (text : String) : Agree e.subtreeLeaf e.nameTree text := by
  intro l h
  unfold subtreeLeaf at h
  unfold nameTree
  generalize e.resolver.resolve text = resolved at h ⊢
  cases resolved with
  | literal name =>
      obtain rfl := Except.ok.inj h
      exact ⟨_, rfl, denotes_scalar trivial⟩
  | reference key default => exact denotes_ofResolved h

/-- A policy that is written behind a point is its own text, unless a line feed ends it. -/
theorem agree_policyLeaf {text : String}
    (hname : ∀ name, e.resolver.resolve text = .literal name → isIdentifier name = true →
      bareName name = name) : Agree e.policyLeaf e.nameTree text := by
  intro l h
  unfold policyLeaf at h
  unfold nameTree
  generalize e.resolver.resolve text = resolved at h hname ⊢
  cases resolved with
  | literal name =>
      obtain rfl := Except.ok.inj h
      refine ⟨_, rfl, ?_⟩
      split_ifs with hidentifier
      · exact denotes_member .parallelPolicy (hname name rfl hidentifier)
      · exact denotes_indexed .parallelPolicy name
  | reference key default => exact denotes_ofResolved h

theorem bareName_effectiveType (node : Node) :
    bareName node.effectiveType = node.effectiveType := by
  unfold Node.effectiveType
  split
  · rename_i kind _
    cases kind <;> decide
  · cases node.kind <;> decide

/-! ### Arguments -/

theorem assigns_paramLeaf (name : String) {value : String} {leaf : Leaf}
    (h : e.paramLeaf value = .ok leaf) :
    ∃ json?, e.paramTree value = .ok json? ∧
      Assigns (.indexed name, .leaf leaf) (name, json?) := by
  have hresolved : ∀ {resolved}, Leaf.ofResolved resolved = .ok leaf →
      ∃ json?, some <$> resolvedTree resolved = .ok json? ∧
        Assigns (.indexed name, .leaf leaf) (name, json?) := by
    intro resolved h
    obtain ⟨json, hjson, hdenotes⟩ := denotes_ofResolved h
    exact ⟨some json, map_eq_ok_iff.2 ⟨json, hjson, rfl⟩, .set rfl hdenotes⟩
  unfold paramLeaf at h
  unfold paramTree
  generalize e.resolver.resolve value = resolved at h ⊢
  cases resolved with
  | literal text =>
      dsimp only at h ⊢
      split_ifs at h ⊢ with hempty
      · obtain rfl := Except.ok.inj h
        exact ⟨none, rfl, .remove rfl⟩
      · exact hresolved h
  | reference key default => exact hresolved h

theorem exists_updates {params : List Param} {tables : List (Table Leaf)}
    (h : params.mapM e.paramEntry = .ok tables) :
    ∃ updates, ((params.filter fun param => !param.name.isEmpty).mapM fun param => do
        return (param.name, ← e.paramTree param.value)) = .ok updates ∧
      List.Forall₂ Assigns tables.flatten updates := by
  induction params generalizing tables with
  | nil =>
      obtain rfl := Except.ok.inj h
      exact ⟨[], rfl, .nil⟩
  | cons param params ih =>
      rw [List.mapM_cons] at h
      obtain ⟨entry, hentry, h⟩ := bind_eq_ok_iff.1 h
      obtain ⟨rest, hrest, h⟩ := bind_eq_ok_iff.1 h
      obtain rfl := Except.ok.inj h
      obtain ⟨updates, hupdates, hassigns⟩ := ih hrest
      unfold paramEntry at hentry
      split_ifs at hentry with hname
      · obtain rfl := Except.ok.inj hentry
        refine ⟨updates, ?_, hassigns⟩
        rwa [List.filter_cons_of_neg (by simp [hname])]
      · obtain ⟨leaf, hleaf, hentry⟩ := bind_eq_ok_iff.1 hentry
        obtain rfl := Except.ok.inj hentry
        obtain ⟨json?, hjson, hassign⟩ := assigns_paramLeaf param.name hleaf
        refine ⟨(param.name, json?) :: updates, ?_, .cons hassign hassigns⟩
        rw [List.filter_cons_of_pos (by simp [hname]), List.mapM_cons, hjson, hupdates]
        rfl

theorem describes_paramsEntry {node : Node} {entries : Table Leaf}
    (h : e.paramsEntry node = .ok entries) :
    ∃ json?, e.paramsTree node = .ok json? ∧ Describes entries [("params", json?)] := by
  unfold paramsEntry at h
  unfold paramsTree
  generalize node.params.getD [] = params at h ⊢
  cases params with
  | nil =>
      obtain rfl := Except.ok.inj h
      exact ⟨none, rfl, describes_nil _⟩
  | cons param params =>
      obtain ⟨tables, htables, h⟩ := bind_eq_ok_iff.1 h
      obtain rfl := Except.ok.inj h
      obtain ⟨updates, hupdates, hassigns⟩ := exists_updates htables
      refine ⟨some (.object (updates.foldl setOrRemove [])),
        bind_eq_ok_iff.2 ⟨updates, hupdates, rfl⟩, describes_singleton ?_⟩
      exact denotes_updates hassigns

theorem describes_subtreeEntry {node : Node} {entries : Table Leaf}
    (h : e.subtreeEntry node = .ok entries) :
    ∃ json?, e.subtreeTree node = .ok json? ∧ Describes entries [("subtree_name", json?)] := by
  unfold subtreeEntry at h
  unfold subtreeTree
  split_ifs at h ⊢
  · exact describes_attributeEntry (agree_subtreeLeaf _) h
  · obtain rfl := Except.ok.inj h
    exact ⟨none, rfl, describes_nil _⟩

theorem describes_details {node : Node} {tables : List (Table Leaf)}
    (h : detailKeys.mapM (fun (d, key) => attributeEntry key (node.detailText d) e.leafOf) =
      .ok tables) :
    ∃ members, (detailKeys.mapM fun (d, key) => do
        return (key, ← attributeTree (node.detailText d) e.valueTree)) = .ok members ∧
      Describes tables.flatten members ∧ members.map Prod.fst = detailKeys.map Prod.snd := by
  obtain ⟨members, hmembers, hdescribes⟩ := exists_mapM_of_forall
    (g := fun (d, key) => do return (key, ← attributeTree (node.detailText d) e.valueTree))
    (R := fun table member => Describes table [member]) h (by
      rintro ⟨d, key⟩ - table htable
      obtain ⟨json?, hjson, hdescribes⟩ := describes_attributeEntry (agree_leafOf _) htable
      exact ⟨(key, json?), bind_eq_ok_iff.2 ⟨json?, hjson, rfl⟩, hdescribes⟩)
  refine ⟨members, hmembers, describes_flatten hdescribes, ?_⟩
  have hkeys : List.Forall₂ (fun pair member => member.1 = pair.2) detailKeys members :=
    (mapM_eq_ok_iff.1 hmembers).imp fun pair member hmember => by
      obtain ⟨json?, -, hmember⟩ := bind_eq_ok_iff.1 hmember
      exact congrArg Prod.fst (Except.ok.inj hmember).symm
  exact (List.forall₂_eq_eq_eq ▸ List.forall₂_map_left_iff.2 (List.forall₂_map_right_iff.2
    (hkeys.imp fun _ _ => Eq.symm))).symm

/-! ### Nodes -/

/-- The keys of a node's table but for its children. -/
def headKeys : List String :=
  ["type", "name", "func", "params", "policy"] ++ detailKeys.map Prod.snd ++ ["subtree_name"]

theorem describes_head {node : Node} {entries : Table Leaf}
    (hname : ∀ name, e.resolver.resolve node.policy = .literal name → isIdentifier name = true →
      bareName name = name)
    (h : e.head node = .ok entries) :
    ∃ members, e.headTree node = .ok members ∧ Describes entries members ∧
      members.map Prod.fst = headKeys := by
  unfold head at h
  obtain ⟨func, hfunc, h⟩ := bind_eq_ok_iff.1 h
  obtain ⟨params, hparams, h⟩ := bind_eq_ok_iff.1 h
  obtain ⟨policy, hpolicy, h⟩ := bind_eq_ok_iff.1 h
  obtain ⟨details, hdetails, h⟩ := bind_eq_ok_iff.1 h
  obtain ⟨subtree, hsubtree, h⟩ := bind_eq_ok_iff.1 h
  obtain rfl := Except.ok.inj h
  obtain ⟨func?, hfunc', hfuncs⟩ := describes_attributeEntry (agree_functionLeaf _) hfunc
  obtain ⟨params?, hparams', hparamss⟩ := describes_paramsEntry hparams
  obtain ⟨policy?, hpolicy', hpolicies⟩ := describes_attributeEntry (agree_policyLeaf hname) hpolicy
  obtain ⟨members, hmembers, hdescribes, hkeys⟩ := describes_details hdetails
  obtain ⟨subtree?, hsubtree', hsubtrees⟩ := describes_subtreeEntry hsubtree
  have htype : Describes [leafEntry "type" (.member .nodeType node.effectiveType)]
      [("type", some (.text node.effectiveType))] :=
    describes_singleton (denotes_member .nodeType (bareName_effectiveType node))
  have hname : Describes [leafEntry "name" (.scalar (.text node.name))]
      [("name", some (.text node.name))] :=
    describes_singleton (denotes_scalar trivial)
  have hattributes := (((hfuncs.append hparamss).append hpolicies).append hdescribes).append
    hsubtrees
  refine ⟨("type", some (.text node.effectiveType)) :: ("name", some (.text node.name)) ::
    ("func", func?) :: ("params", params?) :: ("policy", policy?) ::
      (members ++ [("subtree_name", subtree?)]), ?_, htype.append (hname.append hattributes), ?_⟩
  · unfold headTree
    rw [hfunc', hparams', hpolicy', hmembers, hsubtree']
    rfl
  · simp [headKeys, hkeys]

/-- The keys of a node's table. -/
def bodyKeys : List String := headKeys ++ ["children"]

theorem treeChildren_eq (main : Bool) (path : List Int) (id : Int) :
    e.treeChildren main path id = e.writtenChildren main path id := by
  rw [writtenChildren, shownChildren, List.filter_filter]
  refine List.filter_congr fun child _ => ?_
  cases main <;> simp [isShown, Bool.and_comm, Bool.and_assoc]

/-- Without subtree holders it does not matter whether the main tree is written. -/
theorem treeChildren_of_none (h : e.graph.ofKind .subtree = []) (path : List Int) (id : Int) :
    e.treeChildren true path id = e.writtenChildren false path id := by
  rw [writtenChildren, shownChildren, List.filter_filter]
  refine List.filter_congr fun child hchild => ?_
  have hkind : child.kind ≠ .subtree := by
    have := List.filter_eq_nil_iff.1 h child (Graph.mem_children hchild)
    simpa using this
  simp [isShown, hkind, Bool.and_comm]

theorem bodyTree_eq (e : Exporter) (main : Bool) (path : List Int) (node : Node) :
    e.bodyTree main path node = do
      let head ← e.headTree node
      let children ← (e.treeChildren main path node.id).mapM fun child => do
        return Json.object (Json.present (← e.bodyTree main (child.id :: path) child))
      return head ++ [("children", if children.isEmpty then none else some (.array children))] := by
  rw [bodyTree]
  simp only [List.mapM_subtype, List.unattach_attach]

theorem bodyTree_of_children {main : Bool} {path : List Int} {node : Node}
    {head : List (String × Option Json)} {children : List Node}
    {trees : List (List (String × Option Json))} (hhead : e.headTree node = .ok head)
    (hchildren : e.treeChildren main path node.id = children)
    (htrees : List.Forall₂ (fun child tree =>
      e.bodyTree main (child.id :: path) child = .ok tree) children trees) :
    e.bodyTree main path node = .ok (head ++ [("children", if trees.isEmpty then none
      else some (.array (trees.map fun tree => .object (Json.present tree))))]) := by
  have hall : children.mapM (fun child => do
      return Json.object (Json.present (← e.bodyTree main (child.id :: path) child))) =
        .ok (trees.map fun tree => .object (Json.present tree)) := by
    refine mapM_eq_ok_iff.2 (List.forall₂_map_right_iff.2 (htrees.imp fun child tree htree => ?_))
    rw [htree]
    rfl
  rw [bodyTree_eq, hhead, hchildren, hall]
  simp [pure, Except.pure, bind, Except.bind]

theorem describes_childrenEntry {bodies : List (Table Leaf)} {children : List Json}
    (h : List.Forall₂ (fun body child => Denotes (.table body) child) bodies children) :
    Describes (childrenEntry bodies)
      [("children", if children.isEmpty then none else some (.array children))] := by
  unfold childrenEntry
  cases h with
  | nil => exact describes_nil _
  | @cons body child bodies children hfirst hrest =>
      refine describes_singleton ?_
      have hbodies : List.Forall₂ Denotes ((body :: bodies).map Code.table) (child :: children) :=
        List.forall₂_map_left_iff.2 (.cons hfirst hrest)
      have hlist := denotes_array hbodies (List.cons_ne_nil _ _)
      rwa [listTable, List.map_map] at hlist

theorem denotes_body {body : Table Leaf} {members : List (String × Option Json)}
    (h : Describes body members) {keys : List String} (hkeys : members.map Prod.fst = keys)
    (hnodup : keys.Nodup) : Denotes (.table body) (.object (Json.present members)) := by
  subst hkeys
  exact denotes_object h (hnodup.sublist (Json.map_fst_present_sublist members))

/-- No line feed ends a policy that is written behind a point. -/
def KeepsPolicies (e : Exporter) : Prop :=
  ∀ node ∈ e.graph.nodes, ∀ name, e.resolver.resolve node.policy = .literal name →
    isIdentifier name = true → bareName name = name

/-- **A body** denotes the members of its node, with those of the nodes below it. -/
theorem describes_bodyOn
    (hname : e.KeepsPolicies) {main main' : Bool}
    (hmain : ∀ path id, e.treeChildren main' path id = e.writtenChildren main path id)
    {path : List Int} {node : Node} (hnode : node ∈ e.graph.nodes) {entries : Table Leaf}
    (h : e.bodyOn main path node = .ok entries) :
    ∃ members, e.bodyTree main' path node = .ok members ∧ Describes entries members ∧
      members.map Prod.fst = bodyKeys := by
  induction path, node using written_induct e main generalizing entries with
  | step path node ih =>
      obtain ⟨front, bodies, hfront, -, hbodies, rfl⟩ := bodyOn_eq_ok_iff.1 h
      obtain ⟨head, hhead, hdescribes, hkeys⟩ := describes_head (hname node hnode) hfront
      obtain ⟨children, hchildren, hall⟩ := exists_mapM_of_forall
        (g := fun child => do
          return Json.object (Json.present (← e.bodyTree main' (child.id :: path) child)))
        (R := fun body child => Denotes (.table body) child) hbodies (by
          intro child hchild body hbody
          obtain ⟨members, hmembers, hmembers', hkeys⟩ :=
            ih child hchild (mem_of_written hchild) hbody
          exact ⟨_, bind_eq_ok_iff.2 ⟨members, hmembers, rfl⟩,
            denotes_body hmembers' hkeys (by decide)⟩)
      refine ⟨_, ?_, hdescribes.append (describes_childrenEntry hall), ?_⟩
      · rw [bodyTree_eq, hhead, hmain, hchildren]
        rfl
      · rw [List.map_append, hkeys]
        rfl

/-! ### Subtrees -/

theorem exists_holderTree (hname : e.KeepsPolicies) {holder : Node} {body? : Option (Table Leaf)}
    (h : Script.holderBody? e holder = .ok body?) :
    ∃ tree?, e.holderTree holder = .ok tree? ∧
      Option.Rel (fun body tree => Denotes (.table body) tree) body? tree? := by
  have hmem : ∀ child ∈ e.graph.children holder.id, child ∈ e.graph.nodes :=
    fun _ => Graph.mem_children
  unfold Script.holderBody? at h
  unfold holderTree
  generalize e.graph.children holder.id = children at h hmem ⊢
  cases children with
  | nil =>
      obtain rfl := Except.ok.inj h
      exact ⟨none, rfl, .none⟩
  | cons child rest =>
      dsimp only at h ⊢
      unfold Exporter.body? at h
      split_ifs at h ⊢
      · obtain rfl := Except.ok.inj h
        exact ⟨none, rfl, .none⟩
      · obtain ⟨body, hbody, rfl⟩ := map_eq_ok_iff.1 h
        obtain ⟨members, hmembers, hdescribes, hkeys⟩ := describes_bodyOn hname
          (treeChildren_eq false) (hmem child List.mem_cons_self) hbody
        exact ⟨_, bind_eq_ok_iff.2 ⟨members, hmembers, rfl⟩,
          .some (denotes_body hdescribes hkeys (by decide))⟩

/-- A subtree is the tree of its name. -/
def SubtreeDenotes (subtree : String × Table Leaf) (field : String × Json) : Prop :=
  subtree.1 = field.1 ∧ Denotes (.table subtree.2) field.2

theorem exists_subtreesTree (hname : e.KeepsPolicies) {subtrees : List (String × Table Leaf)}
    (h : Script.subtreesOf e = .ok subtrees) :
    ∃ fields, e.subtreesTree = .ok fields ∧ List.Forall₂ SubtreeDenotes subtrees fields ∧
      (fields.map Prod.fst).Nodup := by
  unfold Script.subtreesOf at h
  obtain ⟨bodies, hbodies, h⟩ := bind_eq_ok_iff.1 h
  obtain rfl := Except.ok.inj h
  obtain ⟨trees, htrees, hall⟩ := exists_mapM_of_forall
    (g := fun holder : Node => do return (trim holder.name, ← e.holderTree holder))
    (R := fun body tree => body.1 = tree.1 ∧
      Option.Rel (fun body tree => Denotes (.table body) tree) body.2 tree.2) hbodies (by
      intro holder _ body hbody
      obtain ⟨body?, hbody?, hbody⟩ := bind_eq_ok_iff.1 hbody
      obtain rfl := Except.ok.inj hbody
      obtain ⟨tree?, htree, hrel⟩ := exists_holderTree hname hbody?
      exact ⟨(trim holder.name, tree?), bind_eq_ok_iff.2 ⟨tree?, htree, rfl⟩, rfl, hrel⟩)
  refine ⟨_, bind_eq_ok_iff.2 ⟨trees, htrees, rfl⟩, ?_⟩
  -- A holder puts its body on one side and its tree on the other, under the same name.
  refine List.rel_foldl (P := fun (subtrees : List (String × Table Leaf)) fields =>
    List.Forall₂ SubtreeDenotes subtrees fields ∧ (fields.map Prod.fst).Nodup) ?_
    ⟨.nil, List.nodup_nil⟩ hall
  rintro subtrees fields ⟨hbefore, hkeys⟩ ⟨name, written⟩ ⟨_, tree?⟩ ⟨rfl, hrel⟩
  cases hrel with
  | none => exact ⟨hbefore, hkeys⟩
  | some hdenotes =>
      exact ⟨Keyed.forall₂_put Function.injective_id (fun _ _ h => h.1) hbefore ⟨rfl, hdenotes⟩,
        Keyed.nodup_map_put hkeys _⟩

end Exporter

/-! ### Scripts -/

namespace Script

/-- The entry of the subtrees, unless there are none. -/
def subtreesEntry (subtrees : List (String × Table Leaf)) : Table Leaf :=
  if subtrees.isEmpty then []
  else [(.named "subtrees",
    .table (subtrees.map fun subtree => (.indexed subtree.1, .table subtree.2)))]

theorem table_eq (script : Script) :
    script.table = script.main ++ subtreesEntry script.subtrees := by
  unfold table subtreesEntry
  split_ifs
  · rw [List.append_nil]
  · rfl

theorem describes_subtreesEntry {subtrees : List (String × Table Leaf)}
    {fields : List (String × Json)} (h : List.Forall₂ Exporter.SubtreeDenotes subtrees fields)
    (hkeys : (fields.map Prod.fst).Nodup) :
    Describes (subtreesEntry subtrees)
      [("subtrees", if fields.isEmpty then none else some (.object fields))] := by
  have htable : Denotes
      (.table (subtrees.map fun subtree => (.indexed subtree.1, .table subtree.2)))
      (.object fields) :=
    denotes_object (List.forall₂_map_left_iff.2 (h.imp fun _ _ hsubtree =>
      ⟨congrArg (fun name => some (ChunkText.plain name)) hsubtree.1, hsubtree.2⟩)) hkeys
  cases h with
  | nil => exact describes_nil _
  | cons hfirst hrest => exact describes_singleton htable

/-- The main tree holds no subtree holders, whether or not there are any. -/
theorem treeChildren_main (g : Graph) (modulePath : String) (path : List Int) (id : Int) :
    (Exporter.ofGraph g modulePath).treeChildren true path id =
      (Exporter.ofGraph g modulePath).writtenChildren (!(g.ofKind .subtree).isEmpty) path id := by
  by_cases h : g.ofKind .subtree = []
  · rw [Exporter.treeChildren_of_none h, h]
    rfl
  · rw [Exporter.treeChildren_eq, List.isEmpty_eq_false_iff.2 h]
    rfl

/-- **The tables of a script** denote the tree of its graph, if no policy that is written behind a
point ends with a line feed. -/
theorem denotes_table {g : Graph} {modulePath : String} {script : Script}
    (hname : (Exporter.ofGraph g modulePath).KeepsPolicies)
    (h : ofGraph g modulePath = .ok script) :
    ∃ tree, g.scriptTree modulePath = .ok tree ∧ Denotes (.table script.table) tree := by
  unfold ofGraph at h
  obtain ⟨root, hroot, h⟩ := bind_eq_ok_iff.1 h
  obtain ⟨written, hbody, h⟩ := bind_eq_ok_iff.1 h
  cases written with
  | none => cases h
  | some body =>
      obtain ⟨subtrees, hsubtrees, h⟩ := bind_eq_ok_iff.1 h
      obtain ⟨_, -, h⟩ := bind_eq_ok_iff.1 h
      obtain rfl := Except.ok.inj h
      have hmem : root ∈ g.nodes := mem_of_scriptRoot (mapError_eq_ok_iff.1 hroot)
      have hmain : (Exporter.ofGraph g modulePath).bodyOn (!(g.ofKind .subtree).isEmpty)
          [root.id] root = .ok body := by
        unfold Exporter.body? at hbody
        split_ifs at hbody
        · cases hbody
        · obtain ⟨written, hwritten, hsome⟩ := map_eq_ok_iff.1 hbody
          rwa [Option.some.inj hsome] at hwritten
      obtain ⟨members, hmembers, hdescribes, hkeys⟩ := Exporter.describes_bodyOn hname
        (treeChildren_main g modulePath) hmem hmain
      obtain ⟨fields, hfields, hall, hnodup⟩ := Exporter.exists_subtreesTree hname hsubtrees
      refine ⟨_, bind_eq_ok_iff.2 ⟨root, hroot, bind_eq_ok_iff.2 ⟨members, hmembers,
        bind_eq_ok_iff.2 ⟨fields, hfields, rfl⟩⟩⟩, ?_⟩
      rw [table_eq]
      refine Exporter.denotes_body (hdescribes.append (describes_subtreesEntry hall hnodup)) ?_
        (show (Exporter.bodyKeys ++ ["subtrees"]).Nodup by decide)
      rw [List.map_append, hkeys]
      rfl

end Script

end Lua

end BehaviorTree
