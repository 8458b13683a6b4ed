import BehaviorTree.Lua.Script
import BehaviorTree.Proofs.Decimal.Defined
import BehaviorTree.Proofs.Keyed
import BehaviorTree.Proofs.Lua.Lexemes
import BehaviorTree.Proofs.Success

/-! # Exported tables

Where the entries of a script come from.  `Table.Holds` finds an entry in a table or in a table below
it.  A node puts entries into its own table (`Exporter.Puts`), and writes the leaves of these and
those of its arguments (`Exporter.Writes`).  A body holds the leaves of the nodes that the export
visits on its way down (`Exporter.Visits`), and a script those of the nodes that it covers
(`Exporter.Covers`): exactly these, by `holds_head_iff`, `holds_bodyOn_iff` and
`Script.holds_table_iff`.  The trees beside the main tree are those of the holders that have one, put
one after the other (`Script.exists_trees`).

So what holds of the leaves that a node is written with holds throughout a script. -/

namespace BehaviorTree

open BehaviorTree.Text BehaviorTree.Decimal

/-- The subtree holders that have a tree: their first child is there and no blackboard. -/
def Graph.treeHolders (g : Graph) : List Node :=
  (g.ofKind .subtree).filter fun holder =>
    (g.children holder.id).head?.any fun child => child.kind ≠ .blackboard

namespace Lua

/-! ### Entries of tables -/

/-- The entries of a table and of the tables below it. -/
inductive Table.Holds {α : Type} : Table α → Key → Code α → Prop
  | here {entries : Table α} {key : Key} {value : Code α} (h : (key, value) ∈ entries) :
      Holds entries key value
  | inside {entries inner : Table α} {outer key : Key} {value : Code α}
      (h : (outer, .table inner) ∈ entries) (hinside : Holds inner key value) :
      Holds entries key value

namespace Table

variable {α : Type} {entries others inner : Table α} {key outer : Key} {value : Code α} {a : α}

theorem holds_iff : Holds entries key value ↔ (key, value) ∈ entries ∨
    ∃ outer inner, (outer, .table inner) ∈ entries ∧ Holds inner key value := by
  constructor
  · intro h
    cases h with
    | here h => exact Or.inl h
    | inside h hinside => exact Or.inr ⟨_, _, h, hinside⟩
  · rintro (h | ⟨outer, inner, h, hinside⟩)
    · exact .here h
    · exact .inside h hinside

theorem not_holds_nil : ¬ Holds ([] : Table α) key value := by
  intro h
  rcases holds_iff.1 h with h | ⟨_, _, h, -⟩ <;> cases h

theorem holds_append_iff : Holds (entries ++ others) key value ↔
    Holds entries key value ∨ Holds others key value := by
  rw [holds_iff, @holds_iff _ entries, @holds_iff _ others]
  simp only [List.mem_append, or_and_right, exists_or]
  exact or_or_or_comm

theorem holds_singleton_table_iff : Holds [(outer, .table inner)] key value ↔
    (key = outer ∧ value = .table inner) ∨ Holds inner key value := by
  rw [holds_iff]
  simp only [List.mem_singleton, Prod.mk.injEq, Code.table.injEq]
  exact or_congr_right ⟨fun ⟨_, _, ⟨_, he⟩, h⟩ => he ▸ h, fun h => ⟨_, _, ⟨rfl, rfl⟩, h⟩⟩

/-- The leaves of a table whose entries are tables. -/
theorem holds_map_leaf_iff {β : Type} {items : List β} {keyOf : β → Key} {tableOf : β → Table α} :
    Holds (items.map fun item => (keyOf item, Code.table (tableOf item))) key (.leaf a) ↔
      ∃ item ∈ items, Holds (tableOf item) key (.leaf a) := by
  rw [holds_iff]
  simp only [List.mem_map, Prod.mk.injEq, Code.table.injEq, reduceCtorEq, and_false, exists_false,
    false_or]
  constructor
  · rintro ⟨_, _, ⟨item, hitem, -, rfl⟩, h⟩
    exact ⟨item, hitem, h⟩
  · rintro ⟨item, hitem, h⟩
    exact ⟨_, _, ⟨item, hitem, rfl, rfl⟩, h⟩

/-- The keys of a table whose entries are tables. -/
theorem holds_map {β : Type} {items : List β} {keyOf : β → Key} {tableOf : β → Table α}
    (h : Holds (items.map fun item => (keyOf item, Code.table (tableOf item))) key value) :
    ∃ item ∈ items, key = keyOf item ∨ Holds (tableOf item) key value := by
  rcases holds_iff.1 h with h | ⟨outer, inner, h, hbelow⟩
  · obtain ⟨item, hitem, he⟩ := List.mem_map.1 h
    exact ⟨item, hitem, Or.inl (congrArg Prod.fst he).symm⟩
  · obtain ⟨item, hitem, he⟩ := List.mem_map.1 h
    obtain ⟨-, htable⟩ := Prod.mk.inj he
    obtain rfl := Code.table.inj htable
    exact ⟨item, hitem, Or.inr hbelow⟩

/-- What holds of all entries of a code, tables below it included. -/
theorem all_of_holds {P : Key → Prop} {Q : α → Prop} : (entries : Table α) →
    (∀ key value, Holds entries key value → P key ∧ ∀ a, value = .leaf a → Q a) →
    (Code.table entries).All P Q
  | entries, h => Code.all_table_iff.2 fun
    | (key, .leaf a), he =>
        have hentry := h key (.leaf a) (.here he)
        ⟨hentry.1, .leaf a (hentry.2 a rfl)⟩
    | (key, .table inner), he =>
        ⟨(h key _ (.here he)).1,
          all_of_holds inner fun key value hbelow => h key value (.inside he hbelow)⟩
termination_by entries => sizeOf entries
decreasing_by
  have := List.sizeOf_lt_of_mem he
  simp only [Prod.mk.sizeOf_spec, Code.table.sizeOf_spec] at this
  omega

/-- A leaf of a code has what all its leaves have. -/
theorem leaf_of_all {P : Key → Prop} {Q : α → Prop} (h : (Code.table entries).All P Q)
    (hholds : Holds entries key (.leaf a)) : Q a := by
  generalize hvalue : Code.leaf a = value at hholds
  induction hholds with
  | here hmem =>
      obtain rfl := hvalue
      exact Code.all_leaf_iff.1 (Code.all_table_iff.1 h _ hmem).2
  | inside hmem _ ih => exact ih (Code.all_table_iff.1 h _ hmem).2 hvalue

end Table

namespace Exporter

variable {e : Exporter}

/-! ### The entries of a node -/

/-- The entries of the table of a node, but for its children. -/
inductive Puts (e : Exporter) (node : Node) : Key → Code Leaf → Prop
  | type : Puts e node (.named "type") (.leaf (.member .nodeType node.effectiveType))
  | name : Puts e node (.named "name") (.leaf (.scalar (.text node.name)))
  | func {leaf : Leaf} (hne : node.func ≠ "") (h : e.functionLeaf node.func = .ok leaf) :
      Puts e node (.named "func") (.leaf leaf)
  | params {tables : List (Table Leaf)} (hne : node.params.getD [] ≠ [])
      (h : (node.params.getD []).mapM e.paramEntry = .ok tables) :
      Puts e node (.named "params") (.table tables.flatten)
  | policy {leaf : Leaf} (hne : node.policy ≠ "") (h : e.policyLeaf node.policy = .ok leaf) :
      Puts e node (.named "policy") (.leaf leaf)
  | detail {d : Detail} {key : String} {leaf : Leaf} (hkey : (d, key) ∈ detailKeys)
      (hne : node.detailText d ≠ "") (h : e.leafOf (node.detailText d) = .ok leaf) :
      Puts e node (.named key) (.leaf leaf)
  | subtree {leaf : Leaf} (hd : node.decorator = some .subtreeRef)
      (hne : node.detailText .subtree ≠ "")
      (h : e.subtreeLeaf (node.detailText .subtree) = .ok leaf) :
      Puts e node (.named "subtree_name") (.leaf leaf)

/-- The leaves that a node is written with: those of its own table and its arguments. -/
inductive Writes (e : Exporter) (node : Node) : Key → Leaf → Prop
  | own {key : Key} {leaf : Leaf} (h : e.Puts node key (.leaf leaf)) : Writes e node key leaf
  | argument {param : Param} {leaf : Leaf} (hmem : param ∈ node.params.getD [])
      (hname : param.name ≠ "") (h : e.paramLeaf param.value = .ok leaf) :
      Writes e node (.indexed param.name) leaf

theorem attributeEntry_eq {name text : String} {leafFor : String → Except Fault Leaf}
    {leaf : Leaf} (hne : text.isEmpty = false) (h : leafFor text = .ok leaf) :
    attributeEntry name text leafFor = .ok [leafEntry name leaf] := by
  rw [attributeEntry, hne, h]
  rfl

theorem paramEntry_eq {param : Param} {leaf : Leaf}
    (hne : param.name.isEmpty = false) (h : e.paramLeaf param.value = .ok leaf) :
    e.paramEntry param = .ok [(.indexed param.name, .leaf leaf)] := by
  rw [paramEntry, hne, h]
  rfl

theorem mem_attributeEntry_iff {name text : String} {leafFor : String → Except Fault Leaf}
    {entries : Table Leaf} (h : attributeEntry name text leafFor = .ok entries) {key : Key}
    {value : Code Leaf} : (key, value) ∈ entries ↔
      text ≠ "" ∧ ∃ leaf, leafFor text = .ok leaf ∧ key = .named name ∧ value = .leaf leaf := by
  unfold attributeEntry at h
  split_ifs at h with hempty
  · obtain rfl := Except.ok.inj h
    simp [String.isEmpty_iff.1 hempty]
  · obtain ⟨leaf, hleaf, h⟩ := bind_eq_ok_iff.1 h
    obtain rfl := Except.ok.inj h
    have hne : text ≠ "" := fun he => hempty (String.isEmpty_iff.2 he)
    simp [leafEntry, hne, hleaf]

theorem mem_paramsEntry_iff {node : Node} {entries : Table Leaf}
    (h : e.paramsEntry node = .ok entries) {key : Key} {value : Code Leaf} :
    (key, value) ∈ entries ↔ node.params.getD [] ≠ [] ∧
      ∃ tables, (node.params.getD []).mapM e.paramEntry = .ok tables ∧ key = .named "params" ∧
        value = .table tables.flatten := by
  unfold paramsEntry at h
  split at h
  · rename_i hnil
    obtain rfl := Except.ok.inj h
    simp [hnil]
  · rename_i hne
    obtain ⟨tables, htables, h⟩ := bind_eq_ok_iff.1 h
    obtain rfl := Except.ok.inj h
    simp [show node.params.getD [] ≠ [] from hne, htables]

theorem mem_details_iff {node : Node} {tables : List (Table Leaf)}
    (h : detailKeys.mapM (fun (d, key) => attributeEntry key (node.detailText d) e.leafOf) =
      .ok tables) {key : Key} {value : Code Leaf} :
    (key, value) ∈ tables.flatten ↔ ∃ d name, (d, name) ∈ detailKeys ∧ node.detailText d ≠ "" ∧
      ∃ leaf, e.leafOf (node.detailText d) = .ok leaf ∧ key = .named name ∧ value = .leaf leaf := by
  rw [List.mem_flatten]
  constructor
  · rintro ⟨entries, hentries, hmem⟩
    obtain ⟨⟨d, name⟩, hkey, hentry⟩ := exists_of_mem_mapM h hentries
    exact ⟨d, name, hkey, (mem_attributeEntry_iff hentry).1 hmem⟩
  · rintro ⟨d, name, hkey, hvalue⟩
    obtain ⟨entries, hentries, hentry⟩ := exists_mem_of_mapM h hkey
    exact ⟨entries, hentries, (mem_attributeEntry_iff hentry).2 hvalue⟩

theorem mem_subtreeEntry_iff {node : Node} {entries : Table Leaf}
    (h : e.subtreeEntry node = .ok entries) {key : Key} {value : Code Leaf} :
    (key, value) ∈ entries ↔ node.decorator = some .subtreeRef ∧ node.detailText .subtree ≠ "" ∧
      ∃ leaf, e.subtreeLeaf (node.detailText .subtree) = .ok leaf ∧
        key = .named "subtree_name" ∧ value = .leaf leaf := by
  unfold subtreeEntry at h
  split_ifs at h with hd
  · rw [mem_attributeEntry_iff h]
    simp [hd]
  · obtain rfl := Except.ok.inj h
    simp [hd]

/-- **The table of a node**, but for its children. -/
theorem mem_head_iff {node : Node} {entries : Table Leaf} (h : e.head node = .ok entries)
    {key : Key} {value : Code Leaf} : (key, value) ∈ entries ↔ e.Puts node key value := by
  unfold head at h
  obtain ⟨func, hfunc, h⟩ := bind_eq_ok_iff.1 h
  obtain ⟨params, hparams, h⟩ := bind_eq_ok_iff.1 h
  obtain ⟨policy, hpolicy, h⟩ := bind_eq_ok_iff.1 h
  obtain ⟨details, hdetails, h⟩ := bind_eq_ok_iff.1 h
  obtain ⟨subtree, hsubtree, h⟩ := bind_eq_ok_iff.1 h
  obtain rfl := Except.ok.inj h
  simp only [List.mem_cons, List.mem_append, mem_attributeEntry_iff hfunc,
    mem_paramsEntry_iff hparams, mem_attributeEntry_iff hpolicy, mem_details_iff hdetails,
    mem_subtreeEntry_iff hsubtree, leafEntry, Prod.mk.injEq]
  constructor
  · rintro (⟨rfl, rfl⟩ | ⟨rfl, rfl⟩ | (((⟨hne, leaf, h, rfl, rfl⟩ | ⟨hne, tables, h, rfl, rfl⟩) |
      ⟨hne, leaf, h, rfl, rfl⟩) | ⟨d, name, hkey, hne, leaf, h, rfl, rfl⟩) |
      ⟨hd, hne, leaf, h, rfl, rfl⟩)
    · exact .type
    · exact .name
    · exact .func hne h
    · exact .params hne h
    · exact .policy hne h
    · exact .detail hkey hne h
    · exact .subtree hd hne h
  · intro h
    cases h with
    | type => exact Or.inl ⟨rfl, rfl⟩
    | name => exact Or.inr (Or.inl ⟨rfl, rfl⟩)
    | func hne h => exact Or.inr (Or.inr (Or.inl (Or.inl (Or.inl (Or.inl ⟨hne, _, h, rfl, rfl⟩)))))
    | params hne h =>
        exact Or.inr (Or.inr (Or.inl (Or.inl (Or.inl (Or.inr ⟨hne, _, h, rfl, rfl⟩)))))
    | policy hne h => exact Or.inr (Or.inr (Or.inl (Or.inl (Or.inr ⟨hne, _, h, rfl, rfl⟩))))
    | detail hkey hne h =>
        exact Or.inr (Or.inr (Or.inl (Or.inr ⟨_, _, hkey, hne, _, h, rfl, rfl⟩)))
    | subtree hd hne h => exact Or.inr (Or.inr (Or.inr ⟨hd, hne, _, h, rfl, rfl⟩))

theorem mem_paramEntry_iff {param : Param} {entries : Table Leaf}
    (h : e.paramEntry param = .ok entries) {key : Key} {value : Code Leaf} :
    (key, value) ∈ entries ↔ param.name ≠ "" ∧
      ∃ leaf, e.paramLeaf param.value = .ok leaf ∧ key = .indexed param.name ∧
        value = .leaf leaf := by
  unfold paramEntry at h
  split_ifs at h with hempty
  · obtain rfl := Except.ok.inj h
    simp [String.isEmpty_iff.1 hempty]
  · obtain ⟨leaf, hleaf, h⟩ := bind_eq_ok_iff.1 h
    obtain rfl := Except.ok.inj h
    have hne : param.name ≠ "" := fun he => hempty (String.isEmpty_iff.2 he)
    simp [hne, hleaf]

/-- The arguments of a node are leaves. -/
theorem holds_params_iff {params : List Param} {tables : List (Table Leaf)}
    (h : params.mapM e.paramEntry = .ok tables) {key : Key} {value : Code Leaf} :
    Table.Holds tables.flatten key value ↔ ∃ param ∈ params, param.name ≠ "" ∧
      ∃ leaf, e.paramLeaf param.value = .ok leaf ∧ key = .indexed param.name ∧
        value = .leaf leaf := by
  have hmem : ∀ {key value}, (key, value) ∈ tables.flatten ↔ ∃ param ∈ params, param.name ≠ "" ∧
      ∃ leaf, e.paramLeaf param.value = .ok leaf ∧ key = .indexed param.name ∧
        value = .leaf leaf := by
    intro key value
    rw [List.mem_flatten]
    constructor
    · rintro ⟨entries, hentries, hmem⟩
      obtain ⟨param, hparam, hentry⟩ := exists_of_mem_mapM h hentries
      exact ⟨param, hparam, (mem_paramEntry_iff hentry).1 hmem⟩
    · rintro ⟨param, hparam, hvalue⟩
      obtain ⟨entries, hentries, hentry⟩ := exists_mem_of_mapM h hparam
      exact ⟨entries, hentries, (mem_paramEntry_iff hentry).2 hvalue⟩
  rw [Table.holds_iff, hmem]
  refine or_iff_left ?_
  rintro ⟨outer, inner, htable, -⟩
  obtain ⟨_, _, _, _, _, _, hleaf⟩ := hmem.1 htable
  cases hleaf

/-- The entries of a node's table and of its arguments, by their kind. -/
theorem holds_head_iff {node : Node} {entries : Table Leaf} (h : e.head node = .ok entries)
    {key : Key} {leaf : Leaf} : Table.Holds entries key (.leaf leaf) ↔ e.Writes node key leaf := by
  rw [Table.holds_iff]
  simp only [mem_head_iff h]
  constructor
  · rintro (h | ⟨outer, inner, h, hbelow⟩)
    · exact .own h
    · cases h with
      | params hne htables =>
          obtain ⟨param, hparam, hname, _, hleaf, rfl, hsame⟩ := (holds_params_iff htables).1 hbelow
          obtain rfl := Code.leaf.inj hsame
          exact .argument hparam hname hleaf
  · intro h
    cases h with
    | own h => exact Or.inl h
    | @argument param leaf hparam hname hleaf =>
        have hne : node.params.getD [] ≠ [] := List.ne_nil_of_mem hparam
        obtain ⟨tables, htables⟩ :
            ∃ tables, (node.params.getD []).mapM e.paramEntry = .ok tables := by
          unfold head at h
          obtain ⟨_, -, h⟩ := bind_eq_ok_iff.1 h
          obtain ⟨_, hparams, -⟩ := bind_eq_ok_iff.1 h
          unfold paramsEntry at hparams
          split at hparams
          · exact absurd ‹_› hne
          · obtain ⟨tables, htables, -⟩ := bind_eq_ok_iff.1 hparams
            exact ⟨tables, htables⟩
        exact Or.inr ⟨_, _, .params hne htables,
          (holds_params_iff htables).2 ⟨param, hparam, hname, leaf, hleaf, rfl, rfl⟩⟩

theorem writable_of_puts {node : Node} {key : Key} {value : Code Leaf}
    (h : e.Puts node key value) : key.Writable := by
  have hkeys : ∀ pair ∈ detailKeys, (Key.named pair.2).Writable := by decide
  cases h with
  | detail hkey => exact hkeys _ hkey
  | _ => decide

theorem writable_of_holds_head {node : Node} {entries : Table Leaf} (h : e.head node = .ok entries)
    {key : Key} {value : Code Leaf} (hholds : Table.Holds entries key value) : key.Writable := by
  rcases Table.holds_iff.1 hholds with hmem | ⟨outer, inner, hmem, hbelow⟩
  · exact writable_of_puts ((mem_head_iff h).1 hmem)
  · cases (mem_head_iff h).1 hmem with
    | params hne htables =>
        obtain ⟨_, _, _, _, _, rfl, _⟩ := (holds_params_iff htables).1 hbelow
        trivial

/-! ### Bodies -/

/-- The nodes that are visited on the way down from a node, itself among them. -/
inductive Visits (e : Exporter) (main : Bool) : List Int → Node → Node → Prop
  | self (path : List Int) (node : Node) : Visits e main path node node
  | child {path : List Int} {node child other : Node}
      (h : child ∈ e.writtenChildren main path node.id)
      (hbelow : Visits e main (child.id :: path) child other) : Visits e main path node other

theorem mem_writtenChildren_iff {main : Bool} {path : List Int} {id : Int} {child : Node} :
    child ∈ e.writtenChildren main path id ↔
      child ∈ e.shownChildren main id ∧ child.id ∉ path := by
  rw [writtenChildren, List.mem_filter, decide_eq_true_iff]

theorem mem_of_shown {main : Bool} {id : Int} {child : Node} (h : child ∈ e.shownChildren main id) :
    child ∈ e.graph.nodes :=
  Graph.mem_children (List.mem_of_mem_filter h)

theorem mem_of_written {main : Bool} {path : List Int} {id : Int} {child : Node}
    (h : child ∈ e.writtenChildren main path id) : child ∈ e.graph.nodes :=
  mem_of_shown (mem_writtenChildren_iff.1 h).1

theorem Visits.mem {main : Bool} {path : List Int} {node other : Node}
    (h : e.Visits main path node other) (hnode : node ∈ e.graph.nodes) : other ∈ e.graph.nodes := by
  induction h with
  | self => exact hnode
  | child hchild _ ih => exact ih (mem_of_written hchild)

/-- **Induction down a tree**: what holds of a node if it does of the children written below it. -/
theorem written_induct (e : Exporter) (main : Bool) {motive : List Int → Node → Prop}
    (step : ∀ path node, (∀ child ∈ e.writtenChildren main path node.id,
      motive (child.id :: path) child) → motive path node) (path : List Int) (node : Node) :
    motive path node := by
  induction path, node using bodyOn.induct e main with
  | case1 path node ih =>
      refine step path node fun child hchild => ?_
      obtain ⟨hshown, hpath⟩ := mem_writtenChildren_iff.1 hchild
      exact ih child hshown hpath

/-- What is written of a child, unless it stands above its parent. -/
def childBody? (e : Exporter) (main : Bool) (path : List Int) (id : Int) (child : Node) :
    Except Fault (Option (Table Leaf)) :=
  if child.id ∈ path then logEntry [id, child.id] >>= fun _ => .ok none
  else some <$> e.bodyOn main (child.id :: path) child

theorem bodyOn_eq (e : Exporter) (main : Bool) (path : List Int) (node : Node) :
    e.bodyOn main path node = do
      let entries ← e.head node
      let bodies ← (e.shownChildren main node.id).mapM (e.childBody? main path node.id)
      return entries ++ childrenEntry (bodies.filterMap id) := by
  rw [bodyOn]
  simp only [List.mapM_subtype, List.unattach_attach]
  rfl

/-- The log entries for the children of a node that stand above it can be written. -/
def LogsSkips (e : Exporter) (main : Bool) (path : List Int) (id : Int) : Prop :=
  ∀ child ∈ e.shownChildren main id, child.id ∈ path → logEntry [id, child.id] = .ok ()

/-- **The table of a node**: its own entries, and the tables of the children below it. -/
theorem bodyOn_eq_ok_iff {main : Bool} {path : List Int} {node : Node} {table : Table Leaf} :
    e.bodyOn main path node = .ok table ↔ ∃ entries bodies, e.head node = .ok entries ∧
      e.LogsSkips main path node.id ∧
      (e.writtenChildren main path node.id).mapM (fun child =>
        e.bodyOn main (child.id :: path) child) = .ok bodies ∧
      table = entries ++ childrenEntry bodies := by
  have hchildren := @exists_mapM_checked_iff _ _ _ (fun child : Node => child.id ∈ path) _
    (fun child => logEntry [node.id, child.id]) (fun child => e.bodyOn main (child.id :: path) child)
    (e.shownChildren main node.id)
  rw [bodyOn_eq]
  constructor
  · intro h
    obtain ⟨entries, hentries, h⟩ := bind_eq_ok_iff.1 h
    obtain ⟨answers, hanswers, h⟩ := bind_eq_ok_iff.1 h
    obtain ⟨hskips, hbodies⟩ := hchildren.1 ⟨answers, hanswers, rfl⟩
    exact ⟨entries, _, hentries, hskips, hbodies, (Except.ok.inj h).symm⟩
  · rintro ⟨entries, bodies, hentries, hskips, hbodies, rfl⟩
    obtain ⟨answers, hanswers, rfl⟩ := hchildren.2 ⟨hskips, hbodies⟩
    exact bind_eq_ok_iff.2 ⟨entries, hentries, bind_eq_ok_iff.2 ⟨answers, hanswers, rfl⟩⟩

/-- Where no child of a node stands above it, the tables of all of them are made. -/
theorem bodyOn_of_disjoint {main : Bool} {path : List Int} {node : Node}
    (h : ∀ child ∈ e.shownChildren main node.id, child.id ∉ path) :
    e.bodyOn main path node = do
      let entries ← e.head node
      let bodies ← (e.shownChildren main node.id).mapM fun child =>
        e.bodyOn main (child.id :: path) child
      return entries ++ childrenEntry bodies := by
  have hbodies : (e.shownChildren main node.id).mapM (e.childBody? main path node.id) =
      List.map some <$> (e.shownChildren main node.id).mapM fun child =>
        e.bodyOn main (child.id :: path) child := by
    rw [← mapM_fmap]
    exact mapM_congr fun child hchild => if_neg (h child hchild)
  rw [bodyOn_eq, hbodies]
  cases e.head node with
  | error fault => rfl
  | ok entries =>
      cases (e.shownChildren main node.id).mapM fun child =>
          e.bodyOn main (child.id :: path) child with
      | error fault => rfl
      | ok bodies =>
          change Except.ok (entries ++ childrenEntry ((bodies.map some).filterMap id)) = _
          rw [List.filterMap_map]
          exact congrArg (fun found => Except.ok (entries ++ childrenEntry found))
            List.filterMap_some

/-- The table of a node whose children with a place in a script are known. -/
theorem bodyOn_of_shown {main : Bool} {path : List Int} {node : Node}
    {front : Table Leaf} {children : List Node} {bodies : List (Table Leaf)}
    (hhead : e.head node = .ok front) (hshown : e.shownChildren main node.id = children)
    (hfresh : ∀ child ∈ children, child.id ∉ path)
    (hbodies : List.Forall₂ (fun child body =>
      e.bodyOn main (child.id :: path) child = .ok body) children bodies) :
    e.bodyOn main path node = .ok (front ++ childrenEntry bodies) := by
  subst hshown
  rw [bodyOn_of_disjoint hfresh, hhead, mapM_eq_ok_iff.2 hbodies]
  rfl

theorem bodyOn_of_mapM {main : Bool} {path : List Int} {node : Node} {entries : Table Leaf}
    {bodies : List (Table Leaf)} (hhead : e.head node = .ok entries)
    (hskips : e.LogsSkips main path node.id)
    (hbodies : ((e.writtenChildren main path node.id).mapM fun child =>
      e.bodyOn main (child.id :: path) child) = .ok bodies) :
    e.bodyOn main path node = .ok (entries ++ childrenEntry bodies) :=
  bodyOn_eq_ok_iff.2 ⟨entries, bodies, hhead, hskips, hbodies, rfl⟩

/-- The table of a node none of whose children has a place in a script. -/
theorem bodyOn_of_unshown {main : Bool} {path : List Int} {node : Node} {entries : Table Leaf}
    (h : e.head node = .ok entries) (hshown : e.shownChildren main node.id = []) :
    e.bodyOn main path node = .ok entries := by
  have hskips : e.LogsSkips main path node.id := fun child hchild => by
    rw [hshown] at hchild
    cases hchild
  have hbodies : ((e.writtenChildren main path node.id).mapM fun child =>
      e.bodyOn main (child.id :: path) child) = .ok [] := by
    rw [writtenChildren, hshown]
    rfl
  rw [bodyOn_of_mapM h hskips hbodies]
  exact congrArg Except.ok (List.append_nil entries)

/-- The table of a node without children. -/
theorem bodyOn_of_childless {main : Bool} {path : List Int} {node : Node} {entries : Table Leaf}
    (h : e.head node = .ok entries) (hchildren : e.graph.children node.id = []) :
    e.bodyOn main path node = .ok entries :=
  bodyOn_of_unshown h (by rw [shownChildren, hchildren, List.filter_nil])

theorem holds_childrenEntry_iff {bodies : List (Table Leaf)} {key : Key} {leaf : Leaf} :
    Table.Holds (childrenEntry bodies) key (.leaf leaf) ↔
      ∃ body ∈ bodies, Table.Holds body key (.leaf leaf) := by
  unfold childrenEntry
  split_ifs with hempty
  · simp [List.isEmpty_iff.1 hempty, Table.not_holds_nil]
  · rw [Table.holds_singleton_table_iff, Table.holds_map_leaf_iff]
    simp

/-- **A body** holds the leaves of the nodes that are visited. -/
theorem holds_bodyOn_iff {main : Bool} {path : List Int} {node : Node} {entries : Table Leaf}
    (h : e.bodyOn main path node = .ok entries) {key : Key} {leaf : Leaf} :
    Table.Holds entries key (.leaf leaf) ↔
      ∃ other, e.Visits main path node other ∧ e.Writes other key leaf := by
  induction path, node using written_induct e main generalizing entries with
  | step path node ih =>
      obtain ⟨front, bodies, hfront, -, hbodies, rfl⟩ := bodyOn_eq_ok_iff.1 h
      rw [Table.holds_append_iff, holds_head_iff hfront, holds_childrenEntry_iff]
      constructor
      · rintro (h | ⟨body, hbody, h⟩)
        · exact ⟨node, .self path node, h⟩
        · obtain ⟨child, hchild, hbody⟩ := exists_of_mem_mapM hbodies hbody
          obtain ⟨other, hother, hwrites⟩ := (ih child hchild hbody).1 h
          exact ⟨other, .child hchild hother, hwrites⟩
      · rintro ⟨other, hother, hwrites⟩
        cases hother with
        | self => exact Or.inl hwrites
        | child hchild hbelow =>
            obtain ⟨body, hmem, hbody⟩ := exists_mem_of_mapM hbodies hchild
            exact Or.inr ⟨body, hmem, (ih _ hchild hbody).2 ⟨other, hbelow, hwrites⟩⟩

theorem writable_of_holds_bodyOn {main : Bool} {path : List Int} {node : Node}
    {entries : Table Leaf} (h : e.bodyOn main path node = .ok entries) {key : Key}
    {value : Code Leaf} (hholds : Table.Holds entries key value) : key.Writable := by
  induction path, node using written_induct e main generalizing entries with
  | step path node ih =>
      obtain ⟨front, bodies, hfront, -, hbodies, rfl⟩ := bodyOn_eq_ok_iff.1 h
      rcases Table.holds_append_iff.1 hholds with hholds | hholds
      · exact writable_of_holds_head hfront hholds
      · unfold childrenEntry at hholds
        split_ifs at hholds
        · exact absurd hholds Table.not_holds_nil
        · rcases Table.holds_singleton_table_iff.1 hholds with ⟨rfl, -⟩ | hholds
          · decide
          · obtain ⟨body, hmem, rfl | hbelow⟩ := Table.holds_map hholds
            · trivial
            · obtain ⟨child, hchild, hbody⟩ := exists_of_mem_mapM hbodies hmem
              exact ih child hchild hbody hbelow

theorem body?_eq_some_iff {main : Bool} {node : Node} {entries : Table Leaf} :
    e.body? main node = .ok (some entries) ↔
      node.kind ≠ .blackboard ∧ e.bodyOn main [node.id] node = .ok entries := by
  unfold body?
  split_ifs with hkind
  · simp [hkind]
  · simp [map_eq_ok_iff, hkind]

end Exporter

/-! ### Scripts -/

theorem mem_of_firstTree? {g : Graph} {id : Int} {node : Node} (h : g.firstTree? id = some node) :
    node ∈ g.nodes :=
  Graph.mem_children (List.mem_of_find?_eq_some h)

theorem mem_of_scriptRoot {g : Graph} {root : Node} (h : g.scriptRoot = .ok root) :
    root ∈ g.nodes := by
  unfold Graph.scriptRoot at h
  dsimp only at h
  split_ifs at h
  split at h
  · rename_i hboard
    obtain rfl := Except.ok.inj h
    obtain ⟨board, _, hfirst⟩ := List.exists_of_findSome?_eq_some hboard
    exact mem_of_firstTree? hfirst
  · rename_i hothers
    have hroot : root ∈ g.roots.filter fun node => node.kind ≠ .blackboard := by
      rw [hothers, Except.ok.inj h]
      exact List.mem_cons_self
    exact List.mem_of_mem_filter (List.mem_of_mem_filter hroot)
  · cases h

/-- The nodes that are written into a script: those visited from the root of the main tree, and
those visited from the first child of a subtree holder whose tree the script has. -/
inductive Exporter.Covers (e : Exporter) (script : Script) : Node → Prop
  | main {root node : Node} (hroot : e.graph.scriptRoot = .ok root)
      (h : e.Visits (!(e.graph.ofKind .subtree).isEmpty) [root.id] root node) : Covers e script node
  | subtree {holder child node : Node} {rest : List Node} {body : Table Leaf}
      (hholder : holder ∈ e.graph.ofKind .subtree)
      (hchildren : e.graph.children holder.id = child :: rest)
      (hbody : e.body? false child = .ok (some body))
      (hmem : (trim holder.name, body) ∈ script.subtrees)
      (h : e.Visits false [child.id] child node) : Covers e script node

theorem Exporter.Covers.mem {e : Exporter} {script : Script} {node : Node}
    (h : e.Covers script node) : node ∈ e.graph.nodes := by
  cases h with
  | main hroot h => exact h.mem (mem_of_scriptRoot hroot)
  | @subtree holder child node rest body hholder hchildren hbody hmem h =>
      have hchild : child ∈ e.graph.children holder.id := by
        rw [hchildren]
        exact List.mem_cons_self
      exact h.mem (Graph.mem_children hchild)

namespace Script

theorem holderBody?_eq_some_iff {e : Exporter} {holder : Node} {body : Table Leaf} :
    holderBody? e holder = .ok (some body) ↔ ∃ child rest,
      e.graph.children holder.id = child :: rest ∧ e.body? false child = .ok (some body) := by
  unfold holderBody?
  split
  · rename_i hnil
    simp [hnil]
  · rename_i child rest hchildren
    simp [hchildren]

theorem isSome_holderBody {e : Exporter} {holder : Node} {answer : Option (Table Leaf)}
    (h : holderBody? e holder = .ok answer) :
    answer.isSome = (e.graph.children holder.id).head?.any fun child => child.kind ≠ .blackboard := by
  unfold holderBody? at h
  split at h
  · rename_i hnil
    obtain rfl := Except.ok.inj h
    rw [hnil]
    rfl
  · rename_i child rest hchildren
    rw [hchildren]
    unfold Exporter.body? at h
    split_ifs at h with hkind
    · obtain rfl := Except.ok.inj h
      simp [hkind]
    · obtain ⟨body, -, rfl⟩ := map_eq_ok_iff.1 h
      simp [hkind]

/-- A holder and its tree under the trimmed name. -/
def HasTree (e : Exporter) (holder : Node) (tree : String × Table Leaf) : Prop :=
  tree.1 = trim holder.name ∧ holderBody? e holder = .ok (some tree.2)

theorem map_fst_of_hasTree {e : Exporter} {holders : List Node} {trees : List (String × Table Leaf)}
    (h : List.Forall₂ (HasTree e) holders trees) :
    trees.map Prod.fst = holders.map fun holder => trim holder.name := by
  induction h with
  | nil => rfl
  | cons hfirst _ ih => rw [List.map_cons, List.map_cons, ih, hfirst.1]

/-- The trees among the answers for some holders, in their order. -/
theorem forall₂_hasTree {e : Exporter} {holders : List Node}
    {bodies : List (String × Option (Table Leaf))}
    (h : List.Forall₂ (fun holder pair => trim holder.name = pair.1 ∧
      holderBody? e holder = .ok pair.2) holders bodies) :
    List.Forall₂ (HasTree e)
      (holders.filter fun holder =>
        (e.graph.children holder.id).head?.any fun child => child.kind ≠ .blackboard)
      (bodies.filterMap fun pair => pair.2.map fun body => (pair.1, body)) := by
  induction h with
  | nil => exact .nil
  | @cons holder pair holders bodies hfirst hrest ih =>
      obtain ⟨name, answer⟩ := pair
      obtain ⟨hname, hbody⟩ := hfirst
      rw [List.filter_cons, ← isSome_holderBody hbody]
      cases answer with
      | none => exact ih
      | some body => exact .cons ⟨hname.symm, hbody⟩ ih

/-- **The trees of a script** are those of the holders that have one, put one after the other. -/
theorem exists_trees {e : Exporter} {subtrees : List (String × Table Leaf)}
    (h : subtreesOf e = .ok subtrees) : ∃ trees, List.Forall₂ (HasTree e) e.graph.treeHolders trees ∧
      subtrees = Keyed.filled Prod.fst trees := by
  unfold subtreesOf at h
  obtain ⟨bodies, hbodies, h⟩ := bind_eq_ok_iff.1 h
  obtain rfl := Except.ok.inj h
  have hall : List.Forall₂ (fun holder pair => trim holder.name = pair.1 ∧
      holderBody? e holder = .ok pair.2) (e.graph.ofKind .subtree) bodies := by
    refine (mapM_eq_ok_iff.1 hbodies).imp fun holder pair hpair => ?_
    obtain ⟨answer, hanswer, hpair⟩ := bind_eq_ok_iff.1 hpair
    obtain rfl := Except.ok.inj hpair
    exact ⟨rfl, hanswer⟩
  refine ⟨_, forall₂_hasTree hall, ?_⟩
  rw [Keyed.filled, List.foldl_filterMap]
  refine congrArg₂ (fun f init => bodies.foldl f init) ?_ rfl
  funext subtrees pair
  obtain ⟨name, answer⟩ := pair
  cases answer <;> rfl

/-- Each tree of a script is that of a holder. -/
theorem exists_holder_of_mem {e : Exporter} {subtrees : List (String × Table Leaf)}
    (h : subtreesOf e = .ok subtrees) {name : String} {body : Table Leaf}
    (hmem : (name, body) ∈ subtrees) : ∃ holder ∈ e.graph.ofKind .subtree,
      trim holder.name = name ∧ holderBody? e holder = .ok (some body) := by
  obtain ⟨trees, htrees, rfl⟩ := exists_trees h
  obtain ⟨holder, hholder, hname, hbody⟩ :=
    exists_left_of_forall₂ htrees (Keyed.mem_of_mem_filled hmem)
  exact ⟨holder, List.mem_of_mem_filter hholder, hname.symm, hbody⟩

/-- Each holder with a tree has its name among those of a script. -/
theorem mem_names_of_holder {e : Exporter} {subtrees : List (String × Table Leaf)}
    (h : subtreesOf e = .ok subtrees) {holder : Node} (hholder : holder ∈ e.graph.ofKind .subtree)
    {body : Table Leaf} (hbody : holderBody? e holder = .ok (some body)) :
    trim holder.name ∈ subtrees.map Prod.fst := by
  obtain ⟨trees, htrees, rfl⟩ := exists_trees h
  have hhas : holder ∈ e.graph.treeHolders :=
    List.mem_filter.2 ⟨hholder, (isSome_holderBody hbody).symm⟩
  obtain ⟨tree, htree, hname, -⟩ := exists_right_of_forall₂ htrees hhas
  exact Keyed.mem_map_filled_iff.2 (List.mem_map.2 ⟨tree, htree, hname⟩)

/-- What an export has made, step by step. -/
theorem ofGraph_eq_ok_iff {g : Graph} {modulePath : String} {script : Script} :
    ofGraph g modulePath = .ok script ↔ ∃ root, g.scriptRoot = .ok root ∧ script.root = root.id ∧
      (Exporter.ofGraph g modulePath).body? (!(g.ofKind .subtree).isEmpty) root =
        .ok (some script.main) ∧
      subtreesOf (Exporter.ofGraph g modulePath) = .ok script.subtrees ∧
      logEntry [root.id, script.subtrees.length] = .ok () := by
  unfold ofGraph
  constructor
  · intro h
    obtain ⟨root, hroot, h⟩ := bind_eq_ok_iff.1 h
    obtain ⟨body?, hbody, h⟩ := bind_eq_ok_iff.1 h
    cases body? with
    | none => cases h
    | some body =>
        obtain ⟨subtrees, hsubtrees, h⟩ := bind_eq_ok_iff.1 h
        obtain ⟨_, hlog, h⟩ := bind_eq_ok_iff.1 h
        obtain rfl := Except.ok.inj h
        exact ⟨root, mapError_eq_ok_iff.1 hroot, rfl, hbody, hsubtrees, hlog⟩
  · rintro ⟨root, hroot, hid, hbody, hsubtrees, hlog⟩
    obtain ⟨id, main, subtrees⟩ := script
    obtain rfl := hid
    refine bind_eq_ok_iff.2 ⟨root, mapError_eq_ok_iff.2 hroot, ?_⟩
    refine bind_eq_ok_iff.2 ⟨some main, hbody, ?_⟩
    refine bind_eq_ok_iff.2 ⟨subtrees, hsubtrees, ?_⟩
    exact bind_eq_ok_iff.2 ⟨(), hlog, rfl⟩

/-- The leaves of a script are those of the main tree and of the trees beside it. -/
theorem holds_table_leaf_iff {script : Script} {key : Key} {leaf : Leaf} :
    Table.Holds script.table key (.leaf leaf) ↔ Table.Holds script.main key (.leaf leaf) ∨
      ∃ subtree ∈ script.subtrees, Table.Holds subtree.2 key (.leaf leaf) := by
  unfold table
  split_ifs with hempty
  · simp [List.isEmpty_iff.1 hempty]
  · rw [Table.holds_append_iff, Table.holds_singleton_table_iff, Table.holds_map_leaf_iff]
    simp

/-- **A script** holds the leaves of the nodes that it covers. -/
theorem holds_table_iff {g : Graph} {modulePath : String} {script : Script}
    (h : ofGraph g modulePath = .ok script) {key : Key} {leaf : Leaf} :
    Table.Holds script.table key (.leaf leaf) ↔ ∃ node,
      (Exporter.ofGraph g modulePath).Covers script node ∧
        (Exporter.ofGraph g modulePath).Writes node key leaf := by
  obtain ⟨root, hroot, -, hmain, hsubtrees, -⟩ := ofGraph_eq_ok_iff.1 h
  obtain ⟨-, hbody⟩ := Exporter.body?_eq_some_iff.1 hmain
  rw [holds_table_leaf_iff, Exporter.holds_bodyOn_iff hbody]
  constructor
  · rintro (⟨node, hvisits, hwrites⟩ | ⟨⟨name, body⟩, hmem, hholds⟩)
    · exact ⟨node, .main hroot hvisits, hwrites⟩
    · obtain ⟨holder, hholder, rfl, hbody⟩ := exists_holder_of_mem hsubtrees hmem
      obtain ⟨child, rest, hchildren, hchild⟩ := holderBody?_eq_some_iff.1 hbody
      obtain ⟨-, hbodyOn⟩ := Exporter.body?_eq_some_iff.1 hchild
      obtain ⟨node, hvisits, hwrites⟩ := (Exporter.holds_bodyOn_iff hbodyOn).1 hholds
      exact ⟨node, .subtree hholder hchildren hchild hmem hvisits, hwrites⟩
  · rintro ⟨node, hcovers, hwrites⟩
    cases hcovers with
    | main hroot' hvisits =>
        obtain rfl := Except.ok.inj (hroot.symm.trans hroot')
        exact Or.inl ⟨node, hvisits, hwrites⟩
    | subtree hholder hchildren hchild hmem hvisits =>
        obtain ⟨-, hbodyOn⟩ := Exporter.body?_eq_some_iff.1 hchild
        exact Or.inr ⟨_, hmem, (Exporter.holds_bodyOn_iff hbodyOn).2 ⟨node, hvisits, hwrites⟩⟩

theorem writable_of_holds {g : Graph} {modulePath : String} {script : Script}
    (h : ofGraph g modulePath = .ok script) {key : Key} {value : Code Leaf}
    (hholds : Table.Holds script.table key value) : key.Writable := by
  obtain ⟨root, -, -, hmain, hsubtrees, -⟩ := ofGraph_eq_ok_iff.1 h
  obtain ⟨-, hmainOn⟩ := Exporter.body?_eq_some_iff.1 hmain
  unfold table at hholds
  split_ifs at hholds
  · exact Exporter.writable_of_holds_bodyOn hmainOn hholds
  · rcases Table.holds_append_iff.1 hholds with hholds | hholds
    · exact Exporter.writable_of_holds_bodyOn hmainOn hholds
    · rcases Table.holds_singleton_table_iff.1 hholds with ⟨rfl, -⟩ | hholds
      · decide
      · obtain ⟨⟨name, body⟩, hmem, rfl | hinside⟩ := Table.holds_map hholds
        · trivial
        · obtain ⟨holder, -, -, hbody⟩ := exists_holder_of_mem hsubtrees hmem
          obtain ⟨child, rest, -, hchild⟩ := holderBody?_eq_some_iff.1 hbody
          obtain ⟨-, hbodyOn⟩ := Exporter.body?_eq_some_iff.1 hchild
          exact Exporter.writable_of_holds_bodyOn hbodyOn hinside

end Script

end Lua
end BehaviorTree
