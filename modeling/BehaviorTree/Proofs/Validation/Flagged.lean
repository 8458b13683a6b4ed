import BehaviorTree.Proofs.Graph.Rearranged
import BehaviorTree.Proofs.Reference
import BehaviorTree.Proofs.Validation.Errors

/-! # Which nodes are flagged

A node is at fault by itself, by having no child, or by a name or key that it shares (`Faulty`).
The errors of a report flag these nodes and no others, and its two lists of duplicates hold every
occurrence (`Graph.flags_of_validate`).

Where no key is reported, no two blackboard fields have the same key, so the first field with a key
is the only one and the sequence of the fields does not matter
(`Resolver.default?_eq_of_perm`). -/

namespace BehaviorTree

open BehaviorTree.Text

/-! ### Lists without repetition -/

/-- A member of a list without repetition has company exactly if the list is longer. -/
theorem two_le_length_iff_of_nodup {α : Type} {items : List α} (h : items.Nodup) {a : α}
    (ha : a ∈ items) : 2 ≤ items.length ↔ ∃ b ∈ items, b ≠ a := by
  obtain ⟨before, after, rfl⟩ := List.append_of_mem ha
  obtain ⟨hnew, -⟩ := List.nodup_cons.1 (List.nodup_middle.1 h)
  constructor
  · intro hlength
    have hne : before ++ after ≠ [] := by
      intro hnil
      obtain ⟨rfl, rfl⟩ := List.append_eq_nil_iff.1 hnil
      simp at hlength
    obtain ⟨b, hb⟩ := List.exists_mem_of_ne_nil _ hne
    refine ⟨b, ?_, fun heq => hnew (heq ▸ hb)⟩
    rcases List.mem_append.1 hb with hb | hb
    · exact List.mem_append_left _ hb
    · exact List.mem_append_right _ (List.mem_cons_of_mem _ hb)
  · rintro ⟨b, hb, hne⟩
    have hothers : b ∈ before ++ after := by
      rcases List.mem_append.1 hb with hb | hb
      · exact List.mem_append_left _ hb
      · exact List.mem_append_right _ ((List.mem_cons.1 hb).resolve_left hne)
    have hpos := List.length_pos_of_mem hothers
    simp only [List.length_append, List.length_cons] at hpos ⊢
    omega

namespace Validation

/-! ### Occurrences -/

/-- The subtree holders of a name, in the order of their creation. -/
def holdersOf (g : Graph) (name : String) : List Int :=
  (g.nodes.filter fun node => node.kind = .subtree && trim node.name = name).map (·.id)

/-- The blackboard fields of a key, each as its node and its place there, by the creation of the
node and then by the place. -/
def placesOf (g : Graph) (key : String) : List (Int × Nat) :=
  (g.nodes.filter fun node => node.kind = .blackboard).flatMap fun node =>
    ((node.fields.getD []).zipIdx.filter fun entry => trim entry.1.key = key).map fun entry =>
      (node.id, entry.2)

variable {g : Graph}

theorem mem_holdersOf {name : String} {id : Int} : id ∈ holdersOf g name ↔
    ∃ node ∈ g.nodes, node.kind = .subtree ∧ trim node.name = name ∧ node.id = id := by
  simp [holdersOf, and_assoc]

theorem mem_placesOf {key : String} {place : Int × Nat} : place ∈ placesOf g key ↔
    ∃ node ∈ g.nodes, node.kind = .blackboard ∧ node.id = place.1 ∧
      ∃ field, (node.fields.getD [])[place.2]? = some field ∧ trim field.key = key := by
  obtain ⟨id, index⟩ := place
  simp only [placesOf, List.mem_flatMap, List.mem_filter, List.mem_map, decide_eq_true_eq,
    Prod.mk.injEq, Prod.exists, List.mem_zipIdx_iff_getElem?, and_assoc]
  refine exists_congr fun node => and_congr_right fun _ => and_congr_right fun _ => ?_
  constructor
  · rintro ⟨field, _, hfield, hkey, hid, rfl⟩
    exact ⟨hid, field, hfield, hkey⟩
  · rintro ⟨hid, field, hfield, hkey⟩
    exact ⟨field, index, hfield, hkey, hid, rfl⟩

theorem nodup_holdersOf (hids : (g.nodes.map (·.id)).Nodup) (name : String) :
    (holdersOf g name).Nodup :=
  hids.sublist (List.filter_sublist.map _)

theorem nodup_placesOf (hids : (g.nodes.map (·.id)).Nodup) (key : String) :
    (placesOf g key).Nodup := by
  rw [placesOf, List.nodup_flatMap]
  constructor
  · intro node _
    -- the places within a node are told apart by their indices
    refine List.Nodup.of_map Prod.snd ?_
    rw [List.map_map]
    have hindices : ((node.fields.getD []).zipIdx.map Prod.snd).Nodup := by
      rw [List.zipIdx_map_snd]
      exact List.nodup_range'
    exact hindices.sublist (List.filter_sublist.map _)
  · have hnodes : g.nodes.Pairwise fun a b => a.id ≠ b.id := List.pairwise_map.1 hids
    refine (hnodes.filter _).imp fun {a b} hne => ?_
    intro place ha hb
    obtain ⟨entry, -, rfl⟩ := List.mem_map.1 ha
    obtain ⟨entry', -, hsame⟩ := List.mem_map.1 hb
    exact hne (congrArg Prod.fst hsame).symm

theorem values_subtreeNames (g : Graph) (name : String) :
    ((subtreeNames g).filter fun pair => pair.1 = name).map (·.2) =
      if name = "" then [] else holdersOf g name := by
  rw [subtreeNames, Graph.ofKind, List.filter_filter, List.filter_map, List.map_map,
    List.filter_filter]
  split_ifs with hname
  · rw [List.map_eq_nil_iff, List.filter_eq_nil_iff]
    rintro node -
    simp [hname]
  · rw [holdersOf]
    refine congrArg _ (List.filter_congr fun node _ => ?_)
    by_cases hsame : trim node.name = name <;> simp [hsame, hname]

theorem values_blackboardKeys (g : Graph) (key : String) :
    ((blackboardKeys g).filter fun pair => pair.1 = key).map (·.2) =
      if key = "" then [] else placesOf g key := by
  rw [blackboardKeys, Graph.ofKind, List.filter_filter, List.filter_flatMap, List.map_flatMap]
  split_ifs with hkey
  · rw [List.flatMap_eq_nil_iff]
    rintro node -
    rw [List.map_eq_nil_iff, List.filter_eq_nil_iff]
    rintro pair -
    simp [hkey]
  · rw [placesOf]
    refine List.flatMap_congr fun node _ => ?_
    rw [List.filter_map, List.map_map]
    refine congrArg _ (List.filter_congr fun entry _ => ?_)
    by_cases hsame : trim entry.1.key = key <;> simp [hsame, hkey]

theorem mem_duplicateNames_iff {name : String} {ids : List Int} :
    (name, ids) ∈ duplicates (subtreeNames g) ↔
      name ≠ "" ∧ ids = holdersOf g name ∧ 2 ≤ ids.length := by
  rw [mem_duplicates_iff, values_subtreeNames]
  split_ifs with hname
  · refine iff_of_false ?_ fun h => h.1 hname
    rintro ⟨rfl, hlength⟩
    exact absurd hlength (by decide)
  · simp [hname]

theorem mem_duplicateKeys_iff {key : String} {places : List (Int × Nat)} :
    (key, places) ∈ duplicates (blackboardKeys g) ↔
      key ≠ "" ∧ places = placesOf g key ∧ 2 ≤ places.length := by
  rw [mem_duplicates_iff, values_blackboardKeys]
  split_ifs with hkey
  · refine iff_of_false ?_ fun h => h.1 hkey
    rintro ⟨rfl, hlength⟩
    exact absurd hlength (by decide)
  · simp [hkey]

/-- Each key is reported once. -/
theorem nodup_keys_duplicates {α : Type} (pairs : List (String × α)) :
    ((duplicates pairs).map Prod.fst).Nodup := by
  have hkeys : ((gatherByKey pairs).map Prod.fst).Nodup := by
    have hcomp : (gatherByKey pairs).map Prod.fst = (pairs.map (·.1)).eraseDups := by
      rw [gatherByKey, List.map_map]
      exact List.map_id _
    rw [hcomp]
    exact Graph.nodup_eraseDups _
  exact hkeys.sublist (List.filter_sublist.map _)

/-! ### Nodes at fault -/

/-- What a node of a graph lacks. -/
inductive Lacks (g : Graph) (node : Node) : Prop
  | function (hkind : node.kind = .condition ∨ node.kind = .action) (hfunc : node.func = "")
  | policy (hkind : node.kind = .parallel) (hpolicy : node.policy = "")
  | reference (hkind : node.kind = .decorator) (hdecorator : node.decorator = some .subtreeRef)
      (hblank : trim (node.detailText .subtree) = "")
  | duration (hkind : node.kind = .decorator) (hdecorator : node.decorator = some .wait)
      (hblank : trim (node.detailText .waitDuration) = "")
  | child (hneeds : NeedsChild node) (hnone : ∀ c ∈ g.connections, c.source ≠ node.id)

/-- A subtree holder has the name of another one. -/
inductive SharesName (g : Graph) (node : Node) : Prop
  | intro {other : Node} (hkind : node.kind = .subtree) (hname : trim node.name ≠ "")
      (hother : other ∈ g.nodes) (hne : other.id ≠ node.id) (hkind' : other.kind = .subtree)
      (hsame : trim other.name = trim node.name)

/-- A field of a blackboard has the key of another one, there or on another blackboard. -/
inductive SharesKey (g : Graph) (node : Node) : Prop
  | intro {other : Node} {index index' : ℕ} {field field' : Field}
      (hkind : node.kind = .blackboard) (hfield : (node.fields.getD [])[index]? = some field)
      (hkey : trim field.key ≠ "") (hother : other ∈ g.nodes) (hkind' : other.kind = .blackboard)
      (hfield' : (other.fields.getD [])[index']? = some field')
      (hne : (other.id, index') ≠ (node.id, index)) (hsame : trim field'.key = trim field.key)

/-- What makes a node of a graph one that is flagged. -/
def Faulty (g : Graph) (node : Node) : Prop := Lacks g node ∨ SharesName g node ∨ SharesKey g node

theorem isBlankText_iff {text : String} : isBlankText text = true ↔ trim text = "" :=
  String.isEmpty_iff

theorem exists_childIssue_mem_iff {node : Node} {hasChild single : Bool} :
    (∃ cause, cause ∈ childIssue node hasChild single) ↔ hasChild = false := by
  unfold childIssue
  split_ifs with h
  · simp [h]
  · simp [h]

theorem exists_singleton_iff {α : Type} {p : Prop} [Decidable p] {a : α} :
    (∃ b, b ∈ if p then [a] else []) ↔ p := by
  split_ifs with h
  · simp [h]
  · simp [h]

/-- The error that a decorator has, or that a node has for want of a child. -/
theorem exists_lastCause_iff {node : Node} {hasChild : Bool} :
    (∃ cause, cause ∈ if node.kind = .decorator then decoratorCauses node hasChild
      else if node.kind.requiresChildren then childIssue node hasChild false else []) ↔
      (node.kind = .decorator ∧ node.decorator = some .subtreeRef ∧
        trim (node.detailText .subtree) = "") ∨
      (node.kind = .decorator ∧ node.decorator = some .wait ∧
        trim (node.detailText .waitDuration) = "") ∨
      (NeedsChild node ∧ hasChild = false) := by
  unfold NeedsChild RunsChildren
  by_cases hkind : node.kind = .decorator
  · rw [if_pos hkind]
    unfold decoratorCauses
    split
    · rename_i hd
      rw [exists_singleton_iff, isBlankText_iff]
      simp [hkind, hd]
    · rename_i hd
      rw [exists_singleton_iff, isBlankText_iff]
      simp [hkind, hd]
    · rename_i href hwait
      rw [exists_childIssue_mem_iff]
      have href' : node.decorator ≠ some .subtreeRef := href
      have hwait' : node.decorator ≠ some .wait := hwait
      simp [hkind, href', hwait']
  · rw [if_neg hkind]
    split_ifs with hrequires
    · rw [exists_childIssue_mem_iff]
      cases hk : node.kind <;> simp_all [NodeKind.requiresChildren]
    · cases hk : node.kind <;> simp_all [NodeKind.requiresChildren]

theorem hasChild_eq_false_iff {g : Graph} {id : Int} :
    g.hasChild id = false ↔ ∀ c ∈ g.connections, c.source ≠ id := by
  simp [Graph.hasChild]

/-- **A node has an error by itself** exactly if it lacks something. -/
theorem exists_nodeCause_iff {g : Graph} {node : Node} :
    (∃ cause, cause ∈ nodeCauses node (g.hasChild node.id)) ↔ Lacks g node := by
  have hleaf : node.kind.isLeaf = true ↔ node.kind = .condition ∨ node.kind = .action := by
    cases node.kind <;> simp [NodeKind.isLeaf]
  simp only [nodeCauses, List.mem_append, exists_or, exists_singleton_iff, exists_lastCause_iff,
    Bool.and_eq_true, decide_eq_true_eq, String.isEmpty_iff, hleaf, hasChild_eq_false_iff]
  constructor
  · rintro ((⟨hkind, hfunc⟩ | ⟨hkind, hpolicy⟩) | ⟨hkind, hd, hblank⟩ | ⟨hkind, hd, hblank⟩ |
      ⟨hneeds, hnone⟩)
    · exact .function hkind hfunc
    · exact .policy hkind hpolicy
    · exact .reference hkind hd hblank
    · exact .duration hkind hd hblank
    · exact .child hneeds hnone
  · intro h
    cases h with
    | function hkind hfunc => exact Or.inl (Or.inl ⟨hkind, hfunc⟩)
    | policy hkind hpolicy => exact Or.inl (Or.inr ⟨hkind, hpolicy⟩)
    | reference hkind hd hblank => exact Or.inr (Or.inl ⟨hkind, hd, hblank⟩)
    | duration hkind hd hblank => exact Or.inr (Or.inr (Or.inl ⟨hkind, hd, hblank⟩))
    | child hneeds hnone => exact Or.inr (Or.inr (Or.inr ⟨hneeds, hnone⟩))

variable {g : Graph}

/-- **The subtree holders that are reported** are those that share their name. -/
theorem exists_duplicateName_mem_iff (hids : (g.nodes.map (·.id)).Nodup) {id : Int} :
    (∃ group ∈ duplicates (subtreeNames g), id ∈ group.2) ↔
      ∃ node ∈ g.nodes, node.id = id ∧ SharesName g node := by
  constructor
  · rintro ⟨⟨name, ids⟩, hgroup, hid⟩
    obtain ⟨hname, rfl, hlength⟩ := mem_duplicateNames_iff.1 hgroup
    obtain ⟨node, hnode, hkind, rfl, rfl⟩ := mem_holdersOf.1 hid
    obtain ⟨otherId, hmem, hne⟩ :=
      (two_le_length_iff_of_nodup (nodup_holdersOf hids _) hid).1 hlength
    obtain ⟨other, hother, hkind', hsame, rfl⟩ := mem_holdersOf.1 hmem
    exact ⟨node, hnode, rfl, .intro hkind hname hother hne hkind' hsame⟩
  · rintro ⟨node, hnode, rfl, ⟨hkind, hname, hother, hne, hkind', hsame⟩⟩
    have hid := mem_holdersOf.2 ⟨node, hnode, hkind, rfl, rfl⟩
    have hmem := mem_holdersOf.2 ⟨_, hother, hkind', hsame, rfl⟩
    have hlength := (two_le_length_iff_of_nodup (nodup_holdersOf hids _) hid).2 ⟨_, hmem, hne⟩
    exact ⟨⟨trim node.name, _⟩, mem_duplicateNames_iff.2 ⟨hname, rfl, hlength⟩, hid⟩

/-- **The blackboards that are reported** are those with a field that shares its key. -/
theorem exists_duplicateKey_mem_iff (hids : (g.nodes.map (·.id)).Nodup) {id : Int} :
    (∃ group ∈ duplicates (blackboardKeys g), ∃ place ∈ group.2, place.1 = id) ↔
      ∃ node ∈ g.nodes, node.id = id ∧ SharesKey g node := by
  constructor
  · rintro ⟨⟨key, places⟩, hgroup, ⟨id, index⟩, hplace, rfl⟩
    obtain ⟨hkey, rfl, hlength⟩ := mem_duplicateKeys_iff.1 hgroup
    obtain ⟨node, hnode, hkind, rfl, field, hfield, rfl⟩ := mem_placesOf.1 hplace
    obtain ⟨⟨otherId, index'⟩, hmem, hne⟩ :=
      (two_le_length_iff_of_nodup (nodup_placesOf hids _) hplace).1 hlength
    obtain ⟨other, hother, hkind', rfl, field', hfield', hsame⟩ := mem_placesOf.1 hmem
    exact ⟨node, hnode, rfl, .intro hkind hfield hkey hother hkind' hfield' hne hsame⟩
  · rintro ⟨node, hnode, rfl,
      @⟨other, index, index', field, field', hkind, hfield, hkey, hother, hkind', hfield', hne,
        hsame⟩⟩
    have hplace : (node.id, index) ∈ placesOf g (trim field.key) :=
      mem_placesOf.2 ⟨node, hnode, hkind, rfl, field, hfield, rfl⟩
    have hmem : (other.id, index') ∈ placesOf g (trim field.key) :=
      mem_placesOf.2 ⟨other, hother, hkind', rfl, field', hfield', hsame⟩
    have hlength := (two_le_length_iff_of_nodup (nodup_placesOf hids _) hplace).2 ⟨_, hmem, hne⟩
    exact ⟨⟨_, _⟩, mem_duplicateKeys_iff.2 ⟨hkey, rfl, hlength⟩, _, hplace, rfl⟩

/-- The trimmed keys of all fields, without the empty ones. -/
theorem map_fst_blackboardKeys (g : Graph) : (blackboardKeys g).map Prod.fst =
    (g.blackboardFields.map fun field => trim field.key).filter (· ≠ "") := by
  have hnode : ∀ node : Node, ((node.fields.getD []).zipIdx.map fun x =>
      (trim x.1.key, (node.id, x.2))).map Prod.fst =
        (node.fields.getD []).map fun field => trim field.key := by
    intro node
    conv_rhs => rw [← List.zipIdx_map_fst 0 (node.fields.getD []), List.map_map]
    rw [List.map_map]
    rfl
  have hempty : ∀ pair : String × (Int × Nat), (!pair.1.isEmpty) = decide (pair.1 ≠ "") := by
    intro pair
    rw [Bool.eq_iff_iff]
    simp
  rw [blackboardKeys, Graph.blackboardFields, List.map_flatMap]
  simp only [hempty, ← hnode]
  rw [← List.map_flatMap, List.filter_map]
  rfl

end Validation

open Validation

/-! ### Sequences of fields -/

namespace Resolver

/-- Where the keys are distinct, a key is defined by any field that has it. -/
theorem default?_eq_some_iff_mem {fields : List Field}
    (h : ((fields.map fun field => trim field.key).filter (· ≠ "")).Nodup) {key value : String} :
    (ofFields fields).default? key = some value ↔
      key ≠ "" ∧ ∃ field ∈ fields, trim field.key = key ∧ field.value = value := by
  rw [default?_ofFields_eq_some_iff]
  refine and_congr_right fun hkey => ?_
  constructor
  · rintro ⟨field, hfound, hvalue⟩
    have hsame := List.find?_some hfound
    exact ⟨field, List.mem_of_find?_eq_some hfound, of_decide_eq_true hsame, hvalue⟩
  · rintro ⟨field, hmem, rfl, rfl⟩
    obtain ⟨before, after, rfl⟩ := List.append_of_mem hmem
    -- no field before has the key
    refine ⟨field, List.find?_eq_some_iff_append.2 ⟨by simp, before, after, rfl, ?_⟩, rfl⟩
    intro other hother
    simp only [Bool.not_eq_eq_eq_not, Bool.not_true, decide_eq_false_iff_not]
    intro hsame
    simp only [List.map_append, List.map_cons, List.filter_append, List.filter_cons] at h
    rw [if_pos (by simpa using hkey)] at h
    refine (List.nodup_append.1 h).2.2 _ ?_ _ List.mem_cons_self hsame
    exact List.mem_filter.2 ⟨List.mem_map_of_mem hother, by simpa [hsame] using hkey⟩

/-- **The sequence of the fields does not matter** where the keys are distinct. -/
theorem default?_eq_of_perm {fields fields' : List Field} (hperm : fields'.Perm fields)
    (h : ((fields.map fun field => trim field.key).filter (· ≠ "")).Nodup) (key : String) :
    (ofFields fields').default? key = (ofFields fields).default? key := by
  have h' : ((fields'.map fun field => trim field.key).filter (· ≠ "")).Nodup :=
    ((hperm.map _).filter _).nodup_iff.2 h
  ext value
  rw [default?_eq_some_iff_mem h, default?_eq_some_iff_mem h']
  simp only [hperm.mem_iff]

end Resolver

/-! ### Reports -/

/-- A report flags the nodes of a graph that are at fault, and lists all occurrences of duplicate
names and keys.  Where it lists no keys, the sequence of the blackboard fields does not matter. -/
structure Report.Flags (report : Report) (g : Graph) : Prop where
  flagged : ∀ id, (∃ issue ∈ report.issues, issue.node = id) ↔
    ∃ node ∈ g.nodes, node.id = id ∧ Faulty g node
  names : ∀ name ids, (name, ids) ∈ report.duplicateNames ↔
    name ≠ "" ∧ ids = holdersOf g name ∧ 2 ≤ ids.length
  nodup_names : (report.duplicateNames.map Prod.fst).Nodup
  keys : ∀ key places, (key, places) ∈ report.duplicateKeys ↔
    key ≠ "" ∧ places = placesOf g key ∧ 2 ≤ places.length
  nodup_keys : (report.duplicateKeys.map Prod.fst).Nodup
  defaults : report.duplicateKeys = [] → ∀ fields : List Field, fields.Perm g.blackboardFields →
    ∀ key, (Resolver.ofFields fields).default? key = (Resolver.ofGraph g).default? key

namespace Graph

variable {g : Graph}

/-- **The nodes with an error** are those at fault. -/
theorem exists_error_iff (hids : (g.nodes.map (·.id)).Nodup) {id : Int} :
    (∃ issue ∈ g.errors, issue.node = id) ↔ ∃ node ∈ g.nodes, node.id = id ∧ Faulty g node := by
  simp only [Faulty, and_or_left, exists_or, ← exists_duplicateName_mem_iff hids,
    ← exists_duplicateKey_mem_iff hids, ← exists_nodeCause_iff, mem_errors_iff, or_and_right]
  refine or_congr ?_ (or_congr ?_ ?_)
  · constructor
    · rintro ⟨issue, ⟨node, hnode, hid, hcause⟩, rfl⟩
      exact ⟨node, hnode, hid.symm, issue.cause, hcause⟩
    · rintro ⟨node, hnode, rfl, cause, hcause⟩
      exact ⟨⟨node.id, cause⟩, ⟨node, hnode, rfl, hcause⟩, rfl⟩
  · constructor
    · rintro ⟨issue, ⟨group, hgroup, holder, hholder, rfl⟩, rfl⟩
      exact ⟨group, hgroup, hholder⟩
    · rintro ⟨group, hgroup, hid⟩
      exact ⟨_, ⟨group, hgroup, id, hid, rfl⟩, rfl⟩
  · constructor
    · rintro ⟨issue, ⟨group, hgroup, place, hplace, rfl⟩, rfl⟩
      exact ⟨group, hgroup, place, hplace, rfl⟩
    · rintro ⟨group, hgroup, place, hplace, rfl⟩
      exact ⟨_, ⟨group, hgroup, place, hplace, rfl⟩, rfl⟩

/-- **What a report flags**: exactly the nodes at fault. -/
theorem flags_of_validate (hids : (g.nodes.map (·.id)).Nodup) :
    (∃ report, g.validate false = .ok report) ∧
      ∀ warned report, g.validate warned = .ok report → report.Flags g := by
  refine ⟨⟨_, rfl⟩, fun warned report h => ?_⟩
  obtain ⟨hnames, hkeys⟩ : report.duplicateNames = duplicates (subtreeNames g) ∧
      report.duplicateKeys = duplicates (blackboardKeys g) := by
    cases warned <;>
    · obtain ⟨found, -, h⟩ := bind_eq_ok_iff.1 h
      obtain rfl := Except.ok.inj h
      exact ⟨rfl, rfl⟩
  refine ⟨fun id => ?_, fun name ids => ?_, ?_, fun key places => ?_, ?_, fun hnone => ?_⟩
  · rw [issues_of_validate h]
    exact exists_error_iff hids
  · rw [hnames]
    exact mem_duplicateNames_iff
  · rw [hnames]
    exact nodup_keys_duplicates _
  · rw [hkeys]
    exact mem_duplicateKeys_iff
  · rw [hkeys]
    exact nodup_keys_duplicates _
  · rw [hkeys, duplicates_eq_nil_iff, map_fst_blackboardKeys] at hnone
    intro fields hperm key
    exact Resolver.default?_eq_of_perm hperm hnone key

/-- Two subtree holders with one name, two blackboards with one key, and an action in order. -/
def clashing : Graph where
  nodes := [{ id := 1, kind := .subtree, name := "Patrol" },
    { id := 2, kind := .blackboard, fields := some [{ key := "hp", value := "1" }, {}] },
    { id := 3, kind := .subtree, name := " Patrol" },
    { id := 4, kind := .blackboard, fields := some [{}, { key := "hp ", value := "2" }] },
    { id := 5, kind := .action, func := "walk" }]
  connections := [⟨1, 5, 0, "right", "left"⟩]
  nextId := 6

theorem flags_of_validate_clashing : (clashing.nodes.map (·.id)).Nodup ∧
    ∃ report, clashing.validate false = .ok report ∧ report.Flags clashing ∧
      report.duplicateNames = [("Patrol", [1, 3])] ∧
      report.duplicateKeys = [("hp", [(2, 0), (4, 1)])] := by
  have hids : (clashing.nodes.map (·.id)).Nodup := by decide
  exact ⟨hids, _, rfl, (flags_of_validate hids).2 false _ rfl, by decide,
    by decide⟩

end Graph
end BehaviorTree
