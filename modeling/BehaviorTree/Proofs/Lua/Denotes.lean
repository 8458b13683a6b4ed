import BehaviorTree.Lua.Evaluation
import BehaviorTree.Proofs.Lua.Conversion
import BehaviorTree.Proofs.Lua.Reading
import BehaviorTree.Proofs.Lua.NumeralValue

/-! # What codes denote

A code denotes a document value (`Denotes`): its expression is evaluated to a value that stands for
it.  Each kind of leaf denotes what it was made of.  A table denotes a list if its entries have no
keys (`denotes_array`).  A table with keys denotes the object that is left after its entries are set
one after the other, where nil removes a field (`denotes_updates`); with distinct keys these are the
fields themselves (`denotes_object`). -/

namespace BehaviorTree.Lua

open BehaviorTree.Decimal Value

/-- The document value of a scalar. -/
def Scalar.json : Scalar → Json
  | text s => .text s
  | number x => .number (.float (unsignedZero x))
  | boolean b => .bool b

/-- A code is evaluated to a value that stands for a document value. -/
def Denotes (code : Code Leaf) (json : Json) : Prop :=
  ∃ value, code.expr.evaluate? = some value ∧ value.StandsFor json

/-! ### Leaves -/

theorem denotes_scalar {s : Scalar} (h : s.Writable) : Denotes (.leaf (.scalar s)) s.json := by
  cases s with
  | text s => exact ⟨_, rfl, standsFor_text s⟩
  | boolean b => exact ⟨_, rfl, standsFor_boolean b⟩
  | number x =>
      obtain ⟨n, hn, hdouble⟩ := exists_number_numeral h
      have hstands := standsFor_number n
      rw [hdouble] at hstands
      exact ⟨_, congrArg Expr.evaluate? hn, hstands⟩

/-- A name of a group is its own text. -/
theorem readPath_group (group : Group) (name : ChunkText) :
    readPath "BT" [.plain group.name, name] = some (.text name) := by
  cases group <;> rfl

theorem denotes_member (group : Group) {name : String} (h : bareName name = name) :
    Denotes (.leaf (.member group name)) (.text name) := by
  refine ⟨_, ?_, standsFor_text name⟩
  change readPath "BT" [.plain group.name, .plain (bareName name)] = _
  rw [h, readPath_group]

theorem denotes_indexed (group : Group) (name : String) :
    Denotes (.leaf (.indexed group name)) (.text name) :=
  ⟨_, readPath_group group _, standsFor_text name⟩

theorem denotes_module (path : String) :
    Denotes (.leaf (.module path)) (.object [("module", .text path)]) := by
  refine ⟨_, rfl, ?_⟩
  exact standsFor_object (.cons ⟨rfl, standsFor_text path⟩ .nil) (List.nodup_singleton _)

/-! ### Lists -/

theorem assign_of_ne_nil {value : Value} (h : value ≠ .nil) (entries : List (Index × Value))
    (index : Index) : assign entries index value = Keyed.put Prod.fst (index, value) entries := by
  cases value with
  | nil => exact absurd rfl h
  | _ => rfl

/-- A table whose entries have no keys. -/
def listTable (codes : List (Code Leaf)) : Table Leaf := codes.map fun code => (.positional, code)

/-- Entries without keys go behind those before, if none of these is at an integer from the place of
the first one on. -/
theorem evaluateEntries?_listTable {codes : List (Code Leaf)} {values : List Value}
    (h : List.Forall₂ (fun code value => code.expr.evaluate? = some value ∧ value ≠ .nil) codes
      values)
    {place : ℕ} {before : List (Index × Value)}
    (hbefore : ∀ i ≥ place, Index.integer i ∉ before.map Prod.fst) :
    evaluateEntries? place before (entriesExpr (listTable codes)) =
      some (before ++ placed place values) := by
  induction h generalizing place before with
  | nil => rw [placed, List.append_nil]; rfl
  | @cons code value codes values hfirst hrest ih =>
      have hput : assign before (.integer place) value = before ++ [(.integer place, value)] := by
        rw [assign_of_ne_nil hfirst.2]
        exact Keyed.put_of_notMem (hbefore place (Nat.le_refl _))
      change (do
        let value ← code.expr.evaluate?
        evaluateEntries? (place + 1) (assign before (.integer place) value)
          (entriesExpr (listTable codes))) = _
      rw [hfirst.1, Option.bind_eq_bind, Option.bind_some, hput, ih]
      · rw [placed, List.append_assoc]
        rfl
      · intro i hi
        rw [List.map_append, List.mem_append, not_or]
        refine ⟨hbefore i (by omega), ?_⟩
        simp only [List.map_cons, List.map_nil, List.mem_singleton, Index.integer.injEq]
        omega

/-- Codes that denote document values have values that stand for these. -/
theorem exists_values {codes : List (Code Leaf)} {items : List Json}
    (h : List.Forall₂ Denotes codes items) :
    ∃ values, List.Forall₂ (fun code value => code.expr.evaluate? = some value ∧ value ≠ .nil) codes
      values ∧ List.Forall₂ StandsFor values items := by
  induction h with
  | nil => exact ⟨[], .nil, .nil⟩
  | cons hfirst hrest ih =>
      obtain ⟨value, hvalue, hstands⟩ := hfirst
      obtain ⟨values, hvalues, hall⟩ := ih
      exact ⟨value :: values, .cons ⟨hvalue, hstands.ne_nil⟩ hvalues, .cons hstands hall⟩

/-- **A table without keys** denotes a list. -/
theorem denotes_array {codes : List (Code Leaf)} {items : List Json}
    (h : List.Forall₂ Denotes codes items) (hne : codes ≠ []) :
    Denotes (.table (listTable codes)) (.array items) := by
  obtain ⟨values, hvalues, hstands⟩ := exists_values h
  have hvalues_ne : values ≠ [] := by
    rintro rfl
    exact hne (List.forall₂_nil_right_iff.1 hvalues)
  have hempty : ∀ i : ℕ, i ≥ 1 → Index.integer i ∉ ([] : List (Index × Value)).map Prod.fst :=
    fun _ _ => nofun
  have hentries := evaluateEntries?_listTable hvalues hempty
  refine ⟨_, ?_, standsFor_array hstands hvalues_ne⟩
  rw [Code.expr, Expr.evaluate?, hentries]
  rfl

/-- A descriptor denotes the list of its mark, its key and its default. -/
theorem denotes_descriptor (key : String) {default : Option Scalar}
    (h : ∀ s ∈ default, s.Writable) :
    Denotes (.leaf (.descriptor key default))
      (.array (.text "BLACKBOARD" :: .text key :: (default.map Scalar.json).toList)) := by
  have hitems : List.Forall₂ Denotes
      (.leaf (.member .messageType "BLACKBOARD") :: .leaf (.scalar (.text key)) ::
        (default.map fun s => Code.leaf (.scalar s)).toList)
      (.text "BLACKBOARD" :: .text key :: (default.map Scalar.json).toList) := by
    refine .cons (denotes_member .messageType bareName_blackboard)
      (.cons (denotes_scalar trivial) ?_)
    cases default with
    | none => exact .nil
    | some s => exact .cons (denotes_scalar (h s rfl)) .nil
  have htable := denotes_array hitems (List.cons_ne_nil _ _)
  have hlist : listTable (.leaf (.member .messageType "BLACKBOARD") ::
      .leaf (.scalar (.text key)) :: (default.map fun s => Code.leaf (.scalar s)).toList) =
        descriptorTable key default := by
    cases default <;> rfl
  rw [hlist] at htable
  unfold Denotes at htable ⊢
  rwa [Code.expr, ← expr_descriptorTable]

/-! ### Objects -/

/-- The fields after one of them is set, or removed where there is no value. -/
def setOrRemove (fields : List (String × Json)) (update : String × Option Json) :
    List (String × Json) :=
  match update.2 with
  | some json => Json.setField update.1 json fields
  | none => Keyed.remove Prod.fst update.1 fields

/-- An entry with a key sets a field or removes it. -/
inductive Assigns : Key × Code Leaf → String × Option Json → Prop
  | set {key : Key} {name : String} {code : Code Leaf} {json : Json}
      (hkey : key.entryKey = some (.plain name)) (h : Denotes code json) :
      Assigns (key, code) (name, some json)
  | remove {key : Key} {name : String} (hkey : key.entryKey = some (.plain name)) :
      Assigns (key, .leaf .nil) (name, none)

theorem evaluateEntries?_assigns {entries : Table Leaf} {updates : List (String × Option Json)}
    (h : List.Forall₂ Assigns entries updates) (place : ℕ) {before : List (Index × Value)}
    {fields : List (String × Json)} (hbefore : List.Forall₂ FieldOf before fields) :
    ∃ values, evaluateEntries? place before (entriesExpr entries) = some values ∧
      List.Forall₂ FieldOf values (updates.foldl setOrRemove fields) := by
  have hkey : ∀ entry field, FieldOf entry field → entry.1 = Index.text (.plain field.1) :=
    fun _ _ h => h.1
  induction h generalizing before fields with
  | nil => exact ⟨before, rfl, hbefore⟩
  | cons hfirst hrest ih =>
      cases hfirst with
      | @set key name code json hname hcode =>
          obtain ⟨value, hvalue, hstands⟩ := hcode
          have hput := Keyed.forall₂_put injective_text hkey hbefore
            (a := (.text (.plain name), value)) (b := (name, json)) ⟨rfl, hstands⟩
          obtain ⟨values, hvalues, hfields⟩ := ih hput
          refine ⟨values, ?_, hfields⟩
          rw [← hvalues, entriesExpr, hname, evaluateEntries?, hvalue, Option.bind_eq_bind,
            Option.bind_some, assign_of_ne_nil hstands.ne_nil]
      | @remove key name hname =>
          obtain ⟨values, hvalues, hfields⟩ :=
            ih (Keyed.forall₂_remove injective_text hkey hbefore name)
          refine ⟨values, ?_, hfields⟩
          rw [← hvalues, entriesExpr, hname, evaluateEntries?]
          rfl

theorem nodup_foldl (updates : List (String × Option Json)) :
    ((updates.foldl setOrRemove []).map Prod.fst).Nodup := by
  induction updates using List.reverseRecOn with
  | nil => exact List.nodup_nil
  | append_singleton updates update ih =>
      obtain ⟨name, json?⟩ := update
      rw [List.foldl_append, List.foldl_cons, List.foldl_nil]
      cases json? with
      | some json => exact Keyed.nodup_map_put ih _
      | none => exact Keyed.nodup_map_remove ih _

/-- **A table with keys** denotes the object that its entries leave. -/
theorem denotes_updates {entries : Table Leaf} {updates : List (String × Option Json)}
    (h : List.Forall₂ Assigns entries updates) :
    Denotes (.table entries) (.object (updates.foldl setOrRemove [])) := by
  have hempty : List.Forall₂ FieldOf [] [] := .nil
  obtain ⟨values, hvalues, hfields⟩ := evaluateEntries?_assigns h 1 hempty
  refine ⟨.table values, ?_, standsFor_object hfields (nodup_foldl updates)⟩
  rw [Code.expr, Expr.evaluate?, hvalues]
  rfl

/-- An entry with a key denotes a field. -/
def EntryDenotes (entry : Key × Code Leaf) (field : String × Json) : Prop :=
  entry.1.entryKey = some (.plain field.1) ∧ Denotes entry.2 field.2

/-- **A table with distinct keys** denotes the object of its fields. -/
theorem denotes_object {entries : Table Leaf} {fields : List (String × Json)}
    (h : List.Forall₂ EntryDenotes entries fields) (hkeys : (fields.map Prod.fst).Nodup) :
    Denotes (.table entries) (.object fields) := by
  have hfoldl :
      (fields.map fun field => (field.1, some field.2)).foldl setOrRemove [] = fields := by
    rw [List.foldl_map]
    exact Json.object.inj (Json.ofFields_of_nodup hkeys)
  have hassigns : List.Forall₂ Assigns entries (fields.map fun field => (field.1, some field.2)) :=
    List.forall₂_map_right_iff.2 (h.imp fun _ _ he => .set he.1 he.2)
  have hdenotes := denotes_updates hassigns
  rwa [hfoldl] at hdenotes

end BehaviorTree.Lua
