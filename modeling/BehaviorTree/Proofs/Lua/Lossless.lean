import BehaviorTree.Lua.Evaluation
import BehaviorTree.Proofs.Lua.Conversion
import BehaviorTree.Proofs.Lua.Labels

/-! # Tables without loss

A document value mirrors a Lua value (`Value.Mirrors`) when it has all of it: a list has the items
of a table in their order, and an object has one field for each entry, under a key of its own.  A
value without functions, and with no more levels than the conversion allows, becomes a document
value that mirrors it exactly if its texts are strings and in no table of it, however deep, a text
spells another index (`Value.lossless_iff`).  Where one does, the object has fewer fields than the
table has entries (`Value.exists_fewer_fields`).  Scripts can make such tables, too
(`Chunk.mirrors_iff`). -/

namespace BehaviorTree.Lua

namespace Value

/-! ### Parts -/

mutual

/-- A value and all values in it. -/
def parts : Value → List Value
  | .table entries => .table entries :: entriesParts entries
  | value => [value]

def entriesParts : List (Index × Value) → List Value
  | [] => []
  | (_, value) :: rest => value.parts ++ entriesParts rest

end

mutual

/-- How many levels of values lie below a value. -/
def levels : Value → ℕ
  | .table entries => entriesLevels entries
  | _ => 0

def entriesLevels : List (Index × Value) → ℕ
  | [] => 0
  | (_, value) :: rest => max (value.levels + 1) (entriesLevels rest)

end

/-- The indices of a table. -/
def keys : Value → List Index
  | .table entries => entries.map Prod.fst
  | _ => []

theorem forall_mem_entriesParts {P : Value → Prop} {entries : List (Index × Value)} :
    (∀ part ∈ entriesParts entries, P part) ↔
      ∀ entry ∈ entries, ∀ part ∈ entry.2.parts, P part := by
  induction entries with
  | nil => simp [entriesParts]
  | cons entry rest ih => rw [entriesParts, List.forall_mem_append, ih, List.forall_mem_cons]

theorem forall_mem_parts_table {P : Value → Prop} {entries : List (Index × Value)} :
    (∀ part ∈ (Value.table entries).parts, P part) ↔
      P (.table entries) ∧ ∀ entry ∈ entries, ∀ part ∈ entry.2.parts, P part := by
  rw [parts, List.forall_mem_cons, forall_mem_entriesParts]

theorem entriesLevels_le_iff {entries : List (Index × Value)} {n : ℕ} :
    entriesLevels entries ≤ n ↔ ∀ entry ∈ entries, entry.2.levels < n := by
  induction entries with
  | nil => simp [entriesLevels]
  | cons entry rest ih =>
      rw [entriesLevels, Nat.max_le, Nat.add_one_le_iff, ih, List.forall_mem_cons]

instance : DecidablePred (· = Value.function)
  | .function => .isTrue rfl
  | .nil | .boolean _ | .number _ | .text _ | .table _ => .isFalse nofun

/-- What holds of a table if it holds of the values in it holds of all values. -/
@[elab_as_elim]
theorem tableInduction {motive : Value → Prop} (nil : motive .nil)
    (boolean : ∀ b, motive (.boolean b)) (number : ∀ n, motive (.number n))
    (text : ∀ s, motive (.text s)) (function : motive .function)
    (table : ∀ entries : List (Index × Value), (∀ entry ∈ entries, motive entry.2) →
      motive (.table entries)) (value : Value) : motive value :=
  @Value.rec motive (fun entries => ∀ entry ∈ entries, motive entry.2) (fun entry => motive entry.2)
    nil boolean number text function table (fun _ h => absurd h List.not_mem_nil)
    (fun _ _ hfirst hrest => List.forall_mem_cons.2 ⟨hfirst, hrest⟩) (fun _ _ h => h) value

/-! ### Lists and objects -/

section

variable {α β : Type}

/-- There are entries, and their indices are the integers from one to their number. -/
def IsSequence (entries : List (Index × α)) : Prop :=
  entries ≠ [] ∧ (entries.map Prod.fst).Perm
    ((List.range' 1 entries.length).map fun (i : ℕ) => Index.integer i)

theorem IsSequence.isInteger {entries : List (Index × α)} (h : IsSequence entries) :
    ∀ key ∈ entries.map Prod.fst, key.isInteger = true := by
  intro key hkey
  obtain ⟨i, -, rfl⟩ := List.mem_map.1 (h.2.mem_iff.1 hkey)
  rfl

theorem eq_placed {entries : List (Index × α)} {place : ℕ}
    (h : entries.map Prod.fst =
      (List.range' place entries.length).map fun (i : ℕ) => Index.integer i) :
    entries = placed place (entries.map Prod.snd) := by
  induction entries generalizing place with
  | nil => rfl
  | cons entry rest ih =>
      rw [List.map_cons, List.length_cons, List.range'_succ, List.map_cons] at h
      obtain ⟨hindex, hrest⟩ := List.cons.inj h
      rw [List.map_cons, placed, ← hindex, ← ih hrest]

/-- The entries of such a table are, in some order, the items of a list. -/
theorem isSequence_iff {entries : List (Index × α)} :
    IsSequence entries ↔ ∃ values, values ≠ [] ∧ entries.Perm (placed 1 values) := by
  constructor
  · rintro ⟨hne, hkeys⟩
    have hcomp := List.eq_map_comp_perm (Prod.fst : Index × α → Index)
    obtain ⟨sorted, hsorted, hperm⟩ := (congrFun (congrFun hcomp _) entries).mpr hkeys.symm
    rw [← hperm.length_eq] at hsorted
    refine ⟨sorted.map Prod.snd, fun hnil => hne ?_, ?_⟩
    · rw [List.map_eq_nil_iff] at hnil
      exact (hnil ▸ hperm).nil_eq.symm
    · exact hperm.symm.trans (.of_eq (eq_placed hsorted.symm))
  · rintro ⟨values, hne, hperm⟩
    have hlength := hperm.length_eq.trans (length_placed 1 values)
    refine ⟨?_, ?_⟩
    · rw [← List.length_pos_iff, hlength]
      exact List.length_pos_of_ne_nil hne
    · rw [hlength, ← map_fst_placed]
      exact hperm.map Prod.fst

theorem sequence?_eq_none_iff {entries : List (Index × α)} :
    sequence? entries = none ↔ ¬ IsSequence entries := by
  simp only [Option.eq_none_iff_forall_ne_some, isSequence_iff, ← sequence?_eq_some_iff, not_exists]

theorem sequence?_map (f : α → β) (entries : List (Index × α)) :
    sequence? (entries.map fun entry => (entry.1, f entry.2)) =
      (sequence? entries).map (List.map f) := by
  have hvalue : ∀ index, Keyed.value? index (entries.map fun entry => (entry.1, f entry.2)) =
      (Keyed.value? index entries).map f := by
    intro index
    rw [Keyed.value?, Keyed.find?_map fun _ => rfl, Keyed.value?, Option.map_map, Option.map_map]
    rfl
  rw [sequence?, sequence?, List.isEmpty_map, List.length_map]
  split_ifs
  · rfl
  · simp only [hvalue, mapM_option_map]

theorem listed_map (f : α → β) (entries : List (Index × α)) :
    listed (entries.map fun entry => (entry.1, f entry.2)) =
      (listed entries).map fun entry => (entry.1, f entry.2) := by
  simp only [listed, List.filter_map, Function.comp_def, List.map_append]

theorem listed_perm (entries : List (Index × α)) : (listed entries).Perm entries :=
  List.filter_append_perm _ _

theorem map_snd_placed (place : ℕ) (values : List α) :
    (placed place values).map Prod.snd = values := by
  induction values generalizing place with
  | nil => rfl
  | cons value rest ih => rw [placed, List.map_cons, ih]

/-- What holds of all items of a list holds of all entries of its table. -/
theorem forall_values_iff {entries : List (Index × α)} {values : List α}
    (hperm : entries.Perm (placed 1 values)) {P : α → Prop} :
    (∀ value ∈ values, P value) ↔ ∀ entry ∈ entries, P entry.2 := by
  simp only [← List.forall_mem_map (f := Prod.snd) (P := P), (hperm.map Prod.snd).mem_iff,
    map_snd_placed]

end

/-- **A table becomes a document value** exactly if its indices have labels and its values become
document values. -/
theorem exists_arrange_iff {entries : List (Index × Except Fault Json)} :
    (∃ json, arrange entries = .ok json) ↔
      (∀ entry ∈ entries, ∃ name, entry.1.label = .ok name) ∧
        ∀ entry ∈ entries, ∃ json, entry.2 = .ok json := by
  rw [arrange]
  cases h : sequence? entries with
  | some items =>
      obtain ⟨hne, hperm⟩ := sequence?_eq_some_iff.1 h
      have hlabels : ∀ entry ∈ entries, ∃ name, entry.1.label = .ok name := by
        intro entry hentry
        have hsequence := isSequence_iff.2 ⟨items, hne, hperm⟩
        have hinteger := hsequence.isInteger _ (List.mem_map_of_mem hentry)
        exact Index.exists_label_iff.2 fun s hs => by rw [hs] at hinteger; cases hinteger
      dsimp only
      rw [exists_bind_pure_iff, exists_mapM_iff, and_iff_right hlabels]
      exact forall_values_iff hperm
  | none =>
      have hlisted : ∀ {P : Index × Except Fault Json → Prop},
          (∀ entry ∈ listed entries, P entry) ↔ ∀ entry ∈ entries, P entry := by
        intro P
        simp only [(listed_perm entries).mem_iff]
      dsimp only
      rw [← hlisted, ← hlisted, ← exists_mapM_iff, ← exists_mapM_iff]
      simp only [bind_eq_ok_iff]
      constructor
      · rintro ⟨json, labels, hlabels, values, hvalues, -⟩
        exact ⟨⟨labels, hlabels⟩, values, hvalues⟩
      · rintro ⟨⟨labels, hlabels⟩, values, hvalues⟩
        exact ⟨_, labels, hlabels, values, hvalues, rfl⟩

theorem bounded_eq_ok_iff {depth : ℕ} {x : Except Fault Json} {json : Json} :
    (if depthLimit < depth then .error .nestedTooDeep else x) = .ok json ↔
      depth ≤ depthLimit ∧ x = .ok json := by
  split_ifs with h
  · simpa using fun h' => absurd h' (Nat.not_le.2 h)
  · simp [Nat.not_lt.1 h]

theorem depth_le_of_table {depth : ℕ} {entries : List (Index × Value)} {json : Json}
    (h : (Value.table entries).toJsonAt depth = .ok json) : depth ≤ depthLimit := by
  rw [toJsonAt] at h
  exact (bounded_eq_ok_iff.1 h).1

/-- What a table becomes. -/
theorem toJsonAt_table_eq_ok {depth : ℕ} {entries : List (Index × Value)} {json : Json}
    (h : (Value.table entries).toJsonAt depth = .ok json) :
    (∃ values items, (values ≠ [] ∧ entries.Perm (placed 1 values)) ∧
      List.Forall₂ (fun value item => value.toJsonAt (depth + 1) = .ok item) values items ∧
        json = .array items) ∨
    (¬ IsSequence entries ∧ ∃ fields : List (String × Json),
      List.Forall₂ (fun entry field => entry.1.label = .ok field.1 ∧
        entry.2.toJsonAt (depth + 1) = .ok field.2) (listed entries) fields ∧
          json = .ofFields fields) := by
  rw [toJsonAt_table (depth_le_of_table h), arrange, sequence?_map, listed_map] at h
  cases hs : sequence? entries with
  | some values =>
      rw [hs] at h
      obtain ⟨items, hitems, h⟩ := bind_eq_ok_iff.1 h
      obtain rfl := Except.ok.inj h
      rw [mapM_eq_ok_iff, List.forall₂_map_left_iff] at hitems
      exact Or.inl ⟨values, items, sequence?_eq_some_iff.1 hs, hitems, rfl⟩
  | none =>
      rw [hs] at h
      obtain ⟨labels, hlabels, h⟩ := bind_eq_ok_iff.1 h
      obtain ⟨values, hvalues, h⟩ := bind_eq_ok_iff.1 h
      obtain rfl := Except.ok.inj h
      rw [mapM_eq_ok_iff, List.forall₂_map_left_iff] at hlabels hvalues
      exact Or.inr ⟨sequence?_eq_none_iff.1 hs, _, forall₂_zip_right hlabels hvalues, rfl⟩

/-! ### Values that become document values -/

/-- The text that a value is, and the texts among the indices of a table, are strings. -/
def Decodable (value : Value) : Prop :=
  ∀ s, value = .text s ∨ .text s ∈ value.keys → s.string?.isSome = true

theorem decodable_table_iff {entries : List (Index × Value)} :
    (Value.table entries).Decodable ↔ ∀ entry ∈ entries, ∃ name, entry.1.label = .ok name := by
  simp only [Decodable, keys, Index.exists_label_iff, List.mem_map, reduceCtorEq, false_or]
  exact ⟨fun h entry hentry s hs => h s ⟨entry, hentry, hs⟩,
    fun h s ⟨entry, hentry, hs⟩ => h entry hentry s hs⟩

theorem toJsonAt_text (depth : ℕ) (s : String) : (Value.text (.plain s)).toJsonAt depth =
    if depthLimit < depth then .error .nestedTooDeep else .ok (.text s) := rfl

theorem toJsonAt_raw (depth : ℕ) (bytes : List UInt8) :
    (Value.text (.raw bytes)).toJsonAt depth = .error .undecodableBytes := rfl

/-- **A value becomes a document value** exactly if there is room for its levels, it has no
function, and its texts are strings. -/
theorem exists_toJsonAt_iff {value : Value} {depth : ℕ} :
    (∃ json, value.toJsonAt depth = .ok json) ↔ depth + value.levels ≤ depthLimit ∧
      ∀ part ∈ value.parts, part ≠ .function ∧ part.Decodable := by
  induction value using tableInduction generalizing depth with
  | table entries ih =>
      by_cases hdepth : depth ≤ depthLimit
      · have hlevels : depth + entriesLevels entries ≤ depthLimit ↔
            ∀ entry ∈ entries, depth + 1 + entry.2.levels ≤ depthLimit := by
          rw [← Nat.le_sub_iff_add_le' hdepth, entriesLevels_le_iff]
          exact forall₂_congr fun _ _ => by omega
        have hvalues : (∀ entry ∈ entries, ∃ json, entry.2.toJsonAt (depth + 1) = .ok json) ↔
            depth + entriesLevels entries ≤ depthLimit ∧
              ∀ entry ∈ entries, ∀ part ∈ entry.2.parts, part ≠ .function ∧ part.Decodable := by
          rw [hlevels, ← forall₂_and]
          exact forall₂_congr fun entry hentry => ih entry hentry
        have hne : Value.table entries ≠ .function := by simp
        rw [toJsonAt_table hdepth, exists_arrange_iff, List.forall_mem_map, List.forall_mem_map,
          hvalues, ← decodable_table_iff, forall_mem_parts_table, and_iff_right hne, levels,
          and_left_comm]
      · refine iff_of_false ?_ fun h => hdepth (Nat.le_of_add_right_le h.1)
        rintro ⟨json, h⟩
        exact hdepth (depth_le_of_table h)
  | text s =>
      cases s with
      | plain s =>
          simp [toJsonAt_text, bounded_eq_ok_iff, levels, parts, Decodable, keys, ChunkText.string?]
      | raw bytes =>
          simp [toJsonAt_raw, parts, Decodable, ChunkText.string?]
  | _ => simp [toJsonAt, bounded_eq_ok_iff, levels, parts, Decodable, keys]

/-! ### Mirrors -/

/-- A document value has all that a value has: a list has the items at the integers from one on, in
their order, and an object one field for each entry, under its label and no other. -/
inductive Mirrors : Value → Json → Prop
  | nil : Mirrors .nil .null
  | boolean (b : Bool) : Mirrors (.boolean b) (.bool b)
  | number (n : Number) : Mirrors (.number n) (.number (.float (doubleOf n)))
  | text (s : String) : Mirrors (.text (.plain s)) (.text s)
  | list {entries : List (Index × Value)} {values : List Value} {items : List Json}
      (hne : values ≠ []) (hplaces : entries.Perm (placed 1 values))
      (hitems : List.Forall₂ Mirrors values items) : Mirrors (.table entries) (.array items)
  | object {entries others : List (Index × Value)} {fields : List (String × Json)}
      (hother : ¬ IsSequence entries) (hperm : others.Perm entries)
      (hlabels : List.Forall₂ (fun entry field => entry.1.label = .ok field.1) others fields)
      (hvalues : List.Forall₂ (fun entry field => Mirrors entry.2 field.2) others fields)
      (hkeys : (fields.map Prod.fst).Nodup) : Mirrors (.table entries) (.object fields)

/-- The indices of each table in a value are distinct, and none is the undefined double. -/
def Indexed (value : Value) : Prop :=
  ∀ part ∈ value.parts, part.keys.Nodup ∧ ∀ key ∈ part.keys, key.Proper

/-- In no table in a value a text spells another index. -/
def Unspelled (value : Value) : Prop := ∀ part ∈ value.parts, ¬ Index.Clash part.keys

instance : DecidablePred Indexed := fun value => inferInstanceAs
  (Decidable (∀ part ∈ value.parts, part.keys.Nodup ∧ ∀ key ∈ part.keys, key.Proper))

instance : DecidablePred Unspelled := fun value =>
  inferInstanceAs (Decidable (∀ part ∈ value.parts, ¬ Index.Clash part.keys))

section

variable {entries : List (Index × Value)}

theorem indexed_table_iff : (Value.table entries).Indexed ↔
    ((entries.map Prod.fst).Nodup ∧ ∀ key ∈ entries.map Prod.fst, key.Proper) ∧
      ∀ entry ∈ entries, entry.2.Indexed :=
  forall_mem_parts_table

theorem unspelled_table_iff : (Value.table entries).Unspelled ↔
    ¬ Index.Clash (entries.map Prod.fst) ∧ ∀ entry ∈ entries, entry.2.Unspelled :=
  forall_mem_parts_table

/-- A list has all items of a table if each item has all of its own. -/
theorem mirrors_array_iff {values : List Value} {items : List Json} (hne : values ≠ [])
    (hperm : entries.Perm (placed 1 values)) :
    (Value.table entries).Mirrors (.array items) ↔ List.Forall₂ Mirrors values items := by
  constructor
  · intro h
    cases h with
    | list hne' hperm' hitems =>
        have hsame := (sequence?_eq_some_iff.2 ⟨hne, hperm⟩).symm.trans
          (sequence?_eq_some_iff.2 ⟨hne', hperm'⟩)
        rwa [Option.some.inj hsame]
  · exact .list hne hperm

variable {others : List (Index × Value)} {fields : List (String × Json)}

/-- The keys of an object are distinct exactly if the labels of its table are. -/
theorem nodup_fields_iff (hperm : others.Perm entries)
    (h : List.Forall₂ (fun entry field => entry.1.label = .ok field.1) others fields) :
    (fields.map Prod.fst).Nodup ↔ (entries.map fun entry => entry.1.label).Nodup := by
  have hsame : others.map (fun entry => entry.1.label) = (fields.map Prod.fst).map .ok := by
    rw [← List.forall₂_eq_eq_eq]
    simpa only [List.forall₂_map_left_iff, List.forall₂_map_right_iff] using h
  rw [← (hperm.map _).nodup_iff, hsame]
  exact (List.nodup_map_iff fun _ _ => Except.ok.inj).symm

/-- **An object has all entries of a table** exactly if their labels are distinct and each field has
all of its entry. -/
theorem mirrors_ofFields_iff (hother : ¬ IsSequence entries) (hperm : others.Perm entries)
    (hlabels : List.Forall₂ (fun entry field => entry.1.label = .ok field.1) others fields) :
    (Value.table entries).Mirrors (.ofFields fields) ↔
      (entries.map fun entry => entry.1.label).Nodup ∧
        List.Forall₂ (fun entry field => Mirrors entry.2 field.2) others fields := by
  rw [← nodup_fields_iff hperm hlabels]
  constructor
  · intro h
    rw [Json.ofFields_eq_filled] at h
    generalize hfields : Keyed.filled Prod.fst fields = fields' at h
    cases h with
    | object _ hperm' hlabels' hvalues hkeys =>
        have hdistinct := (nodup_fields_iff hperm' hlabels').1 hkeys
        have hnodup := (nodup_fields_iff hperm hlabels).2 hdistinct
        obtain rfl : fields = fields' := (Keyed.filled_eq_self_iff.2 hnodup).symm.trans hfields
        -- distinct labels tell the entries apart, so the object lists them in one order only
        have hunique : Relator.LeftUnique fun (entry : Index × Value) (field : String × Json) =>
            entry ∈ entries ∧ entry.1.label = .ok field.1 := fun _ _ _ h h' =>
          List.inj_on_of_nodup_map hdistinct h.1 h'.1 (h.2.trans h'.2.symm)
        have hothers := List.left_unique_forall₂' hunique
          ((List.forall₂_and_left _ _).2 ⟨fun _ => hperm'.mem_iff.1, hlabels'⟩)
          ((List.forall₂_and_left _ _).2 ⟨fun _ => hperm.mem_iff.1, hlabels⟩)
        exact ⟨hnodup, hothers ▸ hvalues⟩
  · rintro ⟨hnodup, hvalues⟩
    rw [Json.ofFields_of_nodup hnodup]
    exact .object hother hperm hlabels hvalues hnodup

/-- **An object has fewer fields** than its table has entries where a text spells another index. -/
theorem exists_fewer_fields {depth : ℕ} {json : Json}
    (hclash : Index.Clash (entries.map Prod.fst))
    (h : (Value.table entries).toJsonAt depth = .ok json) :
    ∃ fields, json = .object fields ∧ fields.length < entries.length := by
  rcases toJsonAt_table_eq_ok h with
    ⟨values, items, hvalues, -, -⟩ | ⟨-, fields, hfields, rfl⟩
  · exact absurd hclash (Index.not_clash_of_integers (isSequence_iff.2 ⟨values, hvalues⟩).isInteger)
  · refine ⟨_, Json.ofFields_eq_filled fields, ?_⟩
    -- an object of as many fields would have distinct keys, and so would the table have labels
    rw [← (listed_perm entries).length_eq, hfields.length_eq]
    refine (Keyed.length_filled_le fields).lt_of_ne fun hsame => ?_
    have hdistinct := (nodup_fields_iff (listed_perm entries) (hfields.imp fun _ _ h => h.1)).1
      (Keyed.length_filled_iff.1 hsame)
    exact Index.not_clash_of_nodup (by rwa [List.map_map]) hclash

end

/-! A value that is no table has no indices. -/

theorem indexed_of_parts {value : Value} (hparts : value.parts = [value])
    (hkeys : value.keys = []) : value.Indexed := by
  rw [Indexed, hparts, List.forall_mem_singleton, hkeys]
  exact ⟨List.nodup_nil, nofun⟩

theorem unspelled_of_parts {value : Value} (hparts : value.parts = [value])
    (hkeys : value.keys = []) : value.Unspelled := by
  rw [Unspelled, hparts, List.forall_mem_singleton, hkeys]
  rintro ⟨_, hkey, -⟩
  cases hkey

/-- **A document value has all that a value has** exactly if no text in it spells another index. -/
theorem mirrors_iff {value : Value} (h : value.Indexed) {depth : ℕ} {json : Json}
    (hjson : value.toJsonAt depth = .ok json) : value.Mirrors json ↔ value.Unspelled := by
  induction value using tableInduction generalizing depth json with
  | table entries ih =>
      obtain ⟨⟨hnodup, hproper⟩, hentries⟩ := indexed_table_iff.1 h
      rw [unspelled_table_iff]
      rcases toJsonAt_table_eq_ok hjson with
        ⟨values, items, hvalues, hitems, rfl⟩ | ⟨hother, fields, hfields, rfl⟩
      · -- a list: its indices are integers, so all depends on its items
        have hstep : ∀ value ∈ values, ∀ item, value.toJsonAt (depth + 1) = .ok item →
            (value.Mirrors item ↔ value.Unspelled) :=
          (forall_values_iff hvalues.2).2 fun entry hentry _ hitem =>
            ih entry hentry (hentries entry hentry) hitem
        rw [mirrors_array_iff hvalues.1 hvalues.2, and_iff_right
          (Index.not_clash_of_integers (isSequence_iff.2 ⟨values, hvalues⟩).isInteger),
          ← forall_values_iff hvalues.2]
        exact forall₂_iff_forall hitems hstep
      · -- an object: its labels have to be distinct, and the rest depends on its values
        have hlabels : ∀ key ∈ entries.map Prod.fst, ∃ name, key.label = .ok name := by
          intro key hkey
          obtain ⟨entry, hentry, rfl⟩ := List.mem_map.1 hkey
          obtain ⟨field, -, hfield⟩ := exists_right_of_forall₂ hfields
            ((listed_perm entries).mem_iff.2 hentry)
          exact ⟨field.1, hfield.1⟩
        have hdistinct := Index.nodup_labels_iff hnodup hproper hlabels
        rw [List.map_map] at hdistinct
        rw [mirrors_ofFields_iff hother (listed_perm entries) (hfields.imp fun _ _ h => h.1)]
        have hlisted : (∀ entry ∈ listed entries, entry.2.Unspelled) ↔
            ∀ entry ∈ entries, entry.2.Unspelled := by simp only [(listed_perm entries).mem_iff]
        refine and_congr hdistinct (Iff.trans (forall₂_iff_forall hfields ?_) hlisted)
        intro entry hentry _ hfield
        have hmem := (listed_perm entries).mem_iff.1 hentry
        exact ih entry hmem (hentries entry hmem) hfield.2
  | nil =>
      obtain rfl := Except.ok.inj (bounded_eq_ok_iff.1 hjson).2
      exact iff_of_true .nil (unspelled_of_parts rfl rfl)
  | boolean b =>
      obtain rfl := Except.ok.inj (bounded_eq_ok_iff.1 hjson).2
      exact iff_of_true (.boolean b) (unspelled_of_parts rfl rfl)
  | number n =>
      obtain rfl := Except.ok.inj (bounded_eq_ok_iff.1 hjson).2
      exact iff_of_true (.number n) (unspelled_of_parts rfl rfl)
  | text s =>
      cases s with
      | plain s =>
          obtain rfl := Except.ok.inj (bounded_eq_ok_iff.1 hjson).2
          exact iff_of_true (.text s) (unspelled_of_parts rfl rfl)
      | raw bytes => cases hjson
  | function => cases (bounded_eq_ok_iff.1 hjson).2

/-! ### Conversion without loss -/

/-- A value as it may occur in Lua, without functions, and with no more levels of values below it
than the conversion allows. -/
structure Plain (value : Value) : Prop where
  indexed : value.Indexed
  levels_le : value.levels ≤ depthLimit
  no_function : ∀ part ∈ value.parts, part ≠ .function

/-- A value becomes a document value that has all of it. -/
def Lossless (value : Value) : Prop := ∃ json, value.toJson = .ok json ∧ value.Mirrors json

/-- **Nothing of a value is lost** exactly if its texts are strings and in no table of it a text
spells another index. -/
theorem lossless_iff {value : Value} (h : value.Plain) :
    value.Lossless ↔ (∀ part ∈ value.parts, part.Decodable) ∧ value.Unspelled := by
  have hsuccess : (∃ json, value.toJson = .ok json) ↔ ∀ part ∈ value.parts, part.Decodable := by
    rw [toJson, exists_toJsonAt_iff, Nat.zero_add, and_iff_right h.levels_le]
    exact forall₂_congr fun part hpart => and_iff_right (h.no_function part hpart)
  constructor
  · rintro ⟨json, hjson, hmirrors⟩
    exact ⟨hsuccess.1 ⟨json, hjson⟩, (mirrors_iff h.indexed hjson).1 hmirrors⟩
  · rintro ⟨hdecodable, hunspelled⟩
    obtain ⟨json, hjson⟩ := hsuccess.2 hdecodable
    exact ⟨json, hjson, (mirrors_iff h.indexed hjson).2 hunspelled⟩

/-- A table with indices of all kinds and a list in it. -/
def mixedTable : Value :=
  .table [(.text (.plain "name"), .text (.plain "Patrol")), (.integer 2, .number (.int 7)),
    (.float 0.5, .boolean true), (.boolean true, .number (.float 1.5)),
    (.text (.plain "list"), .table [(.integer 2, .text (.plain "b")), (.integer 1, .table [])])]

theorem lossless_iff_mixedTable : mixedTable.Plain ∧ mixedTable.Lossless := by
  have hplain : mixedTable.Plain :=
    ⟨by decide, by decide, by decide⟩
  have hdecodable : ∀ part ∈ mixedTable.parts, part.Decodable := by
    simp [mixedTable, parts, entriesParts, Decodable, keys, ChunkText.string?]
  exact ⟨hplain, (lossless_iff hplain).2 ⟨hdecodable, by decide⟩⟩

/-- A table with two items, the second under the text of the first one's index. -/
def twoOnes : Value :=
  .table [(.integer 1, .text (.plain "a")), (.text (.plain "1"), .text (.plain "b"))]

/-- Of the two items, one is lost. -/
theorem not_lossless_twoOnes : twoOnes.Plain ∧ ¬ twoOnes.Lossless := by
  have hplain : twoOnes.Plain := ⟨by decide, by decide, by decide⟩
  refine ⟨hplain, ?_⟩
  rintro ⟨json, hjson, hmirrors⟩
  have hunspelled := (mirrors_iff hplain.indexed hjson).1 hmirrors
  exact absurd hunspelled (by decide)

/-! ### Values of scripts -/

theorem indexed_assign {entries : List (Index × Value)} (h : (Value.table entries).Indexed)
    {index : Index} (hindex : index.Proper) {value : Value} (hvalue : value.Indexed) :
    (Value.table (assign entries index value)).Indexed := by
  obtain ⟨⟨hnodup, hproper⟩, hentries⟩ := indexed_table_iff.1 h
  have hput : (Value.table (Keyed.put Prod.fst (index, value) entries)).Indexed := by
    refine indexed_table_iff.2 ⟨⟨Keyed.nodup_map_put hnodup _, fun key hkey => ?_⟩,
      fun entry hentry => ?_⟩
    · rcases Keyed.mem_map_put_iff.1 hkey with rfl | hkey
      · exact hindex
      · exact hproper key hkey
    · rcases Keyed.mem_put hentry with rfl | hentry
      · exact hvalue
      · exact hentries entry hentry
  have hremove : (Value.table (Keyed.remove Prod.fst index entries)).Indexed := by
    refine indexed_table_iff.2 ⟨⟨Keyed.nodup_map_remove hnodup index, fun key hkey => ?_⟩,
      fun entry hentry => hentries entry (List.mem_filter.1 hentry).1⟩
    exact hproper key ((List.filter_sublist.map Prod.fst).subset hkey)
  cases value with
  | nil => exact hremove
  | _ => exact hput

end Value

theorem indexed_readPath {root : String} {keys : List ChunkText} {value : Value}
    (h : readPath root keys = some value) : value.Indexed := by
  have hempty : (Value.table []).Indexed := by decide
  unfold readPath at h
  split at h
  · split at h
    · obtain rfl := Option.some.inj h
      decide
    · obtain rfl := Option.some.inj h
      split
      · exact hempty
      · exact Value.indexed_of_parts rfl rfl
    · split at h
      · obtain rfl := Option.some.inj h
        exact Value.indexed_of_parts rfl rfl
      · cases h
    · cases h
  · split at h
    · obtain rfl := Option.some.inj h
      split <;> exact Value.indexed_of_parts rfl rfl
    · cases h

theorem indexed_callPath {root : String} {keys : List ChunkText} {argument : ChunkText}
    {value : Value} (h : callPath root keys argument = some value) : value.Indexed := by
  have hempty : (Value.table []).Indexed := by decide
  have hindex : (Index.text (.plain "module")).Proper := trivial
  have hargument : (Value.text argument).Indexed := Value.indexed_of_parts rfl rfl
  unfold callPath at h
  split at h
  · obtain rfl := Option.some.inj h
    exact Value.indexed_assign hempty hindex hargument
  · cases h

mutual

/-- **What an expression yields** has each index once. -/
theorem Expr.indexed_of_evaluate? (e : Expr) {value : Value} (h : e.evaluate? = some value) :
    value.Indexed := by
  cases e with
  | path root keys => exact indexed_readPath h
  | call root keys argument => exact indexed_callPath h
  | table entries =>
      obtain ⟨after, hafter, rfl⟩ := Option.map_eq_some_iff.1 h
      exact indexed_of_evaluateEntries? entries (by decide) hafter
  | _ =>
      obtain rfl := Option.some.inj h
      exact Value.indexed_of_parts rfl rfl

theorem indexed_of_evaluateEntries? (entries : List (EntryKey × Expr)) {place : ℕ}
    {before after : List (Index × Value)} (hbefore : (Value.table before).Indexed)
    (h : evaluateEntries? place before entries = some after) : (Value.table after).Indexed := by
  cases entries with
  | nil => exact Option.some.inj h ▸ hbefore
  | cons entry rest =>
      obtain ⟨key?, e⟩ := entry
      cases key? with
      | none =>
          obtain ⟨value, hvalue, h⟩ := Option.bind_eq_some_iff.1 h
          have hindex : (Index.integer place).Proper := trivial
          exact indexed_of_evaluateEntries? rest
            (Value.indexed_assign hbefore hindex (e.indexed_of_evaluate? hvalue)) h
      | some key =>
          obtain ⟨value, hvalue, h⟩ := Option.bind_eq_some_iff.1 h
          have hindex : (Index.text key).Proper := trivial
          exact indexed_of_evaluateEntries? rest
            (Value.indexed_assign hbefore hindex (e.indexed_of_evaluate? hvalue)) h

end

/-- The value of a script that becomes a document value is mirrored exactly if no text in it spells
another index. -/
theorem Chunk.mirrors_iff {chunk : Chunk} {value : Value} (h : chunk.evaluate? = some value)
    {json : Json} (hjson : value.toJson = .ok json) : value.Mirrors json ↔ value.Unspelled := by
  have hindexed : value.Indexed := by
    cases chunk with
    | call root keys argument =>
        obtain ⟨_, -, rfl⟩ := Option.map_eq_some_iff.1 h
        exact Value.indexed_of_parts rfl rfl
    | result e =>
        obtain ⟨found, hfound, hyielded⟩ := Option.bind_eq_some_iff.1 h
        obtain rfl : found = value := by
          unfold yielded? at hyielded
          split at hyielded
          · cases hyielded
          · exact Option.some.inj hyielded
        exact e.indexed_of_evaluate? hfound
  exact Value.mirrors_iff hindexed hjson

end BehaviorTree.Lua
