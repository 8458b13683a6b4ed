import BehaviorTree.Lua.Value
import BehaviorTree.Proofs.Keyed
import BehaviorTree.Proofs.Success
import Mathlib.Data.List.Nodup

/-! # Document values of tables

A table becomes a list or an object, and only as many levels of values are turned into a document
value as the conversion allows.  A value stands for a document value (`Value.StandsFor`) when it
becomes that one at every depth that leaves room for its levels.  A table is a list exactly if its
entries are, in some order, items at the integers from one on (`sequence?_eq_some_iff`).  The items
of a list and the fields of an object stand side by side with the entries of the table
(`standsFor_array`, `standsFor_object`), and they still do after an entry is put or removed on both
sides (`Keyed.forall₂_put`, `Keyed.forall₂_remove`). -/

namespace BehaviorTree

/-! ### Keyed lists side by side -/

namespace Keyed

variable {α β κ κ' : Type} [DecidableEq κ] [DecidableEq κ'] {key : α → κ} {key' : β → κ'}
  {R : α → β → Prop} {f : κ' → κ}

theorem forall₂_put (hf : Function.Injective f) (hkey : ∀ a b, R a b → key a = f (key' b))
    {items : List α} {others : List β} (h : List.Forall₂ R items others) {a : α} {b : β}
    (hab : R a b) : List.Forall₂ R (put key a items) (put key' b others) := by
  induction h with
  | nil => exact .cons hab .nil
  | @cons a' b' _ _ hfirst hrest ih =>
      rw [put, put]
      by_cases hsame : key' b' = key' b
      · rw [if_pos hsame, if_pos (by rw [hkey _ _ hfirst, hkey _ _ hab, hsame])]
        exact .cons hab hrest
      · rw [if_neg hsame, if_neg]
        · exact .cons hfirst ih
        · rw [hkey _ _ hfirst, hkey _ _ hab]
          exact fun he => hsame (hf he)

theorem forall₂_remove (hf : Function.Injective f) (hkey : ∀ a b, R a b → key a = f (key' b))
    {items : List α} {others : List β} (h : List.Forall₂ R items others) (k : κ') :
    List.Forall₂ R (remove key (f k) items) (remove key' k others) := by
  induction h with
  | nil => exact .nil
  | @cons a b items others hfirst hrest ih =>
      have hsame : key a = f k ↔ key' b = k := by rw [hkey a b hfirst, hf.eq_iff]
      by_cases hremoved : key' b = k
      · have hitem : remove key (f k) (a :: items) = remove key (f k) items :=
          List.filter_cons_of_neg (by simpa using hsame.2 hremoved)
        have hother : remove key' k (b :: others) = remove key' k others :=
          List.filter_cons_of_neg (by simpa using hremoved)
        rwa [hitem, hother]
      · have hitem : remove key (f k) (a :: items) = a :: remove key (f k) items :=
          List.filter_cons_of_pos (by simpa using fun he => hremoved (hsame.1 he))
        have hother : remove key' k (b :: others) = b :: remove key' k others :=
          List.filter_cons_of_pos (by simpa using hremoved)
        rw [hitem, hother]
        exact .cons hfirst ih

end Keyed

/-! ### Levels -/

namespace Json

mutual

/-- How many levels of values lie below a document value. -/
def levels : Json → ℕ
  | .array items => itemsLevels items
  | .object fields => fieldsLevels fields
  | _ => 0

def itemsLevels : List Json → ℕ
  | [] => 0
  | item :: rest => max (item.levels + 1) (itemsLevels rest)

def fieldsLevels : List (String × Json) → ℕ
  | [] => 0
  | (_, value) :: rest => max (value.levels + 1) (fieldsLevels rest)

end

theorem itemsLevels_le_iff {items : List Json} {n : ℕ} :
    itemsLevels items ≤ n ↔ ∀ item ∈ items, item.levels < n := by
  induction items with
  | nil => simp [itemsLevels]
  | cons item rest ih => rw [itemsLevels, Nat.max_le, Nat.add_one_le_iff, ih, List.forall_mem_cons]

theorem fieldsLevels_le_iff {fields : List (String × Json)} {n : ℕ} :
    fieldsLevels fields ≤ n ↔ ∀ field ∈ fields, field.2.levels < n := by
  induction fields with
  | nil => simp [fieldsLevels]
  | cons field rest ih => rw [fieldsLevels, Nat.max_le, Nat.add_one_le_iff, ih, List.forall_mem_cons]

theorem ofFields_eq_filled (fields : List (String × Json)) :
    ofFields fields = .object (Keyed.filled Prod.fst fields) := rfl

/-- An object keeps fields with distinct keys as they are. -/
theorem ofFields_of_nodup {fields : List (String × Json)} (h : (fields.map Prod.fst).Nodup) :
    ofFields fields = .object fields := by
  rw [ofFields_eq_filled, Keyed.filled_eq_self_iff.2 h]

end Json

namespace Lua.Value

/-! ### Values at a depth -/

/-- A value stands for a document value: it is not nil and becomes that document value wherever
there is room for its levels. -/
structure StandsFor (value : Value) (json : Json) : Prop where
  ne_nil : value ≠ .nil
  toJsonAt : ∀ depth, depth + json.levels ≤ depthLimit → value.toJsonAt depth = .ok json

theorem entriesAt_eq (depth : ℕ) (entries : List (Index × Value)) :
    entriesAt depth entries = entries.map fun entry => (entry.1, entry.2.toJsonAt depth) := by
  induction entries with
  | nil => rfl
  | cons entry rest ih =>
      rw [entriesAt, ih]
      rfl

theorem toJsonAt_table {depth : ℕ} (h : depth ≤ depthLimit) (entries : List (Index × Value)) :
    (Value.table entries).toJsonAt depth =
      arrange (entries.map fun entry => (entry.1, entry.2.toJsonAt (depth + 1))) := by
  rw [toJsonAt, ← entriesAt_eq]
  exact if_neg (Nat.not_lt.2 h)

theorem standsFor_text (s : String) : (Value.text (.plain s)).StandsFor (.text s) where
  ne_nil := nofun
  toJsonAt _ h := if_neg (Nat.not_lt.2 (Nat.le_of_add_right_le h))

theorem standsFor_boolean (b : Bool) : (Value.boolean b).StandsFor (.bool b) where
  ne_nil := nofun
  toJsonAt _ h := if_neg (Nat.not_lt.2 (Nat.le_of_add_right_le h))

theorem standsFor_number (n : Number) :
    (Value.number n).StandsFor (.number (.float (doubleOf n))) where
  ne_nil := nofun
  toJsonAt _ h := if_neg (Nat.not_lt.2 (Nat.le_of_add_right_le h))

/-! ### Lists -/

/-- The entries of a table at the integers from a place on. -/
def placed {α : Type} (place : ℕ) : List α → List (Index × α)
  | [] => []
  | value :: rest => (.integer place, value) :: placed (place + 1) rest

section

variable {α : Type} (place : ℕ) (values : List α)

theorem length_placed : (placed place values).length = values.length := by
  induction values generalizing place with
  | nil => rfl
  | cons value rest ih => rw [placed, List.length_cons, List.length_cons, ih]

theorem map_placed {β : Type} (f : α → β) :
    (placed place values).map (fun entry => (entry.1, f entry.2)) =
      placed place (values.map f) := by
  induction values generalizing place with
  | nil => rfl
  | cons value rest ih => rw [placed, List.map_cons, ih, List.map_cons, placed]

theorem value?_placed (i : ℕ) :
    Keyed.value? (Index.integer (place + i : ℕ)) (placed place values) = values[i]? := by
  induction values generalizing place i with
  | nil => rfl
  | cons value rest ih =>
      rw [placed, Keyed.value?, Keyed.find?_cons]
      cases i with
      | zero => simp
      | succ i =>
          have hne : Index.integer (place : Int) ≠ Index.integer (place + (i + 1) : ℕ) := by
            simp only [ne_eq, Index.integer.injEq]
            omega
          have hplace : place + (i + 1) = place + 1 + i := by omega
          rw [if_neg hne, List.getElem?_cons_succ, ← ih (place + 1), hplace]
          rfl

theorem map_fst_placed : (placed place values).map Prod.fst =
    (List.range' place values.length).map fun (i : ℕ) => Index.integer i := by
  induction values generalizing place with
  | nil => rfl
  | cons value rest ih =>
      rw [placed, List.map_cons, ih, List.length_cons, List.range'_succ, List.map_cons]

theorem nodup_placed : ((placed place values).map Prod.fst).Nodup := by
  rw [map_fst_placed]
  exact List.Nodup.map (fun _ _ h => Int.ofNat.inj (Index.integer.inj h)) List.nodup_range'

theorem mem_placed {index : Index} {value : α} (h : (index, value) ∈ placed place values) :
    ∃ i : ℕ, index = .integer (place + i : ℕ) ∧ values[i]? = some value := by
  have hkey := List.mem_map_of_mem (f := Prod.fst) h
  rw [map_fst_placed] at hkey
  obtain ⟨found, hfound, hindex⟩ := List.mem_map.1 hkey
  obtain ⟨i, -, rfl⟩ := List.mem_range'.1 hfound
  rw [Nat.one_mul] at hindex
  refine ⟨i, hindex.symm, ?_⟩
  rw [← value?_placed place, Keyed.value?_eq_some_iff (nodup_placed place values), hindex]
  exact h

end

section

variable {α : Type} {entries others : List (Index × α)} {values : List α}

theorem sequence?_perm (hperm : entries.Perm others) (h : (others.map Prod.fst).Nodup) :
    sequence? entries = sequence? others := by
  rw [sequence?, sequence?, hperm.length_eq, hperm.isEmpty_eq]
  simp only [Keyed.value?_perm hperm h]

/-- **The items of a table** at the integers from one on are a list. -/
theorem sequence?_placed (hne : values ≠ []) : sequence? (placed 1 values) = some values := by
  have hplaced : placed 1 values ≠ [] := by
    rw [← List.length_pos_iff, length_placed]
    exact List.length_pos_of_ne_nil hne
  rw [sequence?, if_neg (by simpa using hplaced), length_placed]
  refine mapM_eq_some_iff.2 (List.forall₂_iff_get.2 ⟨List.length_range, fun i hi hi' => ?_⟩)
  have hvalue := value?_placed 1 values i
  rw [Nat.add_comm] at hvalue
  simp only [List.get_eq_getElem, List.getElem_range]
  rw [← List.getElem?_eq_getElem, ← hvalue]
  push_cast
  rfl

/-- **A table is a list** exactly if its entries are, in some order, items at the integers from one
on. -/
theorem sequence?_eq_some_iff :
    sequence? entries = some values ↔ values ≠ [] ∧ entries.Perm (placed 1 values) := by
  constructor
  · intro h
    rw [sequence?] at h
    split_ifs at h with hempty
    have hfound := mapM_eq_some_iff.1 h
    have hlength : values.length = entries.length := by
      rw [← hfound.length_eq, List.length_range]
    refine ⟨fun hnil => hempty ?_, ?_⟩
    · rw [List.isEmpty_iff, ← List.length_eq_zero_iff, ← hlength, hnil, List.length_nil]
    · have hsub : placed 1 values ⊆ entries := by
        rintro ⟨index, value⟩ hmem
        obtain ⟨i, rfl, hvalue⟩ := mem_placed 1 values hmem
        obtain ⟨hi, hget⟩ := List.getElem?_eq_some_iff.1 hvalue
        have hplace := hfound.get (i := i) (by simpa using hlength ▸ hi) hi
        have hindex : ((1 + i : ℕ) : Int) = (i : Int) + 1 := by omega
        rw [hindex]
        simpa [hget] using Keyed.mem_of_value? hplace
      have hle : entries.length ≤ (placed 1 values).length :=
        Nat.le_of_eq (hlength.symm.trans (length_placed 1 values).symm)
      have hsubperm := List.subperm_of_subset (nodup_placed 1 values).of_map hsub
      exact (hsubperm.perm_of_length_le hle).symm
  · rintro ⟨hne, hperm⟩
    rw [sequence?_perm hperm (nodup_placed 1 values), sequence?_placed hne]

end

theorem standsFor_array {values : List Value} {items : List Json}
    (h : List.Forall₂ StandsFor values items) (hne : values ≠ []) :
    (Value.table (placed 1 values)).StandsFor (.array items) where
  ne_nil := nofun
  toJsonAt depth hdepth := by
    have hitems : values.map (fun value => value.toJsonAt (depth + 1)) = items.map .ok := by
      have hlevels : ∀ item ∈ items, depth + 1 + item.levels ≤ depthLimit := by
        intro item hitem
        have := Json.itemsLevels_le_iff.1 (Nat.le_refl _) item hitem
        rw [Json.levels] at hdepth
        omega
      clear hdepth hne
      induction h with
      | nil => rfl
      | cons hfirst hrest ih =>
          rw [List.map_cons, List.map_cons, hfirst.toJsonAt _ (hlevels _ List.mem_cons_self),
            ih fun item hitem => hlevels item (List.mem_cons_of_mem _ hitem)]
    rw [toJsonAt_table (Nat.le_of_add_right_le hdepth), map_placed, hitems, arrange,
      sequence?_placed (by rw [← hitems]; simpa using hne)]
    have hall : (items.map Except.ok).mapM id = (.ok (items.map id) : Except Fault (List Json)) :=
      mapM_map_eq_ok fun _ _ => rfl
    rw [List.map_id] at hall
    change (do return Json.array (← (items.map Except.ok).mapM id)) = _
    rw [hall]
    rfl

/-! ### Objects -/

/-- An entry of a table under a text stands for a field of an object. -/
def FieldOf (entry : Index × Value) (field : String × Json) : Prop :=
  entry.1 = .text (.plain field.1) ∧ entry.2.StandsFor field.2

theorem injective_text : Function.Injective fun name => Index.text (.plain name) :=
  fun _ _ h => ChunkText.plain.inj (Index.text.inj h)

/-- Fields as the entries of a table whose values have been turned into document values. -/
def labelled (fields : List (String × Json)) : List (Index × Except Fault Json) :=
  fields.map fun field => (.text (.plain field.1), .ok field.2)

theorem sequence?_labelled (fields : List (String × Json)) :
    sequence? (labelled fields) = none := by
  have hnone : Keyed.value? (Index.integer ((0 : ℕ) + 1)) (labelled fields) = none := by
    simp [Keyed.value?, Keyed.find?, labelled]
  cases fields with
  | nil => rfl
  | cons field rest =>
      rw [sequence?, if_neg (by simp [labelled]), labelled, List.length_map, List.length_cons,
        List.range_succ_eq_map, List.mapM_cons, ← labelled, hnone]
      rfl

theorem listed_labelled (fields : List (String × Json)) :
    listed (labelled fields) = labelled fields := by
  have hinteger : ∀ entry ∈ labelled fields, entry.1.isInteger = false := by
    intro entry hentry
    obtain ⟨field, -, rfl⟩ := List.mem_map.1 hentry
    rfl
  rw [listed, List.filter_eq_nil_iff.2 (by simpa using hinteger), List.nil_append]
  exact List.filter_eq_self.2 (by simpa using hinteger)

/-- **Entries under texts** are an object. -/
theorem arrange_labelled (fields : List (String × Json)) :
    arrange (labelled fields) = .ok (.ofFields fields) := by
  have hlabels : (labelled fields).mapM (fun entry => entry.1.label) = .ok (fields.map Prod.fst) :=
    mapM_map_eq_ok fun _ _ => rfl
  have hvalues : (labelled fields).mapM (fun entry => entry.2) = .ok (fields.map Prod.snd) :=
    mapM_map_eq_ok fun _ _ => rfl
  have hzip : (fields.map Prod.fst).zip (fields.map Prod.snd) = fields := by
    rw [List.zip_map']
    exact List.map_id fields
  rw [arrange, sequence?_labelled, listed_labelled]
  dsimp only
  rw [hlabels, hvalues]
  change Except.ok (Json.ofFields _) = _
  rw [hzip]

theorem standsFor_object {entries : List (Index × Value)} {fields : List (String × Json)}
    (h : List.Forall₂ FieldOf entries fields) (hkeys : (fields.map Prod.fst).Nodup) :
    (Value.table entries).StandsFor (.object fields) where
  ne_nil := nofun
  toJsonAt depth hdepth := by
    have hentries : entries.map (fun entry => (entry.1, entry.2.toJsonAt (depth + 1))) =
        labelled fields := by
      have hlevels : ∀ field ∈ fields, depth + 1 + field.2.levels ≤ depthLimit := by
        intro field hfield
        have := Json.fieldsLevels_le_iff.1 (Nat.le_refl _) field hfield
        rw [Json.levels] at hdepth
        omega
      clear hdepth hkeys
      induction h with
      | nil => rfl
      | cons hfirst hrest ih =>
          rw [List.map_cons, labelled, List.map_cons, hfirst.1,
            hfirst.2.toJsonAt _ (hlevels _ List.mem_cons_self),
            ih fun field hfield => hlevels field (List.mem_cons_of_mem _ hfield)]
          rfl
    rw [toJsonAt_table (Nat.le_of_add_right_le hdepth), hentries, arrange_labelled,
      Json.ofFields_of_nodup hkeys]

end Lua.Value
end BehaviorTree
