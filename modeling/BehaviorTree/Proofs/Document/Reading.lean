import BehaviorTree.Document.Schema
import BehaviorTree.Proofs.Document.Library

/-! # Reading objects by their members

An object of which some members are absent is described by a list of members, each with its value or
none (`Json.present`).  Its text keeps the members (`printedFields_present`), and a reader finds the
value of each of them (`lookup?_present`).  From these the schema reads what was written: a field
(`field_eq_ok`), a text (`textField_eq`) and a list (`list_eq_ok`). -/

namespace BehaviorTree.Json

/-- The fields of an object that are there. -/
def present (members : List (String × Option Json)) : List (String × Json) :=
  members.flatMap fun member => optional member.1 id member.2

/-- The members that are read of the text of an object. -/
def printedMembers (members : List (String × Option Json)) : List (String × Option Json) :=
  members.map fun member => (member.1, member.2.map printed)

variable {members : List (String × Option Json)} {key : String}

theorem present_cons (key : String) (o : Option Json) (members : List (String × Option Json)) :
    present ((key, o) :: members) = optional key id o ++ present members :=
  List.flatMap_cons

theorem optional_map {α : Type} (key : String) (encode : α → Json) (o : Option α) :
    optional key id (o.map encode) = optional key encode o := by
  cases o <;> rfl

theorem map_fst_printedMembers (members : List (String × Option Json)) :
    (printedMembers members).map Prod.fst = members.map Prod.fst := by
  rw [printedMembers, List.map_map]
  rfl

/-- **The text of an object keeps its members.** -/
theorem printedFields_present (members : List (String × Option Json)) :
    printedFields (present members) = present (printedMembers members) := by
  rw [printedFields_eq_map]
  induction members with
  | nil => rfl
  | cons member rest ih =>
      obtain ⟨key, o⟩ := member
      rw [printedMembers, List.map_cons, present_cons, present_cons, List.map_append, ih]
      cases o <;> rfl

theorem exists_of_mem_present {field : String × Json} (h : field ∈ present members) :
    (field.1, some field.2) ∈ members := by
  obtain ⟨⟨key, o⟩, hmember, hfield⟩ := List.mem_flatMap.1 h
  cases o with
  | none => cases hfield
  | some v =>
      obtain rfl := List.mem_singleton.1 hfield
      exact hmember

theorem map_fst_present_sublist (members : List (String × Option Json)) :
    ((present members).map Prod.fst).Sublist (members.map Prod.fst) := by
  induction members with
  | nil => exact List.Sublist.refl _
  | cons member rest ih =>
      obtain ⟨key, o⟩ := member
      rw [present_cons, List.map_append, List.map_cons]
      cases o with
      | none => exact ih.cons key
      | some v => exact ih.cons_cons key

/-- A value that can be read, if there is one. -/
def ReadableIfSome : Option Json → Prop
  | none => True
  | some v => Readable v

theorem readableIfSome_some (v : Json) : ReadableIfSome (some v) ↔ Readable v := Iff.rfl

/-- An object can be read if its members have distinct keys and their values can be read. -/
theorem readable_present (hkeys : (members.map Prod.fst).Nodup)
    (hvalues : ∀ member ∈ members, ReadableIfSome member.2) :
    Readable (.object (present members)) := by
  rw [Readable, readableFields_iff]
  exact ⟨hkeys.sublist (map_fst_present_sublist members),
    fun field hfield => hvalues _ (exists_of_mem_present hfield)⟩

theorem lookup?_cons (key other : String) (value : Json) (fields : List (String × Json)) :
    lookup? key ((other, value) :: fields) =
      if other = key then some value else lookup? key fields := by
  rw [lookup?, Keyed.value?, Keyed.find?_cons]
  split_ifs <;> rfl

theorem lookup?_of_notMem {fields : List (String × Json)} (h : key ∉ fields.map Prod.fst) :
    lookup? key fields = none := by
  induction fields with
  | nil => rfl
  | cons field rest ih =>
      obtain ⟨other, value⟩ := field
      rw [List.map_cons, List.mem_cons, not_or] at h
      rw [lookup?_cons, if_neg (Ne.symm h.1), ih h.2]

theorem lookup?_present_of_notMem (h : key ∉ members.map Prod.fst) :
    lookup? key (present members) = none :=
  lookup?_of_notMem fun hmem => h ((map_fst_present_sublist members).subset hmem)

/-- **A reader finds the value of a member, or finds that it is absent.** -/
theorem lookup?_present (hkeys : (members.map Prod.fst).Nodup) {o : Option Json}
    (h : (key, o) ∈ members) : lookup? key (present members) = o := by
  induction members with
  | nil => cases h
  | cons member rest ih =>
      obtain ⟨other, o'⟩ := member
      rw [List.map_cons, List.nodup_cons] at hkeys
      rw [present_cons]
      rcases List.mem_cons.1 h with heq | hrest
      · obtain ⟨rfl, rfl⟩ := Prod.mk.inj heq
        cases o with
        | none => exact lookup?_present_of_notMem hkeys.1
        | some v => exact (lookup?_cons _ _ _ _).trans (if_pos rfl)
      · have hne : other ≠ key := by
          rintro rfl
          exact hkeys.1 (List.mem_map.2 ⟨_, hrest, rfl⟩)
        cases o' with
        | none => exact ih hkeys.2 hrest
        | some v => exact (lookup?_cons _ _ _ _).trans ((if_neg hne).trans (ih hkeys.2 hrest))

end BehaviorTree.Json

namespace BehaviorTree.Document

open Checked

variable {α β : Type}

/-- A field is read as its value, or as what stands for an absent one. -/
theorem field_eq_ok {key : String} {others : List String} {absent : Checked α}
    {read : Json → Checked α} {fields : List (String × Json)} {o : Option Json} {a : α}
    (hkey : Json.lookup? key fields = o)
    (hothers : ∀ other ∈ others, other = key ∨ Json.lookup? other fields = none)
    (hsome : ∀ v, o = some v → read v = .ok a) (hnone : o = none → absent = .ok a) :
    field (key :: others) absent read fields = .ok a := by
  subst hkey
  cases h : Json.lookup? key fields with
  | some v =>
      have hfind : find? (key :: others) fields = some (key, v) := by simp [find?, h]
      rw [field, hfind]
      simp [hsome v h, within, Except.mapError]
  | none =>
      have hfind : find? (key :: others) fields = none := by
        rw [find?, List.findSome?_eq_none_iff]
        intro other hother
        rcases List.mem_cons.1 hother with rfl | hother
        · rw [h]
          rfl
        · rcases hothers other hother with rfl | hnone
          · rw [h]
            rfl
          · rw [hnone]
            rfl
      rw [field, hfind]
      exact hnone h

/-- A field that is read successfully has a value that is, or is absent. -/
theorem read_of_field_eq_ok {key : String} {others : List String} {absent : Checked α}
    {read : Json → Checked α} {fields : List (String × Json)} {v : Json} {a : α}
    (hkey : Json.lookup? key fields = some v)
    (h : field (key :: others) absent read fields = .ok a) : read v = .ok a := by
  have hfind : find? (key :: others) fields = some (key, v) := by simp [find?, hkey]
  rw [field, hfind] at h
  exact mapError_eq_ok_iff.1 h

theorem nullable_of_ne_null {read : Json → Checked α} {v : Json} (hv : v ≠ .null) {a : α}
    (h : read v = .ok a) : nullable read v = .ok (some a) := by
  unfold nullable
  split
  · exact absurd rfl hv
  · rw [h]
    rfl

/-! ### Values of the type of their field -/

section values

variable {lib : Library} (hlib : lib.Reads)

include hlib

theorem text_text (s : String) : text lib (.text s) = .ok s := by
  rw [text, hlib.text_text]
  rfl

theorem integer_int (n : ℤ) : integer lib (.number (.int n)) = .ok n := by
  rw [integer, hlib.integer_int]
  rfl

theorem double_float {x : Float} (hx : x.isFinite = true) :
    double lib (.number (.float x)) = .ok x := by
  rw [double, hlib.double_float hx]
  rfl

theorem nullable_text (s : String) : nullable (text lib) (.text s) = .ok (some s) :=
  nullable_of_ne_null (by simp) (text_text hlib s)

theorem textField_eq {key : String} {fields : List (String × Json)} {o : Option String}
    (hkey : Json.lookup? key fields = o.map .text) (absent : Option String) :
    textField lib key absent fields = .ok (o.or absent) := by
  refine field_eq_ok hkey nofun (fun v hv => ?_) (fun hnone => ?_)
  · obtain ⟨s, rfl, rfl⟩ := Option.map_eq_some_iff.1 hv
    exact nullable_text hlib s
  · rw [Option.map_eq_none_iff.1 hnone]
    rfl

end values

/-! ### Lists -/

/-- The items of a list are read one by one. -/
theorem list_eq_ok_iff {read : Json → Checked α} {items : List Json} {answers : List α} :
    list read (.array items) = .ok answers ↔
      List.Forall₂ (fun item a => read item = .ok a) items answers := by
  have hfst : (items.zipIdx).map Prod.fst = items := List.zipIdx_map_fst ..
  conv_rhs => rw [← hfst]
  rw [list, mapM_eq_ok_iff, List.forall₂_map_left_iff]
  refine ⟨fun h => h.imp fun p a hp => ?_, fun h => h.imp fun p a hp => ?_⟩
  · exact mapError_eq_ok_iff.1 hp
  · exact mapError_eq_ok_iff.2 hp

theorem exists_of_mem_list {read : Json → Checked α} {items : List Json} {answers : List α}
    (h : list read (.array items) = .ok answers) {item : Json} (hitem : item ∈ items) :
    ∃ a, read item = .ok a := by
  have hall := list_eq_ok_iff.1 h
  clear h
  induction hall with
  | nil => cases hitem
  | cons ha hrest ih =>
      rcases List.mem_cons.1 hitem with rfl | hitem
      · exact ⟨_, ha⟩
      · exact ih hitem

end BehaviorTree.Document
