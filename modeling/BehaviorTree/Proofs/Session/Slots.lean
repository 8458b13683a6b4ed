import BehaviorTree.Slots
import BehaviorTree.Proofs.Document.OfGraph
import BehaviorTree.Proofs.Document.Parsed
import BehaviorTree.Proofs.Keyed
import BehaviorTree.Proofs.Text.Trimming

/-! # Stores of slots

What saving, deleting and renaming do to the slots of a store: the slot that is saved is found under
its name, and the other slots are found as before (`find?_save`, `find?_rename`). -/

namespace BehaviorTree.Slots

open BehaviorTree.Text

/-! ### Names -/

/-- A name that has been cleaned is clean. -/
theorem cleanName_of_cleanName {name cleaned : String} (h : cleanName name = .ok cleaned) :
    cleanName cleaned = .ok cleaned := by
  unfold cleanName at h
  dsimp only at h
  split_ifs at h with hempty hforbidden
  obtain rfl := Except.ok.inj h
  unfold cleanName
  dsimp only
  rw [trim_trim, if_neg hempty, if_neg hforbidden]

theorem ne_empty_of_cleanName {name cleaned : String} (h : cleanName name = .ok cleaned) :
    cleaned ≠ "" := by
  unfold cleanName at h
  dsimp only at h
  split_ifs at h with hempty
  rw [← Except.ok.inj h]
  exact fun he => hempty (String.isEmpty_iff.2 he)

/-! ### Looking up -/

variable {s s' : Slots}

theorem contains_iff {name : String} :
    s.contains name = true ↔ ∃ slot, s.find? name = some slot := by
  rw [contains, Option.isSome_iff_exists]

theorem mem_of_find? {name : String} {slot : Slot} (h : s.find? name = some slot) :
    slot ∈ s.entries ∧ slot.name = name :=
  Keyed.mem_of_find? h

/-- Whether the slots of a store can be looked through. -/
def Listable (s : Slots) : Prop := s.kind = .memory → s.entries.all (hasCount s.zone) = true

/-- **A name is looked for in a store whose slots can be looked through.** -/
theorem isTaken_eq_ok_iff {name : String} {taken : Bool} :
    s.isTaken name = .ok taken ↔ s.Listable ∧ taken = s.contains name := by
  unfold isTaken Listable
  cases hkind : s.kind with
  | database =>
      simp only [reduceCtorEq, false_imp_iff, true_and, Except.ok.injEq]
      exact eq_comm
  | memory =>
      have hany : (s.entries.mergeSort (precedes s.zone .memory)).any (fun slot => slot.name = name) =
          s.contains name := by
        rw [Bool.eq_iff_iff, List.any_eq_true, contains_iff, find?, Keyed.find?]
        constructor
        · rintro ⟨slot, hslot, hname⟩
          exact Option.isSome_iff_exists.1 (List.find?_isSome.2
            ⟨slot, (List.mergeSort_perm _ _).subset hslot, hname⟩)
        · rintro ⟨slot, hslot⟩
          have hname := List.find?_some hslot
          exact ⟨slot, (List.mergeSort_perm _ _).symm.subset (List.mem_of_find?_eq_some hslot),
            hname⟩
      by_cases hall : s.entries.all (hasCount s.zone) = true
      · simp only [listed, hkind, hall, Bool.not_true, Bool.false_eq_true, and_false, if_false,
          bind, Except.bind, hany, pure, Except.pure, Except.ok.injEq, forall_const, true_and]
        exact eq_comm
      · simp [listed, hkind, hall, bind, Except.bind]

/-! ### Saving and renaming -/

theorem find?_put_self (slot : Slot) : (s.put slot).find? slot.name = some slot :=
  Keyed.find?_put_self slot s.entries

theorem find?_put_of_ne {slot : Slot} {name : String} (h : slot.name ≠ name) :
    (s.put slot).find? name = s.find? name :=
  Keyed.find?_put_of_ne h s.entries

theorem find?_delete_of_ne {name other : String} (h : other ≠ name) :
    (s.delete name).2.find? other = s.find? other :=
  Keyed.find?_remove_of_ne h s.entries

/-- The slot that a document is saved in. -/
def saved (s : Slots) (name : String) (d : Document) : Slot :=
  ⟨name, d.render none, s.noted d, d.nodes.length⟩

/-- A slot for a document with a text of its own. -/
def savedAs (s : Slots) (name : String) (d : Document) (payload : String) : Slot :=
  ⟨name, payload, s.noted d, d.nodes.length⟩

/-- Under a clean name, a document is saved as the text that the library prints, if it does. -/
theorem saveBy_of_clean {name : String} (hname : cleanName name = .ok name) (lib : Library)
    (d : Document) : s.saveBy lib name d =
      (lib.render d none).map fun payload => s.put (s.savedAs name d payload) := by
  rw [saveBy, hname]
  cases lib.render d none <;> rfl

/-- A document is saved in the slot of the clean name. -/
theorem save_eq (s : Slots) (name : String) (d : Document) : s.save name d =
    (cleanName name).map fun cleaned => s.put (s.saved cleaned d) := by
  rw [save, saveBy]
  cases cleanName name <;> rfl

theorem save_eq_ok_iff {name : String} {d : Document} :
    s.save name d = .ok s' ↔ ∃ cleaned, cleanName name = .ok cleaned ∧
      s' = s.put (s.saved cleaned d) := by
  rw [save_eq]
  cases cleanName name with
  | error fault => simp [Except.map]
  | ok cleaned => simp [Except.map, eq_comm]

/-- A document that is saved under a clean name goes into the slot of that name. -/
theorem save_of_clean {name : String} (hname : cleanName name = .ok name) (d : Document) :
    s.save name d = .ok (s.put (s.saved name d)) :=
  save_eq_ok_iff.2 ⟨name, hname, rfl⟩

theorem load_eq_ok_some {name : String} {d : Document} (h : s.load name = .ok (some d)) :
    ∃ slot, s.find? name = some slot ∧ Document.parse slot.payload = .ok d := by
  unfold load at h
  split at h
  · cases h
  · rename_i slot hslot
    obtain ⟨d', hd', heq⟩ := map_eq_ok_iff.1 h
    rw [← Option.some.inj heq]
    exact ⟨slot, hslot, hd'⟩

/-- What a renaming does: the document is read, and saved under the new name, which is taken by no
other slot; the slot of the old name goes. -/
structure Renamed (s : Slots) (old cleaned : String) (s' : Slots) : Prop where
  clean : cleanName cleaned = .ok cleaned
  entry : ∃ slot d, s.find? old = some slot ∧ Document.parse slot.payload = .ok d ∧
    s'.entries = if cleaned = old then (s.put (s.saved cleaned d)).entries
      else ((s.put (s.saved cleaned d)).delete old).2.entries
  free : cleaned ≠ old → s.find? cleaned = none
  kind : s'.kind = s.kind

theorem renamed_of_rename {old new : String} (h : s.rename old new = .ok s') :
    ∃ cleaned, cleanName new = .ok cleaned ∧ s.Renamed old cleaned s' := by
  obtain ⟨cleaned, hcleaned, h⟩ := bind_eq_ok_iff.1 h
  refine ⟨cleaned, hcleaned, ?_⟩
  have hclean := cleanName_of_cleanName hcleaned
  obtain ⟨loaded, hloaded, h⟩ := bind_eq_ok_iff.1 h
  cases loaded with
  | none => cases h
  | some d =>
      obtain ⟨slot, hslot, hparse⟩ := load_eq_ok_some hloaded
      dsimp only at h
      rw [save_of_clean hclean] at h
      by_cases hsame : cleaned = old
      · rw [if_pos hsame] at h
        obtain rfl := Except.ok.inj h
        refine ⟨hclean, ⟨slot, d, hslot, hparse, ?_⟩, fun hne => absurd hsame hne, ?_⟩
        · rw [if_pos hsame, if_pos hsame]
          split_ifs <;> rfl
        · rw [if_pos hsame]
          split_ifs <;> rfl
      · rw [if_neg hsame] at h
        obtain ⟨taken, htaken, h⟩ := bind_eq_ok_iff.1 h
        obtain ⟨-, rfl⟩ := isTaken_eq_ok_iff.1 htaken
        split_ifs at h with hcontains hused
        all_goals
          obtain rfl := Except.ok.inj h
          refine ⟨hclean, ⟨slot, d, hslot, hparse, ?_⟩, fun _ => ?_, rfl⟩
          · exact (if_neg hsame).symm
          · rw [contains, Option.isSome_iff_ne_none, not_not] at hcontains
            exact hcontains

namespace Renamed

variable {old cleaned : String}

theorem find?_cleaned (h : s.Renamed old cleaned s') : ∃ slot d, s.find? old = some slot ∧
    Document.parse slot.payload = .ok d ∧ s'.find? cleaned = some (s.saved cleaned d) := by
  obtain ⟨slot, d, hslot, hparse, hentries⟩ := h.entry
  have hput : (s.put (s.saved cleaned d)).find? cleaned = some (s.saved cleaned d) :=
    find?_put_self (s.saved cleaned d)
  refine ⟨slot, d, hslot, hparse, ?_⟩
  rw [find?, hentries]
  split_ifs with hsame
  · exact hput
  · exact (find?_delete_of_ne hsame).trans hput

theorem find?_other (h : s.Renamed old cleaned s') {name : String} (hcleaned : cleaned ≠ name)
    (hold : old ≠ name) : s'.find? name = s.find? name := by
  obtain ⟨slot, d, -, -, hentries⟩ := h.entry
  have hput : (s.put (s.saved cleaned d)).find? name = s.find? name :=
    find?_put_of_ne (show (s.saved cleaned d).name ≠ name from hcleaned)
  rw [find?, hentries]
  split_ifs with hsame
  · exact hput
  · exact (find?_delete_of_ne hold.symm).trans hput

end Renamed

/-! ### Properties of all slots -/

/-- All slots of a store have a property. -/
def All (P : Slot → Prop) (s : Slots) : Prop := ∀ slot ∈ s.entries, P slot

/-- A property that makes names clean, and that what is saved has. -/
class Stable (P : Slot → Prop) : Prop where
  clean : ∀ slot, P slot → cleanName slot.name = .ok slot.name
  saved : ∀ (s : Slots) (name : String) (d : Document), cleanName name = .ok name → d.Writable →
    P (s.saved name d)

/-- The name of a slot is clean, as saving and renaming make it. -/
def IsClean (slot : Slot) : Prop := cleanName slot.name = .ok slot.name

/-- Moreover the text of the slot is that of a document that was saved. -/
def IsWritten (slot : Slot) : Prop :=
  IsClean slot ∧ ∃ d : Document, d.Writable ∧ slot.payload = d.render none

instance : Stable IsClean where
  clean := fun _ h => h
  saved := fun _ _ _ hname _ => hname

instance : Stable IsWritten where
  clean := fun _ h => h.1
  saved := fun _ _ d hname hd => ⟨hname, d, hd, rfl⟩

variable {P : Slot → Prop}

theorem All.put (h : s.All P) {slot : Slot} (hslot : P slot) : (s.put slot).All P := by
  intro other hother
  rcases Keyed.mem_put hother with rfl | hother
  · exact hslot
  · exact h other hother

theorem All.delete (h : s.All P) (name : String) : (s.delete name).2.All P :=
  fun other hother => h other (List.mem_filter.1 hother).1

theorem All.renamed [Stable P] (h : s.All P) {old cleaned : String}
    (hr : s.Renamed old cleaned s') : s'.All P := by
  obtain ⟨slot, d, -, hparse, hentries⟩ := hr.entry
  have hput := h.put (Stable.saved s cleaned d hr.clean (Document.writable_of_parse hparse).1)
  unfold All
  rw [hentries]
  split_ifs with hsame
  · exact hput
  · exact hput.delete old

end BehaviorTree.Slots
