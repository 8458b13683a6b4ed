import BehaviorTree.Proofs.Session.Stores

/-! # Renaming a slot

A renaming reads a document, saves it under the new name, deletes the old slot and moves the mark of
the slot used last.  Taken one after the other these steps either get to the end, or stop at a fault
before the first change (`renameStepwise_run`).  A store only holds texts of documents, and what was
read of such a text is read again as it was, so a renaming that gets to the end moves the document,
and nothing else (`rename_after`). -/

namespace BehaviorTree.Slots

open BehaviorTree.Text

variable {α β : Type} {s s' : Slots} {old new cleaned : String} {d : Document}

/-! ### Step by step -/

/-- A call that is made step by step; a fault leaves what has been changed until then. -/
abbrev Steps (α : Type) := ExceptT Fault (StateM Slots) α

/-- The answer of such a call, and the store after it. -/
def run (s : Slots) (steps : Steps α) : Except Fault α × Slots := Id.run (StateT.run steps.run s)

theorem run_bind (s : Slots) (first : Steps α) (next : α → Steps β) :
    s.run (first >>= next) = match s.run first with
      | (.ok a, s') => s'.run (next a)
      | (.error fault, s') => (.error fault, s') := by
  unfold run
  rw [ExceptT.run_bind, StateT.run_bind]
  rcases StateT.run (ExceptT.run first) s with ⟨answer, s'⟩
  cases answer <;> rfl

theorem run_get (s : Slots) : s.run get = (.ok s, s) := rfl

theorem run_pure (s : Slots) (a : α) : s.run (pure a) = (.ok a, s) := rfl

theorem run_set (s t : Slots) : s.run (set t) = (.ok (), t) := rfl

theorem run_modify (s : Slots) (f : Slots → Slots) : s.run (modify f) = (.ok (), f s) := rfl

theorem run_lift (s : Slots) (answer : Except Fault α) : s.run (liftM answer) = (answer, s) := rfl

/-- The changes of a renaming: the document is saved under the new name, the old slot goes, and so
does the mark of the slot used last. -/
def moveDocument (old cleaned : String) (d : Document) : Steps Unit := do
  let used := (← get).lastUsed
  set (← (← get).save cleaned d)
  if cleaned ≠ old then modify fun s => (s.delete old).2
  if used = some old then modify fun s => s.setLastUsed (some cleaned)

/-- Renaming a slot step by step. -/
def renameStepwise (old new : String) : Steps Unit := do
  let cleaned ← cleanName new
  match ← (← get).load old with
  | none => throw (.unknownSlot old)
  | some d =>
    let taken ← if cleaned = old then pure false else do liftM ((← get).isTaken cleaned)
    if taken then throw (.slotTaken cleaned) else moveDocument old cleaned d

theorem moveDocument_run (hclean : cleanName cleaned = .ok cleaned) (s : Slots) (old : String)
    (d : Document) : s.run (moveDocument old cleaned d) = (.ok (), s.moved old cleaned d) := by
  simp only [moveDocument, run_bind, run_get, run_lift, save_of_clean hclean, run_set, moved]
  by_cases hsame : cleaned = old <;> by_cases hused : s.lastUsed = some old <;>
    simp only [hsame, hused, ne_eq, not_true_eq_false, not_false_eq_true, if_true, if_false,
      run_bind, run_pure, run_modify]

/-- **A renaming stops before its first change, or gets to the end.** -/
theorem renameStepwise_run (s : Slots) (old new : String) : s.run (renameStepwise old new) =
    match s.rename old new with
    | .ok s' => (.ok (), s')
    | .error fault => (.error fault, s) := by
  cases hcleaned : cleanName new with
  | error fault =>
      simp only [renameStepwise, rename, hcleaned, run_bind, run_lift]
      rfl
  | ok cleaned =>
      cases hload : s.load old with
      | error fault =>
          simp only [renameStepwise, rename, hcleaned, hload, run_bind, run_lift, run_get]
          rfl
      | ok loaded =>
          cases loaded with
          | none =>
              simp only [renameStepwise, rename, hcleaned, hload, run_bind, run_lift, run_get]
              rfl
          | some d =>
              have hmove := moveDocument_run (cleanName_of_cleanName hcleaned) s old d
              rw [rename_of_loaded hcleaned hload]
              simp only [renameStepwise, hcleaned, hload, run_bind, run_lift, run_get]
              by_cases hsame : cleaned = old
              · simpa [if_pos hsame] using hmove
              · simp only [if_neg hsame, run_bind, run_get, run_lift]
                cases s.isTaken cleaned with
                | error fault => rfl
                | ok taken =>
                    cases taken with
                    | false => exact hmove
                    | true => rfl

/-! ### When a renaming gets to the end -/

theorem eq_trim_of_cleanName {name : String} (h : cleanName name = .ok cleaned) :
    cleaned = trim name := by
  unfold cleanName at h
  dsimp only at h
  split_ifs at h
  exact (Except.ok.inj h).symm

/-- A document can be renamed: the new name is one of a slot, the document is there and can be read,
and the new name is the old one, or can be looked for and is free. -/
structure Renames (s : Slots) (old new : String) (d : Document) : Prop where
  clean : cleanName new = .ok (trim new)
  loaded : s.load old = .ok (some d)
  free : trim new = old ∨ s.Listable ∧ s.find? (trim new) = none

theorem contains_eq_false_iff {name : String} :
    s.contains name = false ↔ s.find? name = none := by
  rw [contains, Option.isSome_eq_false_iff, Option.isNone_iff_eq_none]

/-- **A renaming succeeds exactly if the document can be renamed.** -/
theorem rename_eq_ok_iff : s.rename old new = .ok s' ↔
    ∃ d, s.Renames old new d ∧ s' = s.moved old (trim new) d := by
  constructor
  · intro h
    obtain ⟨cleaned, hcleaned, hrenamed⟩ := renamed_of_rename h
    obtain rfl := eq_trim_of_cleanName hcleaned
    obtain ⟨slot, d, hslot, hparse, -⟩ := hrenamed.entry
    have hload : s.load old = .ok (some d) := by
      rw [load, hslot]
      simp only [hparse]
      rfl
    rw [rename_of_loaded hcleaned hload] at h
    split_ifs at h with hsame
    · exact ⟨d, ⟨hcleaned, hload, Or.inl hsame⟩, (Except.ok.inj h).symm⟩
    · obtain ⟨taken, htaken, h⟩ := bind_eq_ok_iff.1 h
      obtain ⟨hlistable, rfl⟩ := isTaken_eq_ok_iff.1 htaken
      split_ifs at h with hcontains
      have hfree := contains_eq_false_iff.1 (Bool.not_eq_true _ ▸ hcontains)
      exact ⟨d, ⟨hcleaned, hload, Or.inr ⟨hlistable, hfree⟩⟩, (Except.ok.inj h).symm⟩
  · rintro ⟨d, ⟨hcleaned, hload, hfree⟩, rfl⟩
    rw [rename_of_loaded hcleaned hload]
    split_ifs with hsame
    · rfl
    · obtain ⟨hlistable, hfree⟩ := hfree.resolve_left hsame
      rw [isTaken_of_listable hlistable, contains_eq_false_iff.2 hfree]
      rfl

/-! ### What a store holds -/

/-- The text of a slot is that of a document. -/
def IsDocument (slot : Slot) : Prop := ∃ d : Document, slot.payload = d.render none

theorem isDocument_saved (s : Slots) (name : String) (d : Document) :
    IsDocument (s.saved name d) :=
  ⟨d, rfl⟩

theorem All.moved (h : s.All IsDocument) (old cleaned : String) (d : Document) :
    (s.moved old cleaned d).All IsDocument := by
  have hput : (s.put (s.saved cleaned d)).All IsDocument := h.put (isDocument_saved s cleaned d)
  unfold Slots.moved
  split_ifs
  · exact hput
  · exact hput
  · exact hput.delete old
  · exact hput.delete old

/-- Each call keeps it that the texts are those of documents. -/
theorem All.carryOut (h : s.All IsDocument) (call : Call) :
    (call.carryOut s).2.All IsDocument := by
  cases call with
  | save name document =>
      simp only [Call.carryOut, save_eq]
      cases cleanName name with
      | error fault => exact h
      | ok cleaned => exact h.put (isDocument_saved s cleaned document)
  | load name => exact h
  | contains name => exact h
  | delete name => exact h.delete name
  | rename old new =>
      simp only [Call.carryOut]
      cases hrename : s.rename old new with
      | error fault => exact h
      | ok s' =>
          obtain ⟨d, -, rfl⟩ := rename_eq_ok_iff.1 hrename
          exact h.moved old (trim new) d
  | lastUsed => exact h
  | setLastUsed name => exact h

/-- **A store that was opened empty only holds texts of documents.** -/
theorem all_isDocument_after (zone : Zone) (kind : StoreKind) (now : Timestamp)
    (steps : List Step) :
    ((opened zone kind now).after steps).All IsDocument := by
  induction steps using List.reverseRecOn with
  | nil => exact nofun
  | append_singleton steps step ih =>
      have hnow : Slots.All IsDocument
          { (opened zone kind now).after steps with now := step.time } := ih
      rw [after_append]
      exact hnow.carryOut step.call

/-! ### Where the document goes -/

/-- **A document that was loaded is read again as it was**, when it is written. -/
theorem parse_render_of_load (h : s.All IsDocument) (hload : s.load old = .ok (some d)) :
    Document.parse (d.render none) = .ok d := by
  obtain ⟨slot, hslot, hparse⟩ := load_eq_ok_some hload
  obtain ⟨written, hwritten⟩ := h slot (mem_of_find? hslot).1
  obtain ⟨hwritable, g, hg⟩ := Document.writable_of_parse hparse
  rw [hwritten] at hparse
  rw [Document.parse_render hwritable (Document.finite_answer_of_parse_render hparse) hg,
    Document.reread_of_parse_render hparse]

/-- What a renaming does that gets to the end: the document that was loaded under the old name is
loaded under the new one, the old slot is gone unless it has the new name, all other slots stay, and
the slot used last is still the same one. -/
structure Moves (s : Slots) (old cleaned : String) (s' : Slots) : Prop where
  load : s'.load cleaned = s.load old
  old_gone : cleaned ≠ old → s'.find? old = none
  others : ∀ name, name ≠ old → name ≠ cleaned → s'.find? name = s.find? name
  lastUsed : s'.lastUsed = if s.lastUsed = some old then some cleaned else s.lastUsed

theorem find?_moved (s : Slots) (old cleaned : String) (d : Document) (name : String) :
    (s.moved old cleaned d).find? name =
      if name = cleaned then some (s.saved cleaned d)
      else if name = old then none else s.find? name := by
  have hput : ∀ name, (s.put (s.saved cleaned d)).find? name =
      if name = cleaned then some (s.saved cleaned d) else s.find? name := by
    intro name
    split_ifs with hname
    · rw [hname]
      exact find?_put_self (s.saved cleaned d)
    · exact find?_put_of_ne (show (s.saved cleaned d).name ≠ name from Ne.symm hname)
  have hentries : (s.moved old cleaned d).find? name =
      (if cleaned = old then s.put (s.saved cleaned d)
        else ((s.put (s.saved cleaned d)).delete old).2).find? name := by
    unfold Slots.moved
    split_ifs <;> rfl
  rw [hentries]
  by_cases hsame : cleaned = old
  · rw [if_pos hsame, hput, ← hsame]
    split_ifs <;> rfl
  · rw [if_neg hsame]
    by_cases hold : name = old
    · have hgone : ((s.put (s.saved cleaned d)).delete old).2.find? old = none :=
        Keyed.find?_remove_self old _
      rw [hold, hgone, if_neg (Ne.symm hsame), if_pos rfl]
    · rw [find?_delete_of_ne hold, hput, if_neg hold]

theorem lastUsed_moved (s : Slots) (old cleaned : String) (d : Document) :
    (s.moved old cleaned d).lastUsed =
      if s.lastUsed = some old then some cleaned else s.lastUsed := by
  unfold Slots.moved
  by_cases hused : s.lastUsed = some old
  · rw [if_pos hused, if_pos hused]
    rfl
  · rw [if_neg hused, if_neg hused]
    split_ifs
    · rfl
    · exact if_neg hused

/-- **A renaming moves the document, and nothing else.** -/
theorem Renames.moves (h : s.All IsDocument) (hr : s.Renames old new d) :
    s.Moves old (trim new) (s.moved old (trim new) d) where
  load := by
    rw [load, find?_moved, if_pos rfl, hr.loaded]
    simp only [saved, parse_render_of_load h hr.loaded]
    rfl
  old_gone := fun hne => by rw [find?_moved, if_neg (Ne.symm hne), if_pos rfl]
  others := fun name hold hcleaned => by rw [find?_moved, if_neg hcleaned, if_neg hold]
  lastUsed := lastUsed_moved s old (trim new) d

/-- **Renaming a slot.**  After any calls on a store of either kind, a document that can be renamed
is moved: it is loaded under the new name as it was under the old one, which is gone unless it is
the new one; no other slot changes, and the mark of the slot used last moves along.  Any other
renaming stops at a fault before it has changed anything. -/
theorem rename_after (zone : Zone) (kind : StoreKind) (now time : Timestamp) (steps : List Step)
    (old new : String) :
    let s := { (opened zone kind now).after steps with now := time }
    (∃ d g s', s.Renames old new d ∧ d.toGraph = .ok g ∧
        s.run (renameStepwise old new) = (.ok (), s') ∧
        (Call.rename old new).carryOut s = (.ok .done, s') ∧ s.Moves old (trim new) s') ∨
      ∃ fault, (∀ d, ¬ s.Renames old new d) ∧
        s.run (renameStepwise old new) = (.error fault, s) ∧
        (Call.rename old new).carryOut s = (.error fault, s) := by
  intro s
  have hall : s.All IsDocument := all_isDocument_after zone kind now steps
  have hrun := renameStepwise_run s old new
  cases hrename : s.rename old new with
  | error fault =>
      rw [hrename] at hrun
      refine Or.inr ⟨fault, fun d hd => ?_, hrun, by rw [Call.carryOut, hrename]; rfl⟩
      have hok := rename_eq_ok_iff.2 ⟨d, hd, rfl⟩
      rw [hrename] at hok
      cases hok
  | ok s' =>
      rw [hrename] at hrun
      obtain ⟨d, hd, rfl⟩ := rename_eq_ok_iff.1 hrename
      obtain ⟨slot, -, hparse⟩ := load_eq_ok_some hd.loaded
      obtain ⟨-, g, hg⟩ := Document.writable_of_parse hparse
      exact Or.inl ⟨d, g, _, hd, hg, hrun, by rw [Call.carryOut, hrename]; rfl, hd.moves hall⟩

end BehaviorTree.Slots
