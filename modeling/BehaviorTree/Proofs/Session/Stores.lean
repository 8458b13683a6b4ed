import BehaviorTree.Proofs.Keyed
import BehaviorTree.Proofs.Session.Slots

/-! # Two kinds of store

A store in memory and a database that are opened empty and get the same calls keep the same
documents under the same names (`Twins`), and they answer alike: with the same answer, or with faults
of the same kind.  There is one exception.  A store in memory looks for a name among its listed
slots, and it cannot list them while one of them was changed at a time without a count.
`Call.Misses` tells the calls that fail for this, and `alike_iff` that the stores differ at no other
call. -/

namespace BehaviorTree

/-! ### Answers -/

/-- The kinds of fault. -/
inductive FaultKind where
  | value
  | key
  | index
  | runtime
  | overflow
  | decoding
  | importing
  | exporting
  deriving DecidableEq

/-- The kind of a fault. -/
def Fault.kind : Fault → FaultKind
  | .unknownNode _ | .unknownSlot _ => .key
  | .noParam _ | .noField _ | .noHistoryEntry _ => .index
  | .noSlotStore | .unknownHome => .runtime
  | .outOfRange => .overflow
  | .undecodableBytes => .decoding
  | .importing _ => .importing
  | .exporting _ => .exporting
  | _ => .value

/-- Two answers are equal, or both calls fail for the same kind of reason. -/
def Alike {α : Type} : Except Fault α → Except Fault α → Prop
  | .ok a, .ok b => a = b
  | .error fault, .error other => fault.kind = other.kind
  | _, _ => False

theorem Alike.refl {α : Type} (x : Except Fault α) : Alike x x := by
  cases x <;> exact rfl

/-- What both kinds of store keep of a slot: its name, its text, and the number of its nodes. -/
def Slot.kept (slot : Slot) : String × String × Nat := (slot.name, slot.payload, slot.nodeCount)

namespace Slots

/-- The calls on a store. -/
inductive Call where
  | save (name : String) (document : Document)
  | load (name : String)
  | contains (name : String)
  | delete (name : String)
  | rename (old new : String)
  | lastUsed
  | setLastUsed (name : Option String)

/-- What a call answers. -/
inductive Answer where
  | done
  | document (found : Option Document)
  | truth (holds : Bool)
  | name (found : Option String)
  deriving DecidableEq

/-- The outcome of a call that changes a store: a call that fails leaves it alone. -/
def settle (s : Slots) : Except Fault Slots → Except Fault Answer × Slots
  | .ok s' => (.ok .done, s')
  | .error fault => (.error fault, s)

/-- The answer of a call, and the store after it. -/
def Call.carryOut (s : Slots) : Call → Except Fault Answer × Slots
  | save name document => s.settle (s.save name document)
  | load name => (.document <$> s.load name, s)
  | contains name => (.truth <$> s.isTaken name, s)
  | delete name => (.ok (.truth (s.delete name).1), (s.delete name).2)
  | rename old new => s.settle (s.rename old new)
  | lastUsed => (.ok (.name s.lastUsed), s)
  | setLastUsed name => (.ok .done, s.setLastUsed name)

/-- A call at a point in time. -/
structure Step where
  time : Timestamp
  call : Call

/-- The answer of a call at its time, and the store after it. -/
def Step.carryOut (s : Slots) (step : Step) : Except Fault Answer × Slots :=
  step.call.carryOut { s with now := step.time }

/-- An empty store, on a host with a time zone. -/
def opened (zone : Zone) (kind : StoreKind) (now : Timestamp) : Slots :=
  { kind := kind, zone := zone, now := now }

/-- A store after some calls. -/
def after (s : Slots) (steps : List Step) : Slots :=
  steps.foldl (fun s step => (step.carryOut s).2) s

/-- The names of a store with the numbers of nodes of their documents. -/
def held (s : Slots) : List (String × Nat) := s.entries.map fun slot => (slot.name, slot.nodeCount)

/-- The calls that fail in memory because the slots cannot be looked through: to look for a name, and
to rename a slot that is there to a name that is free. -/
def Call.Misses (s : Slots) : Call → Prop
  | contains _ => ¬ s.Listable
  | rename old new => ¬ s.Listable ∧ ∃ cleaned d, cleanName new = .ok cleaned ∧ cleaned ≠ old ∧
      s.load old = .ok (some d) ∧ s.contains cleaned = false
  | _ => False

/-! ### Looking for a name -/

variable {s m d : Slots}

theorem isTaken_of_listable (h : s.Listable) (name : String) :
    s.isTaken name = .ok (s.contains name) :=
  isTaken_eq_ok_iff.2 ⟨h, rfl⟩

theorem isTaken_of_not_listable (h : ¬ s.Listable) (name : String) :
    s.isTaken name = .error .tooEarly := by
  obtain ⟨hkind, hall⟩ := Classical.not_imp.1 h
  simp only [isTaken, hkind, listed, true_and, hall]
  rfl

/-! ### Renaming -/

/-- A store after a document has been moved to a clean name that is free. -/
def moved (s : Slots) (old cleaned : String) (d : Document) : Slots :=
  let put := s.put (s.saved cleaned d)
  let moved := if cleaned = old then put else (put.delete old).2
  if s.lastUsed = some old then moved.setLastUsed (some cleaned) else moved

/-- Renaming a slot that can be read, to a name that can be cleaned. -/
theorem rename_of_loaded {old new cleaned : String} {d : Document}
    (hcleaned : cleanName new = .ok cleaned) (hloaded : s.load old = .ok (some d)) :
    s.rename old new = if cleaned = old then .ok (s.moved old cleaned d)
      else s.isTaken cleaned >>= fun taken =>
        if taken then .error (.slotTaken cleaned) else .ok (s.moved old cleaned d) := by
  have hsave := save_of_clean (s := s) (cleanName_of_cleanName hcleaned) d
  unfold rename
  rw [hcleaned, hloaded]
  dsimp only [bind, Except.bind]
  rw [hsave]
  by_cases hused : s.lastUsed = some old
  all_goals
    by_cases hsame : cleaned = old
    · simp only [moved, hused, hsame, if_true, if_false]
      rfl
    · simp only [moved, hused, hsame, if_true, if_false]
      cases s.isTaken cleaned with
      | error fault => rfl
      | ok taken => cases taken <;> rfl

/-! ### Twins -/

/-- A store in memory and a database with the same slots, but for the times. -/
structure Twins (m d : Slots) : Prop where
  memory : m.kind = .memory
  database : d.kind = .database
  entries : m.entries.map Slot.kept = d.entries.map Slot.kept
  lastUsed : m.lastUsed = d.lastUsed

theorem twins_opened (zone : Zone) (now : Timestamp) :
    Twins (opened zone .memory now) (opened zone .database now) :=
  ⟨rfl, rfl, rfl, rfl⟩

namespace Twins

theorem withNow (h : Twins m d) (now : Timestamp) :
    Twins { m with now := now } { d with now := now } :=
  ⟨h.memory, h.database, h.entries, h.lastUsed⟩

theorem held (h : Twins m d) : m.held = d.held := by
  have hheld : ∀ s : Slots, s.held = (s.entries.map Slot.kept).map fun kept => (kept.1, kept.2.2) :=
    fun s => by rw [List.map_map]; rfl
  rw [hheld, hheld, h.entries]

theorem find? (h : Twins m d) (name : String) :
    (m.find? name).map Slot.kept = (d.find? name).map Slot.kept := by
  have hkey : ∀ slot : Slot, Prod.fst slot.kept = slot.name := fun _ => rfl
  rw [Slots.find?, Slots.find?, ← Keyed.find?_map hkey, ← Keyed.find?_map hkey, h.entries]

theorem contains (h : Twins m d) (name : String) : m.contains name = d.contains name := by
  have hfind := congrArg Option.isSome (h.find? name)
  rwa [Option.isSome_map, Option.isSome_map] at hfind

theorem load (h : Twins m d) (name : String) : m.load name = d.load name := by
  have hload : ∀ s : Slots, s.load name = match (s.find? name).map Slot.kept with
      | none => .ok none
      | some kept => some <$> Document.parse kept.2.1 := by
    intro s
    unfold Slots.load
    cases s.find? name <;> rfl
  rw [hload, hload, h.find?]

theorem put (h : Twins m d) {slot other : Slot} (hkept : slot.kept = other.kept) :
    Twins (m.put slot) (d.put other) := by
  have hkey : ∀ slot : Slot, Prod.fst slot.kept = slot.name := fun _ => rfl
  refine ⟨h.memory, h.database, ?_, h.lastUsed⟩
  rw [Slots.put, Slots.put, Keyed.map_put_map hkey, Keyed.map_put_map hkey, h.entries, hkept]

theorem delete (h : Twins m d) (name : String) : Twins (m.delete name).2 (d.delete name).2 := by
  have hkey : ∀ slot : Slot, Prod.fst slot.kept = slot.name := fun _ => rfl
  refine ⟨h.memory, h.database, ?_, ?_⟩
  · rw [Slots.delete, Slots.delete, Keyed.map_remove hkey, Keyed.map_remove hkey, h.entries]
  · rw [Slots.delete, Slots.delete, h.lastUsed]

theorem setLastUsed (h : Twins m d) (name : Option String) :
    Twins (m.setLastUsed name) (d.setLastUsed name) :=
  ⟨h.memory, h.database, h.entries, rfl⟩

theorem moved (h : Twins m d) (old cleaned : String) (document : Document) :
    Twins (m.moved old cleaned document) (d.moved old cleaned document) := by
  have hkept : (m.saved cleaned document).kept = (d.saved cleaned document).kept := rfl
  have hput := h.put hkept
  unfold Slots.moved
  rw [h.lastUsed]
  split_ifs
  · exact hput.setLastUsed _
  · exact hput
  · exact (hput.delete old).setLastUsed _
  · exact hput.delete old

end Twins

/-! ### One call -/

theorem Twins.listable (h : Twins m d) : d.Listable := by
  intro hkind
  rw [h.database] at hkind
  cases hkind

theorem alike_settle_error {fault other : Fault} (h : Twins m d) (hkind : fault.kind = other.kind) :
    Alike (m.settle (.error fault)).1 (d.settle (.error other)).1 ∧
      Twins (m.settle (.error fault)).2 (d.settle (.error other)).2 :=
  ⟨hkind, h⟩

theorem alike_settle_ok {m' d' : Slots} (h : Twins m' d') :
    Alike (m.settle (.ok m')).1 (d.settle (.ok d')).1 ∧
      Twins (m.settle (.ok m')).2 (d.settle (.ok d')).2 :=
  ⟨rfl, h⟩

/-- A slot that can be read is renamed alike, unless the call misses. -/
theorem Twins.rename_loaded (h : Twins m d) {old new cleaned : String} {document : Document}
    (hcleaned : cleanName new = .ok cleaned) (hload : m.load old = .ok (some document))
    (hcall : ¬ (Call.rename old new).Misses m) :
    Alike (m.settle (m.rename old new)).1 (d.settle (d.rename old new)).1 ∧
      Twins (m.settle (m.rename old new)).2 (d.settle (d.rename old new)).2 := by
  have hmoved := h.moved old cleaned document
  rw [rename_of_loaded hcleaned hload, rename_of_loaded hcleaned (h.load old ▸ hload)]
  split_ifs with hsame
  · exact alike_settle_ok hmoved
  · rw [isTaken_of_listable h.listable, ← h.contains]
    cases htaken : m.contains cleaned with
    | true =>
        -- Both refuse the name: in memory it is seen to be taken, or not looked for at all.
        by_cases hm : m.Listable
        · rw [isTaken_of_listable hm, htaken]
          exact alike_settle_error h rfl
        · rw [isTaken_of_not_listable hm]
          exact alike_settle_error h rfl
    | false =>
        have hm : m.Listable := by
          by_contra hm
          exact hcall ⟨hm, cleaned, document, hcleaned, hsame, hload, htaken⟩
        rw [isTaken_of_listable hm, htaken]
        exact alike_settle_ok hmoved

theorem Twins.rename (h : Twins m d) {old new : String}
    (hcall : ¬ (Call.rename old new).Misses m) :
    Alike (m.settle (m.rename old new)).1 (d.settle (d.rename old new)).1 ∧
      Twins (m.settle (m.rename old new)).2 (d.settle (d.rename old new)).2 := by
  cases hcleaned : cleanName new with
  | error fault =>
      simp only [Slots.rename, hcleaned]
      exact alike_settle_error h rfl
  | ok cleaned =>
      cases hload : m.load old with
      | error fault =>
          simp only [Slots.rename, hcleaned, hload, ← h.load]
          exact alike_settle_error h rfl
      | ok loaded =>
          cases loaded with
          | none =>
              simp only [Slots.rename, hcleaned, hload, ← h.load]
              exact alike_settle_error h rfl
          | some document => exact h.rename_loaded hcleaned hload hcall

/-- A call that does not miss is answered alike, and leaves twins. -/
theorem Twins.carryOut (h : Twins m d) {call : Call} (hcall : ¬ call.Misses m) :
    Alike (call.carryOut m).1 (call.carryOut d).1 ∧
      Twins (call.carryOut m).2 (call.carryOut d).2 := by
  cases call with
  | save name document =>
      simp only [Call.carryOut, save_eq]
      cases cleanName name with
      | error fault => exact ⟨rfl, h⟩
      | ok cleaned => exact ⟨rfl, h.put rfl⟩
  | load name =>
      simp only [Call.carryOut, h.load]
      exact ⟨.refl _, h⟩
  | contains name =>
      have hm : m.Listable := Classical.not_not.1 hcall
      simp only [Call.carryOut, isTaken_of_listable hm, isTaken_of_listable h.listable, h.contains]
      exact ⟨.refl _, h⟩
  | delete name =>
      refine ⟨?_, h.delete name⟩
      simp only [Call.carryOut, Slots.delete, h.contains]
      exact .refl _
  | rename old new => exact h.rename hcall
  | lastUsed =>
      simp only [Call.carryOut, h.lastUsed]
      exact ⟨.refl _, h⟩
  | setLastUsed name => exact ⟨rfl, h.setLastUsed name⟩

/-- A call that misses is not answered alike. -/
theorem Twins.not_alike (h : Twins m d) {call : Call} (hcall : call.Misses m) :
    ¬ Alike (call.carryOut m).1 (call.carryOut d).1 := by
  cases call with
  | contains name =>
      simp only [Call.carryOut, isTaken_of_not_listable hcall, isTaken_of_listable h.listable]
      exact id
  | rename old new =>
      obtain ⟨hm, cleaned, document, hcleaned, hne, hload, hfree⟩ := hcall
      have hfree' : d.contains cleaned = false := h.contains cleaned ▸ hfree
      have hm' : m.rename old new = .error .tooEarly := by
        rw [rename_of_loaded hcleaned hload, if_neg hne, isTaken_of_not_listable hm]
        rfl
      have hd' : d.rename old new = .ok (d.moved old cleaned document) := by
        rw [rename_of_loaded hcleaned (h.load old ▸ hload), if_neg hne,
          isTaken_of_listable h.listable, hfree']
        rfl
      simp only [Call.carryOut, hm', hd']
      exact id
  | _ => exact hcall.elim

/-! ### All calls of a run -/

theorem after_append (s : Slots) (steps : List Step) (step : Step) :
    s.after (steps ++ [step]) = (step.carryOut (s.after steps)).2 := by
  simp [after]

/-- Whether a call misses does not depend on the time. -/
theorem misses_withNow {call : Call} {now : Timestamp} :
    call.Misses { s with now := now } ↔ call.Misses s := by
  cases call <;> exact Iff.rfl

/-- Stores stay twins as long as no call misses. -/
theorem Twins.after (h : Twins m d) {steps : List Step}
    (hsteps : ∀ before step, before ++ [step] <+: steps → ¬ step.call.Misses (m.after before)) :
    Twins (m.after steps) (d.after steps) := by
  induction steps using List.reverseRecOn with
  | nil => exact h
  | append_singleton steps step ih =>
      have htwins := ih fun before other hbefore =>
        hsteps before other (hbefore.trans (List.prefix_append _ _))
      have hstep := hsteps steps step (List.prefix_refl _)
      rw [after_append, after_append]
      exact ((htwins.withNow step.time).carryOut fun hmiss => hstep (misses_withNow.1 hmiss)).2

/-- If all calls are answered alike, then none misses: twins would answer the first that does
differently. -/
theorem Twins.not_misses (h : Twins m d) {steps : List Step}
    (hsteps : ∀ before step, before ++ [step] <+: steps →
      Alike (step.carryOut (m.after before)).1 (step.carryOut (d.after before)).1) :
    ∀ before step, before ++ [step] <+: steps → ¬ step.call.Misses (m.after before) := by
  induction steps using List.reverseRecOn with
  | nil =>
      intro before step hbefore
      exact absurd hbefore.length_le (by simp)
  | append_singleton steps last ih =>
      have hearlier := ih fun before step hbefore =>
        hsteps before step (hbefore.trans (List.prefix_append _ _))
      intro before step hbefore hmiss
      rcases List.prefix_concat_iff.1 hbefore with heq | hbefore
      · obtain ⟨rfl, rfl⟩ := List.append_singleton_inj.1 heq
        have htwins := (h.after hearlier).withNow step.time
        exact htwins.not_alike (misses_withNow.2 hmiss) (hsteps before step (List.prefix_refl _))
      · exact hearlier before step hbefore hmiss

/-- **A store in memory and a database are alike** over a run from empty stores, in their answers and
in the names and sizes that they hold afterwards, exactly if no call of the run misses. -/
theorem alike_iff (zone : Zone) (now : Timestamp) (steps : List Step) :
    (∀ before step, before ++ [step] <+: steps →
      Alike (step.carryOut ((opened zone .memory now).after before)).1
          (step.carryOut ((opened zone .database now).after before)).1 ∧
        ((opened zone .memory now).after (before ++ [step])).held =
          ((opened zone .database now).after (before ++ [step])).held) ↔
    ∀ before step, before ++ [step] <+: steps →
      ¬ step.call.Misses ((opened zone .memory now).after before) := by
  have hopened := twins_opened zone now
  constructor
  · intro h
    exact hopened.not_misses fun before step hbefore => (h before step hbefore).1
  · intro h before step hbefore
    have hearlier : ∀ first other, first ++ [other] <+: before →
        ¬ other.call.Misses ((opened zone .memory now).after first) := fun first other hfirst =>
      h first other (hfirst.trans ((List.prefix_append _ _).trans hbefore))
    have htwins := (hopened.after hearlier).withNow step.time
    have hstep := htwins.carryOut fun hmiss => h before step hbefore (misses_withNow.1 hmiss)
    refine ⟨hstep.1, ?_⟩
    rw [after_append, after_append]
    exact hstep.2.held

/-- A document that was changed on the first day of the year one, on a clock without an offset. -/
def earlyDocument : Document := { modified := some (Timestamp.midnight ⟨1, 1, 1⟩) }

/-- The document is saved on new year of 2024. -/
def saveEarly : Step := ⟨Timestamp.midnight ⟨2024, 1, 1⟩, .save "early" earlyDocument⟩

/-- On the day after, another name is looked for. -/
def findOther : Step := ⟨Timestamp.midnight ⟨2024, 1, 2⟩, .contains "other"⟩

/-- **A name that cannot be looked for**: with that document, a store in memory fails where a
database answers that there is no such slot. -/
theorem not_alike_early :
    (findOther.carryOut ((opened Timestamp.utc .memory saveEarly.time).after [saveEarly])).1 =
        .error .tooEarly ∧
      (findOther.carryOut ((opened Timestamp.utc .database saveEarly.time).after [saveEarly])).1 =
        .ok (.truth false) ∧
      ¬ Alike (findOther.carryOut ((opened Timestamp.utc .memory saveEarly.time).after [saveEarly])).1
        (findOther.carryOut ((opened Timestamp.utc .database saveEarly.time).after [saveEarly])).1 := by
  have hmemory : (findOther.carryOut
      ((opened Timestamp.utc .memory saveEarly.time).after [saveEarly])).1 = .error .tooEarly := by
    decide
  have hdatabase : (findOther.carryOut
      ((opened Timestamp.utc .database saveEarly.time).after [saveEarly])).1 =
        .ok (.truth false) := by
    decide
  rw [hmemory, hdatabase]
  exact ⟨rfl, rfl, id⟩

end Slots
end BehaviorTree
