import BehaviorTree.Proofs.Session.Visited

/-! # The start of a session

A session that starts on a store opens a slot or makes one.  Opening leaves all slots as they are
(`keeps_loadSlot`).  Whether there is a slot to open is asked for the name as it is given, and a slot
is made under the name without the blanks at its ends; so one slot can be written over by the empty
document, the one that the cleaned name has (`Collides`).  All other slots keep their documents
(`start_keeps_iff`). -/

namespace BehaviorTree.Session

variable {Time : Type}

/-! ### Slots that are left alone -/

/-- The session has a store with the slots of another. -/
def Keeps (slots : Slots) (s : Session Time) : Prop :=
  ∃ slots', s.slots = some slots' ∧ slots'.entries = slots.entries

theorem Quiet.keeps {α : Type} {action : Action Time α} (h : Quiet action) (slots : Slots) :
    Maintains (Keeps slots) action :=
  h.maintains fun _ _ hslots _ hs => by rwa [Keeps, hslots]

theorem keeps_loadSlot (slots : Slots) (m : Moment Time) (name : String) :
    Maintains (Keeps slots) (loadSlot m name) := by
  refine maintains_requireSlots_bind fun s slots' hs hslots => ?_
  have hentries : slots'.entries = slots.entries := by
    obtain ⟨other, hother, hentries⟩ := hs
    obtain rfl := Option.some.inj (hslots.symm.trans hother)
    exact hentries
  refine maintains_lift_bind hs fun loaded _ => ?_
  cases loaded with
  | none => exact hs
  | some d =>
      have hrest : Maintains (Keeps slots) (do
          load d
          let created := d.created.getD m.now
          modify fun s => { s with
            slotName := some name
            created := created
            modified := d.modified.getD created }
          putSlots (slots'.setLastUsed (some name)) : Action Time Unit) :=
        ((quiet_load d).keeps slots).bind fun _ => Maintains.bind (fun _ ht => ht) fun _ _ _ =>
          ⟨_, rfl, hentries⟩
      exact hrest s hs

/-! ### Entering a slot -/

variable {s : Session Time} {slots : Slots} {m : Moment Time} {name cleaned : String}

/-- A name whose slot cannot be looked for, or cannot be made, is refused. -/
theorem keeps_enterSlot (hslots : s.slots = some slots)
    (h : ¬ (slots.isTaken name = .ok false ∧ ∃ cleaned, Slots.cleanName name = .ok cleaned)) :
    Keeps slots (s.run (enterSlot m name)).2 := by
  have hs : Keeps slots s := ⟨slots, hslots, rfl⟩
  have hrequire : s.run requireSlots = (.ok slots, s) := yields_requireSlots_iff.2 ⟨hslots, rfl⟩
  rw [enterSlot, run_bind, hrequire]
  refine maintains_lift_bind hs fun taken htaken => ?_
  cases taken with
  | true => exact keeps_loadSlot slots m name s hs
  | false =>
      refine maintains_lift_bind hs fun cleaned hcleaned => ?_
      exact absurd ⟨htaken, cleaned, hcleaned⟩ h

/-- A slot that is made gets the document of the session. -/
theorem slots_enterSlot (hslots : s.slots = some slots) (htaken : slots.isTaken name = .ok false)
    (hcleaned : Slots.cleanName name = .ok cleaned) :
    (s.run (enterSlot m name)).2.slots =
      some ((slots.setLastUsed (some cleaned)).put (slots.saved cleaned s.document)) := by
  have hclean := Slots.cleanName_of_cleanName hcleaned
  have hyields : s.Yields (enterSlot m name) () { s with
      slotName := some cleaned
      slots := some ((slots.setLastUsed (some cleaned)).put (slots.saved cleaned s.document)) } := by
    refine yields_bind_iff.2 ⟨slots, s, yields_requireSlots_iff.2 ⟨hslots, rfl⟩, ?_⟩
    refine yields_bind_iff.2 ⟨false, s, yields_lift_iff.2 ⟨htaken, rfl⟩, ?_⟩
    refine yields_bind_iff.2 ⟨cleaned, s, yields_lift_iff.2 ⟨hcleaned, rfl⟩, ?_⟩
    refine yields_bind_iff.2 ⟨(), _, yields_modify_iff.2 rfl, ?_⟩
    refine yields_bind_iff.2 ⟨(), _, yields_putSlots_iff.2 rfl, ?_⟩
    refine (yields_persist_iff fun other hother => ?_).2 rfl
    obtain rfl := Option.some.inj hother
    exact ⟨rfl, hclean⟩
  rw [hyields]

/-! ### The start -/

variable {slotName : Option String}

/-- What a session does after it has entered a slot leaves the store alone. -/
theorem slots_enter : (s.run (enter m slotName)).2.slots =
    match initialSlot s.slots slotName with
    | some name => (s.run (enterSlot m name)).2.slots
    | none => s.slots := by
  have hrest : Quiet (revalidate >>= fun _ => record "Initial" : Action Time Unit) :=
    quiet_revalidate.bind fun _ => quiet_record _
  rw [enter, run_bind, show s.run get = (.ok s, s) from rfl]
  dsimp only
  cases initialSlot s.slots slotName with
  | none => exact (hrest s.slots s.slotName s ⟨rfl, rfl⟩).1
  | some name =>
      dsimp only
      rw [run_bind]
      cases hrun : s.run (enterSlot m name) with
      | mk answer s' =>
          cases answer with
          | error fault => rfl
          | ok u => exact (hrest s'.slots s'.slotName s' ⟨rfl, rfl⟩).1

/-- The name that a session starts with has no slot, and the name without its blanks has one. -/
def Collides (slots : Slots) (slotName : Option String) (slot : Slot) : Prop :=
  ∃ name cleaned, initialSlot (some slots) slotName = some name ∧ slots.Listable ∧
    slots.find? name = none ∧ Slots.cleanName name = .ok cleaned ∧
    slots.find? cleaned = some slot

theorem collides_iff (hname : initialSlot (some slots) slotName = some name) {slot : Slot} :
    Collides slots slotName slot ↔ slots.isTaken name = .ok false ∧
      ∃ cleaned, Slots.cleanName name = .ok cleaned ∧ slots.find? cleaned = some slot := by
  have hfree : slots.find? name = none ↔ false = slots.contains name := by
    rw [Slots.contains, eq_comm (a := false), Option.isSome_eq_false_iff, Option.isNone_iff_eq_none]
  rw [Slots.isTaken_eq_ok_iff, ← hfree]
  constructor
  · rintro ⟨other, cleaned, hother, hlistable, hnone, hcleaned, hslot⟩
    obtain rfl := Option.some.inj (hname.symm.trans hother)
    exact ⟨⟨hlistable, hnone⟩, cleaned, hcleaned, hslot⟩
  · rintro ⟨⟨hlistable, hnone⟩, cleaned, hcleaned, hslot⟩
    exact ⟨name, cleaned, hname, hlistable, hnone, hcleaned, hslot⟩

/-- A store has all documents of another. -/
def KeepsDocuments (slots slots' : Slots) : Prop :=
  ∀ name slot, slots.find? name = some slot →
    ∃ slot', slots'.find? name = some slot' ∧ slot'.payload = slot.payload

theorem keepsDocuments_of_entries {slots' : Slots} (h : slots'.entries = slots.entries) :
    KeepsDocuments slots slots' := by
  intro name slot hslot
  refine ⟨slot, ?_, rfl⟩
  rwa [Slots.find?, h]

/-- A slot that is put keeps the documents of all others. -/
theorem keepsDocuments_put_iff {slots' : Slots} (hentries : slots'.entries = slots.entries)
    (slot : Slot) : KeepsDocuments slots (slots'.put slot) ↔
      ∀ old, slots.find? slot.name = some old → old.payload = slot.payload := by
  have hfind : ∀ name, slots'.find? name = slots.find? name := fun name => by
    rw [Slots.find?, Slots.find?, hentries]
  constructor
  · intro h old hold
    obtain ⟨new, hnew, hsame⟩ := h slot.name old hold
    rw [Slots.find?_put_self] at hnew
    rw [← hsame, ← Option.some.inj hnew]
  · intro h name old hold
    by_cases hname : slot.name = name
    · subst hname
      exact ⟨slot, Slots.find?_put_self slot, (h old hold).symm⟩
    · exact ⟨old, by rw [Slots.find?_put_of_ne hname, hfind, hold], rfl⟩

/-- **When a session starts without a loss**: a new session, whether its start succeeds or fails,
leaves all documents of the store exactly if no slot has the name that the given one is cleaned to,
where none has the given name itself, or if that slot holds the empty document of that moment. -/
theorem start_keeps_iff {settings : Settings} {delay : Time}
    (hblank : blank m settings delay (some slots) = .ok s) :
    (∃ slots', (s.run (enter m slotName)).2.slots = some slots' ∧ KeepsDocuments slots slots') ↔
      ∀ slot, Collides slots slotName slot →
        slot.payload = (Document.ofGraph .empty m.now m.now).render none := by
  obtain ⟨history, -, h⟩ := bind_eq_ok_iff.1 hblank
  have hslots : s.slots = some slots := congrArg Session.slots (Except.ok.inj h).symm
  have hdocument : s.document = .ofGraph .empty m.now m.now :=
    congrArg Session.document (Except.ok.inj h).symm
  rw [slots_enter, hslots]
  cases hname : initialSlot (some slots) slotName with
  | none =>
      refine iff_of_true ⟨slots, rfl, keepsDocuments_of_entries rfl⟩ fun slot hslot => ?_
      obtain ⟨name, _, hsome, -⟩ := hslot
      rw [hname] at hsome
      cases hsome
  | some name =>
      simp only [collides_iff hname]
      by_cases hmade : slots.isTaken name = .ok false ∧
          ∃ cleaned, Slots.cleanName name = .ok cleaned
      · obtain ⟨htaken, cleaned, hcleaned⟩ := hmade
        have hentries : (slots.setLastUsed (some cleaned)).entries = slots.entries := rfl
        have hput := keepsDocuments_put_iff hentries (slots.saved cleaned s.document)
        rw [slots_enterSlot hslots htaken hcleaned, ← hdocument]
        constructor
        · rintro ⟨slots', hsome, hkeeps⟩ slot ⟨-, other, hother, hslot⟩
          obtain rfl := Option.some.inj hsome
          obtain rfl := Except.ok.inj (hcleaned.symm.trans hother)
          exact hput.1 hkeeps slot hslot
        · intro h
          exact ⟨_, rfl, hput.2 fun old hold => h old ⟨htaken, cleaned, hcleaned, hold⟩⟩
      · obtain ⟨slots', hsome, hentries⟩ := keeps_enterSlot (m := m) hslots hmade
        refine iff_of_true ⟨slots', hsome, keepsDocuments_of_entries hentries⟩ ?_
        rintro slot ⟨htaken, cleaned, hcleaned, -⟩
        exact absurd ⟨htaken, cleaned, hcleaned⟩ hmade

/-! ### A store with one slot -/

/-- A store whose slot "a" holds a document with one action. -/
def occupied : Slots := emptyStore.put (emptyStore.saved "a" withAction.document)

/-- A session on that store, before it has been entered. -/
def beside : Session ℕ := { unentered with slots := some occupied }

/-- The name as it is. -/
theorem start_keeps_iff_occupied :
    (∃ slots', (beside.run (enter epoch (some "a"))).2.slots = some slots' ∧
      KeepsDocuments occupied slots') ↔
    ∀ slot, Collides occupied (some "a") slot →
      slot.payload = (Document.ofGraph .empty epoch.now epoch.now).render none := by
  have hblank : blank epoch briefSettings 1 (some occupied) = .ok beside := rfl
  exact start_keeps_iff hblank

/-- **A blank in front of the name** is enough for a new session to write over the document. -/
theorem document_lost :
    blank epoch briefSettings 1 (some occupied) = .ok beside ∧
      (∃ slot, occupied.find? "a" = some slot ∧ slot.nodeCount = 1) ∧
      ∃ slots' slot, (beside.run (enter epoch (some " a"))).2.slots = some slots' ∧
        slots'.find? "a" = some slot ∧ slot.nodeCount = 0 ∧ ¬ KeepsDocuments occupied slots' := by
  have htaken : occupied.isTaken " a" = .ok false := by decide +kernel
  have hcleaned : Slots.cleanName " a" = .ok "a" := by decide
  have hslot : occupied.find? "a" = some (emptyStore.saved "a" withAction.document) :=
    Slots.find?_put_self (emptyStore.saved "a" withAction.document)
  have hslots := slots_enterSlot (s := beside) (m := epoch) rfl htaken hcleaned
  refine ⟨rfl, ⟨_, hslot, by decide +kernel⟩, _, occupied.saved "a" beside.document,
    slots_enter.trans hslots, ?_, rfl, fun h => ?_⟩
  · exact Slots.find?_put_self (occupied.saved "a" beside.document)
  · have hsame := (keepsDocuments_put_iff rfl (occupied.saved "a" beside.document)).1 h _ hslot
    have hother : (emptyStore.saved "a" withAction.document).payload ≠
        (occupied.saved "a" beside.document).payload := by decide +kernel
    exact hother hsame

end BehaviorTree.Session
