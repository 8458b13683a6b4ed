import BehaviorTree.Proofs.Document.IsoOrder
import BehaviorTree.Proofs.Document.Recency
import BehaviorTree.Proofs.Session.Stores

/-! # Listing slots

A listing holds each slot once.  It is meant to have the most recently changed slot first, and both
kinds of store miss this for some documents (`listed_after_iff`).  A database compares written
timestamps, which tell the readings of the clocks before their offsets, so that slots are listed in
the wrong order where an earlier reading is a later time.  A store in memory counts the seconds as
doubles, and leaves slots with equal counts in the order of their first saving. -/

namespace BehaviorTree.Slots

/-! ### Sorting -/

section sorting

variable {α : Type} {a b : α} {l : List α}

theorem pair_sublist_or (ha : a ∈ l) (hb : b ∈ l) (hne : a ≠ b) :
    [a, b].Sublist l ∨ [b, a].Sublist l := by
  induction l with
  | nil => cases ha
  | cons x l ih =>
      rcases List.mem_cons.1 ha with rfl | hal
      · have hbl := (List.mem_cons.1 hb).resolve_left (Ne.symm hne)
        exact Or.inl ((List.singleton_sublist.2 hbl).cons_cons _)
      · rcases List.mem_cons.1 hb with rfl | hbl
        · exact Or.inr ((List.singleton_sublist.2 hal).cons_cons _)
        · exact (ih hal hbl).imp (·.cons x) (·.cons x)

theorem not_pair_sublist (hl : l.Nodup) (h : [a, b].Sublist l) : ¬ [b, a].Sublist l := by
  induction l with
  | nil => cases h
  | cons x l ih =>
      obtain ⟨hx, hl⟩ := List.nodup_cons.1 hl
      intro h'
      cases h with
      | cons _ h =>
          cases h' with
          | cons _ h' => exact ih hl h h'
          | cons_cons _ h' => exact hx (h.subset (by simp))
      | cons_cons _ h =>
          have hb := List.singleton_sublist.1 h
          cases h' with
          | cons _ h' => exact hx (h'.subset (by simp))
          | cons_cons _ h' => exact hx hb

/-- **A list is sorted well** exactly if the order that it is sorted by is right for any two items:
where that order has no preference, the first of the two stays first. -/
theorem pairwise_mergeSort_iff {le : α → α → Bool}
    (htrans : ∀ a b c, le a b = true → le b c = true → le a c = true)
    (htotal : ∀ a b, (le a b || le b a) = true) {R : α → α → Prop} (hl : l.Nodup) :
    (l.mergeSort le).Pairwise R ↔
      l.Pairwise fun a b => (le a b = true → R a b) ∧ (le a b = false → R b a) := by
  have hperm := List.mergeSort_perm l le
  have hsorted : ∀ {a b}, [a, b].Sublist (l.mergeSort le) → le a b = true :=
    List.pairwise_iff_forall_sublist.1 (List.pairwise_mergeSort htrans htotal l)
  have hstays : ∀ {a b}, le a b = true → [a, b].Sublist l → [a, b].Sublist (l.mergeSort le) :=
    fun hle h => List.pair_sublist_mergeSort htrans htotal hle h
  have hne : ∀ {l : List α} {a b}, l.Nodup → [a, b].Sublist l → a ≠ b := fun hl h =>
    List.pairwise_iff_forall_sublist.1 hl h
  rw [List.pairwise_iff_forall_sublist, List.pairwise_iff_forall_sublist]
  constructor
  · intro hR a b hab
    refine ⟨fun hle => hR (hstays hle hab), fun hle => ?_⟩
    have hmem : ∀ x ∈ [a, b], x ∈ l.mergeSort le := fun x hx => hperm.symm.subset (hab.subset hx)
    rcases pair_sublist_or (hmem a (by simp)) (hmem b (by simp)) (hne hl hab) with h | h
    · rw [hsorted h] at hle
      cases hle
    · exact hR h
  · intro hall a b hab
    have hnodup := hperm.nodup_iff.2 hl
    have hmem : ∀ x ∈ [a, b], x ∈ l := fun x hx => hperm.subset (hab.subset hx)
    rcases pair_sublist_or (hmem a (by simp)) (hmem b (by simp)) (hne hnodup hab) with h | h
    · exact (hall h).1 (hsorted hab)
    · refine (hall h).2 (Bool.eq_false_iff.2 fun hle => ?_)
      exact not_pair_sublist hnodup hab (hstays hle h)

theorem pairwise_and_flip_iff {R : α → α → Prop} (hrefl : ∀ a ∈ l, R a a) :
    (l.Pairwise fun a b => R a b ∧ R b a) ↔ ∀ a ∈ l, ∀ b ∈ l, R a b := by
  constructor
  · intro hpairs a ha b hb
    exact (hpairs.imp And.left).forall_of_forall_of_flip hrefl (hpairs.imp And.right) ha hb
  · exact fun hall => List.pairwise_of_forall_mem_list fun a ha b hb =>
      ⟨hall a ha b hb, hall b hb a ha⟩

end sorting

/-! ### The orders of the two kinds of store -/

theorem precedes_total (zone : Zone) (kind : StoreKind) (a b : Slot) :
    (precedes zone kind a b || precedes zone kind b a) = true := by
  cases kind with
  | memory => simp [precedes, le_total]
  | database =>
      simp only [precedes, Bool.or_eq_true, Bool.and_eq_true, decide_eq_true_eq]
      rcases lt_trichotomy (sortText a) (sortText b) with hlt | heq | hgt
      · exact Or.inr (Or.inl hlt)
      · exact (le_total a.name b.name).imp (fun h => Or.inr ⟨heq, h⟩) fun h => Or.inr ⟨heq.symm, h⟩
      · exact Or.inl (Or.inl hgt)

theorem precedes_trans (zone : Zone) (kind : StoreKind) (a b c : Slot)
    (hab : precedes zone kind a b = true) (hbc : precedes zone kind b c = true) :
    precedes zone kind a c = true := by
  cases kind with
  | memory =>
      simp only [precedes, decide_eq_true_eq] at *
      exact hbc.trans hab
  | database =>
      simp only [precedes, Bool.or_eq_true, Bool.and_eq_true, decide_eq_true_eq] at *
      rcases hab with hab | ⟨hab, hname⟩
      · rcases hbc with hbc | ⟨hbc, -⟩
        · exact Or.inl (hbc.trans hab)
        · exact Or.inl (hbc ▸ hab)
      · rcases hbc with hbc | ⟨hbc, hname'⟩
        · exact Or.inl (hab ▸ hbc)
        · exact Or.inr ⟨hab.trans hbc, hname.trans hname'⟩

/-! ### Stores of dated documents -/

/-- A timestamp of a clock with an offset. -/
def Aware (t : Timestamp) : Prop := t.Valid ∧ t.offset.isSome = true

/-- A slot was last changed at a time that a clock with an offset shows. -/
def IsDated (slot : Slot) : Prop := ∃ t, slot.modified = some t ∧ Aware t

/-- A call that saves a document with such a time. -/
def Step.SavesDated (step : Step) : Prop :=
  ∃ name d t, step.call = .save name d ∧ d.modified = some t ∧ Aware t

/-- All slots of a store are dated, and no two have the same name. -/
structure Dated (s : Slots) : Prop where
  dated : s.All IsDated
  names : (s.entries.map Slot.name).Nodup

variable {s : Slots}

theorem Dated.carryOut (h : s.Dated) {step : Step} (hstep : step.SavesDated) :
    (step.carryOut s).2.Dated := by
  obtain ⟨name, d, t, hcall, hmodified, ht⟩ := hstep
  simp only [Step.carryOut, hcall, Call.carryOut, save_eq]
  cases cleanName name with
  | error fault => exact ⟨h.dated, h.names⟩
  | ok cleaned =>
      refine ⟨All.put h.dated ⟨t, ?_, ht⟩, Keyed.nodup_map_put h.names _⟩
      simp only [saved, noted, hmodified]
      cases s.kind <;> rfl

theorem dated_after (zone : Zone) (kind : StoreKind) (now : Timestamp) {steps : List Step}
    (hsteps : ∀ step ∈ steps, step.SavesDated) : ((opened zone kind now).after steps).Dated := by
  induction steps using List.reverseRecOn with
  | nil => exact ⟨nofun, List.nodup_nil⟩
  | append_singleton steps step ih =>
      rw [after_append]
      exact (ih fun other hother => hsteps other (List.mem_append_left _ hother)).carryOut
        (hsteps step List.mem_concat_self)

theorem zone_after (zone : Zone) (kind : StoreKind) (now : Timestamp) {steps : List Step}
    (hsteps : ∀ step ∈ steps, step.SavesDated) :
    ((opened zone kind now).after steps).zone = zone := by
  induction steps using List.reverseRecOn with
  | nil => rfl
  | append_singleton steps step ih =>
      have hzone := ih fun other hother => hsteps other (List.mem_append_left _ hother)
      obtain ⟨name, d, t, hcall, -⟩ := hsteps step List.mem_concat_self
      rw [after_append, Step.carryOut, hcall]
      simp only [Call.carryOut, save_eq]
      cases cleanName name <;> exact hzone

/-! ### The order of a listing -/

/-- The first of two slots was not changed before the second. -/
def NotBefore (zone : Zone) (a b : Slot) : Prop :=
  ∀ t ∈ a.modified, ∀ u ∈ b.modified, u.instant zone ≤ t.instant zone

/-- The order of two timestamps as texts is right: an earlier reading of a clock is not a later
time, and at equal readings an offset ahead of UTC is not before a larger one. -/
def TextsAgree (zone : Zone) (t u : Timestamp) : Prop :=
  (t.wall < u.wall → t.instant zone ≤ u.instant zone) ∧
    (t.wall = u.wall → 0 ≤ t.shift → u.shift ≤ t.shift)
  deriving Decidable

theorem TextsAgree.refl (zone : Zone) (t : Timestamp) : TextsAgree zone t t :=
  ⟨fun _ => le_rfl, fun _ _ => le_rfl⟩

/-- The times at which the slots of a store were changed, in the order of their first saving. -/
def times (s : Slots) : List Timestamp := s.entries.filterMap Slot.modified

/-- What those times have to be for the listing to have the most recently changed slot first.  In a
database the order of texts has to be right for any two; in memory, of two times with equal counts
the one that was saved first must not be the earlier. -/
def SortsRight (s : Slots) : Prop :=
  match s.kind with
  | .database => ∀ t ∈ s.times, ∀ u ∈ s.times, TextsAgree s.zone t u
  | .memory => s.times.Pairwise fun t u =>
      t.recency s.zone = u.recency s.zone → u.instant s.zone ≤ t.instant s.zone

instance (s : Slots) : Decidable s.SortsRight :=
  match h : s.kind with
  | .database => decidable_of_iff (∀ t ∈ s.times, ∀ u ∈ s.times, TextsAgree s.zone t u)
      (by rw [SortsRight, h])
  | .memory => decidable_of_iff (s.times.Pairwise fun t u =>
      t.recency s.zone = u.recency s.zone → u.instant s.zone ≤ t.instant s.zone)
      (by rw [SortsRight, h])

/-- Times of clocks that all have one offset sort right in a database. -/
theorem sortsRight_of_shift_eq (hkind : s.kind = .database)
    (haware : ∀ t ∈ s.times, t.offset.isSome = true)
    (hshift : ∀ t ∈ s.times, ∀ u ∈ s.times, t.shift = u.shift) : s.SortsRight := by
  rw [SortsRight, hkind]
  intro t ht u hu
  have hsame := hshift t ht u hu
  refine ⟨fun hwall => ?_, fun _ _ => hsame.ge⟩
  unfold Timestamp.shift at hsame
  rw [Timestamp.instant_of_aware (haware t ht), Timestamp.instant_of_aware (haware u hu), hsame]
  omega

/-- Times until the year 2242 sort right in memory. -/
theorem sortsRight_of_near (hkind : s.kind = .memory)
    (hnear : ∀ t ∈ s.times, (t.instant s.zone).natAbs < 2 ^ 33 * 1000000) : s.SortsRight := by
  rw [SortsRight, hkind]
  refine List.pairwise_of_forall_mem_list fun t ht u hu hcount => ?_
  exact (Timestamp.instant_eq_of_recency_eq (hnear t ht) (hnear u hu) hcount).ge

theorem database_pair_iff {zone : Zone} {a b : Slot} {t u : Timestamp} (hat : a.modified = some t)
    (hbu : b.modified = some u) (ht : Aware t) (hu : Aware u) :
    ((precedes zone .database a b = true → NotBefore zone a b) ∧
      (precedes zone .database a b = false → NotBefore zone b a)) ↔
      TextsAgree zone t u ∧ TextsAgree zone u t := by
  rw [TextsAgree, TextsAgree, ← Timestamp.instant_le_of_iso_lt_iff ht.1 hu.1 ht.2 hu.2,
    ← Timestamp.instant_le_of_iso_lt_iff hu.1 ht.1 hu.2 ht.2]
  simp only [precedes, sortText, NotBefore, hat, hbu, Option.map_some, Option.getD_some,
    Option.mem_some, forall_eq', Bool.or_eq_true, Bool.and_eq_true, decide_eq_true_eq,
    Bool.or_eq_false_iff, Bool.and_eq_false_imp, decide_eq_false_iff_not]
  rcases lt_trichotomy t.iso u.iso with hlt | heq | hgt
  · simp [hlt, hlt.ne, lt_asymm hlt]
  · obtain rfl := Timestamp.eq_of_iso_eq ht.1 hu.1 ht.2 hu.2 heq
    simp
  · simp [hgt, hgt.ne', lt_asymm hgt]

theorem memory_pair_iff {zone : Zone} {a b : Slot} {t u : Timestamp} (hat : a.modified = some t)
    (hbu : b.modified = some u) (ht : Aware t) (hu : Aware u) :
    ((precedes zone .memory a b = true → NotBefore zone a b) ∧
      (precedes zone .memory a b = false → NotBefore zone b a)) ↔
      (t.recency zone = u.recency zone → u.instant zone ≤ t.instant zone) := by
  have hmono : t.instant zone ≤ u.instant zone → _ :=
    Timestamp.recency_mono ht.1 hu.1 ht.2 hu.2
  have hmono' : u.instant zone ≤ t.instant zone → _ :=
    Timestamp.recency_mono hu.1 ht.1 hu.2 ht.2
  simp only [precedes, NotBefore, hat, hbu, Option.map_some, Option.getD_some, Option.mem_some,
    forall_eq', decide_eq_true_eq, decide_eq_false_iff_not]
  omega

theorem Dated.pairwise_times_iff (h : s.Dated) {P : Slot → Slot → Prop}
    {R : Timestamp → Timestamp → Prop}
    (hpair : ∀ {a b : Slot} {t u : Timestamp}, a.modified = some t → b.modified = some u →
      Aware t → Aware u → (P a b ↔ R t u)) : s.entries.Pairwise P ↔ s.times.Pairwise R := by
  rw [times, List.pairwise_filterMap]
  refine List.Pairwise.iff_of_mem fun {a b} ha hb => ?_
  obtain ⟨t, hat, ht⟩ := h.dated a ha
  obtain ⟨u, hbu, hu⟩ := h.dated b hb
  rw [hpair hat hbu ht hu, hat, hbu]
  simp

/-- The times are as they have to be exactly if the order of the listing is right for any two. -/
theorem Dated.pairwise_iff (h : s.Dated) :
    (s.entries.Pairwise fun a b => (precedes s.zone s.kind a b = true → NotBefore s.zone a b) ∧
      (precedes s.zone s.kind a b = false → NotBefore s.zone b a)) ↔ s.SortsRight := by
  unfold SortsRight
  cases s.kind with
  | memory => exact h.pairwise_times_iff memory_pair_iff
  | database =>
      exact (h.pairwise_times_iff database_pair_iff).trans
        (pairwise_and_flip_iff fun t _ => TextsAgree.refl s.zone t)

/-- A store of dated documents can be listed. -/
theorem Dated.listable (h : s.Dated) : s.Listable := by
  intro _
  rw [List.all_eq_true]
  intro slot hslot
  obtain ⟨t, hmodified, -, ht⟩ := h.dated slot hslot
  simp [hasCount, hmodified, Timestamp.hasCount, ht]

/-- The listing of a store of dated documents. -/
theorem Dated.exists_listed (h : s.Dated) :
    ∃ slots, s.listed = .ok slots ∧ slots.Perm s.entries ∧ (slots.map Slot.name).Nodup ∧
      (slots.Pairwise (NotBefore s.zone) ↔ s.SortsRight) := by
  have hcounts : ¬ (s.kind = .memory ∧ (!s.entries.all (hasCount s.zone)) = true) := by
    rintro ⟨hkind, hcount⟩
    rw [h.listable hkind] at hcount
    cases hcount
  have hperm := List.mergeSort_perm s.entries (precedes s.zone s.kind)
  refine ⟨_, if_neg hcounts, hperm, (hperm.map _).nodup_iff.2 h.names, ?_⟩
  rw [← h.pairwise_iff]
  exact pairwise_mergeSort_iff (precedes_trans s.zone s.kind) (precedes_total s.zone s.kind)
    h.names.of_map

/-- So many microseconds into a year on a clock with an offset. -/
def yearTime (year microseconds offset : ℤ) : Timestamp :=
  { (Timestamp.midnight ⟨year, 1, 1⟩).later microseconds with offset := some offset }

theorem aware_yearTime {year microseconds offset : ℤ} (hfirst : 1 ≤ year) (hlast : year < 10000)
    (hstart : 0 ≤ microseconds) (hend : microseconds < Timestamp.day)
    (hoffset : offset.natAbs < 1440) : Aware (yearTime year microseconds offset) := by
  have hwall : (yearTime year microseconds offset).wall =
      Timestamp.yearStart year * Timestamp.day + microseconds := rfl
  have hge := Timestamp.yearStart_mono hfirst
  have hlt : Timestamp.yearStart year + 1 ≤ Timestamp.yearStart 10000 := by
    rw [Timestamp.yearStart_eq, Timestamp.yearStart_eq]
    unfold Timestamp.daysBefore
    omega
  rw [Timestamp.day_eq] at hwall hend
  refine ⟨⟨?_, ?_, fun minutes hminutes => ?_⟩, rfl⟩
  · rw [hwall, Timestamp.day_eq]
    omega
  · rw [hwall, Timestamp.day_eq]
    omega
  · obtain rfl := Option.some.inj hminutes
    exact hoffset

/-- At a time, a document is saved that was changed then. -/
def saveAt (name : String) (t : Timestamp) : Step := ⟨t, .save name { modified := some t }⟩

theorem savesDated_saveAt {t u : Timestamp} (ht : Aware t) (hu : Aware u) (name other : String) :
    ∀ step ∈ [saveAt name t, saveAt other u], step.SavesDated := by
  intro step hstep
  simp only [List.mem_cons, List.not_mem_nil, or_false] at hstep
  rcases hstep with rfl | rfl
  · exact ⟨name, _, t, rfl, rfl, ht⟩
  · exact ⟨other, _, u, rfl, rfl, hu⟩

/-- **A listing after any saves of dated documents** has each slot once, and the most recently
changed one first exactly if the times are as they have to be. -/
theorem listed_after_iff (zone : Zone) (kind : StoreKind) (now : Timestamp) (steps : List Step)
    (hsaves : ∀ step ∈ steps, step.SavesDated) :
    ∃ slots, ((opened zone kind now).after steps).listed = .ok slots ∧
      slots.Perm ((opened zone kind now).after steps).entries ∧ (slots.map Slot.name).Nodup ∧
      (slots.Pairwise (NotBefore zone) ↔ ((opened zone kind now).after steps).SortsRight) := by
  have hzone : ((opened zone kind now).after steps).zone = zone := zone_after zone kind now hsaves
  have hlisted := (dated_after zone kind now hsaves).exists_listed
  rwa [hzone] at hlisted

/-- New year of 2024 in UTC. -/
def newYear : Timestamp := yearTime 2024 0 0

/-- Noon of that day on a clock one hour ahead of UTC. -/
def noonAhead : Timestamp := yearTime 2024 (720 * 60 * Timestamp.second) 60

/-- One document is changed at new year, and another later on that day. -/
def noonSaves : List Step := [saveAt "a" newYear, saveAt "b" noonAhead]

theorem aware_newYear : Aware newYear :=
  aware_yearTime (by decide) (by decide) (by decide) (by decide) (by decide)

theorem listed_after_noon :
    (∀ step ∈ noonSaves, step.SavesDated) ∧
      ((opened Timestamp.utc .database newYear).after noonSaves).times = [newYear, noonAhead] ∧
      ∃ slots, ((opened Timestamp.utc .database newYear).after noonSaves).listed = .ok slots ∧
        slots.Pairwise (NotBefore Timestamp.utc) := by
  have haware : Aware noonAhead :=
    aware_yearTime (by decide) (by decide) (by decide) (by decide) (by decide)
  have hsaves : ∀ step ∈ noonSaves, step.SavesDated :=
    savesDated_saveAt aware_newYear haware "a" "b"
  obtain ⟨slots, hslots, -, -, hsorts⟩ :=
    listed_after_iff Timestamp.utc .database newYear noonSaves hsaves
  exact ⟨hsaves, by decide, slots, hslots, hsorts.2 (by decide)⟩

/-- Half an hour past midnight of that day on such a clock: half an hour before new year in UTC. -/
def midnightAhead : Timestamp := yearTime 2024 (30 * 60 * Timestamp.second) 60

/-- The other document is changed half an hour earlier. -/
def aheadSaves : List Step := [saveAt "a" newYear, saveAt "b" midnightAhead]

/-- Two documents are changed in two microseconds of the year 2300. -/
def farSaves : List Step := [saveAt "a" (yearTime 2300 1 0), saveAt "b" (yearTime 2300 2 0)]

/-- **Listings in the wrong order**: in a database, the document that was changed half an hour
earlier comes first, and so does in memory that of an earlier microsecond. -/
theorem listed_not_pairwise :
    (∀ step ∈ aheadSaves ++ farSaves, step.SavesDated) ∧
      (∃ slots, ((opened Timestamp.utc .database newYear).after aheadSaves).listed = .ok slots ∧
        ¬ slots.Pairwise (NotBefore Timestamp.utc)) ∧
      ∃ slots, ((opened Timestamp.utc .memory newYear).after farSaves).listed = .ok slots ∧
        ¬ slots.Pairwise (NotBefore Timestamp.utc) := by
  have hahead : ∀ step ∈ aheadSaves, step.SavesDated :=
    savesDated_saveAt aware_newYear
      (aware_yearTime (by decide) (by decide) (by decide) (by decide) (by decide)) "a" "b"
  have hfar : ∀ step ∈ farSaves, step.SavesDated :=
    savesDated_saveAt
      (aware_yearTime (by decide) (by decide) (by decide) (by decide) (by decide))
      (aware_yearTime (by decide) (by decide) (by decide) (by decide) (by decide)) "a" "b"
  obtain ⟨slots, hslots, -, -, hsorts⟩ :=
    (dated_after Timestamp.utc .database newYear hahead).exists_listed
  obtain ⟨far, hfars, -, -, hfarSorts⟩ :=
    (dated_after Timestamp.utc .memory newYear hfar).exists_listed
  exact ⟨List.forall_mem_append.2 ⟨hahead, hfar⟩,
    ⟨slots, hslots, mt hsorts.1 (by decide)⟩,
    far, hfars, mt hfarSorts.1 (by decide)⟩

end BehaviorTree.Slots
