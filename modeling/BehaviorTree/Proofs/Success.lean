import Mathlib.Data.List.Forall2

/-! # Calls that succeed

A sequence of calls succeeds exactly when each of them does, on what the ones before answer.  The
fault of a sequence is the fault of one of its calls. -/

namespace BehaviorTree

variable {ε ε' α β γ : Type}

theorem bind_eq_ok_iff {x : Except ε α} {f : α → Except ε β} {b : β} :
    x >>= f = .ok b ↔ ∃ a, x = .ok a ∧ f a = .ok b := by
  cases x with
  | error e => simp [bind, Except.bind]
  | ok a => simp [bind, Except.bind]

/-- A call that only passes on what another answers succeeds exactly when the other does. -/
theorem exists_bind_pure_iff {x : Except ε α} {f : α → β} :
    (∃ b, (x >>= fun a => pure (f a)) = .ok b) ↔ ∃ a, x = .ok a := by
  simp only [bind_eq_ok_iff]
  exact ⟨fun ⟨_, a, ha, _⟩ => ⟨a, ha⟩, fun ⟨a, ha⟩ => ⟨f a, a, ha, rfl⟩⟩

/-- A call whose answer is tested succeeds exactly if it does and its answer passes. -/
theorem bind_guard_eq_ok_iff {x : Except ε α} {P : α → Prop} [DecidablePred P] {fault : α → ε}
    {a : α} :
    (x >>= fun a => if P a then .ok a else .error (fault a)) = .ok a ↔ x = .ok a ∧ P a := by
  rw [bind_eq_ok_iff]
  constructor
  · rintro ⟨found, hfound, h⟩
    split_ifs at h with hpasses
    obtain rfl := Except.ok.inj h
    exact ⟨hfound, hpasses⟩
  · rintro ⟨ha, hpasses⟩
    exact ⟨a, ha, if_pos hpasses⟩

theorem map_eq_ok_iff {x : Except ε α} {f : α → β} {b : β} :
    f <$> x = .ok b ↔ ∃ a, x = .ok a ∧ f a = b := by
  cases x with
  | error e => simp [Functor.map, Except.map]
  | ok a => simp [Functor.map, Except.map]

theorem toOption_eq_some_iff {x : Except ε α} {a : α} : x.toOption = some a ↔ x = .ok a := by
  cases x <;> simp [Except.toOption]

theorem mapError_eq_ok_iff {x : Except ε α} {f : ε → ε'} {a : α} :
    x.mapError f = .ok a ↔ x = .ok a := by
  cases x with
  | error e => simp [Except.mapError]
  | ok b => simp [Except.mapError]

/-- A call on each item of a list succeeds with answers that correspond to the items. -/
theorem mapM_eq_ok_iff {f : α → Except ε β} {items : List α} {answers : List β} :
    items.mapM f = .ok answers ↔ List.Forall₂ (fun a b => f a = .ok b) items answers := by
  induction items generalizing answers with
  | nil =>
      rw [List.mapM_nil, List.forall₂_nil_left_iff]
      exact ⟨fun h => (Except.ok.inj h).symm, fun h => by rw [h]; rfl⟩
  | cons a rest ih =>
      rw [List.mapM_cons, bind_eq_ok_iff, List.forall₂_cons_left_iff]
      constructor
      · rintro ⟨b, hb, h⟩
        obtain ⟨bs, hbs, h⟩ := bind_eq_ok_iff.1 h
        exact ⟨b, bs, hb, ih.1 hbs, (Except.ok.inj h).symm⟩
      · rintro ⟨b, bs, hb, hbs, rfl⟩
        exact ⟨b, hb, bind_eq_ok_iff.2 ⟨bs, ih.2 hbs, rfl⟩⟩

/-- A call on each item of a list, with answers that are known one by one. -/
theorem mapM_map_eq_ok {f : β → Except ε γ} {g : α → β} {answer : α → γ} {items : List α}
    (h : ∀ a ∈ items, f (g a) = .ok (answer a)) :
    (items.map g).mapM f = .ok (items.map answer) := by
  rw [mapM_eq_ok_iff, List.forall₂_map_left_iff, List.forall₂_map_right_iff]
  exact List.forall₂_same.2 h

/-- Calls that agree on each item of a list agree on the list. -/
theorem mapM_congr {f g : α → Except ε β} {items : List α} (h : ∀ a ∈ items, f a = g a) :
    items.mapM f = items.mapM g := by
  induction items with
  | nil => rfl
  | cons a rest ih =>
      rw [List.mapM_cons, List.mapM_cons, h a List.mem_cons_self,
        ih fun b hb => h b (List.mem_cons_of_mem _ hb)]

/-- What is made of each answer is made of the answers. -/
theorem mapM_fmap {f : α → Except ε β} {g : β → γ} {items : List α} :
    items.mapM (fun a => g <$> f a) = List.map g <$> items.mapM f := by
  induction items with
  | nil => rfl
  | cons a rest ih =>
      rw [List.mapM_cons, List.mapM_cons, ih]
      cases f a with
      | error fault => rfl
      | ok b => cases rest.mapM f <;> rfl

/-- Looking something up for each item of a list finds it for all of them. -/
theorem mapM_eq_some_iff {f : α → Option β} {items : List α} {answers : List β} :
    items.mapM f = some answers ↔ List.Forall₂ (fun a b => f a = some b) items answers := by
  induction items generalizing answers with
  | nil => simp [eq_comm]
  | cons a rest ih =>
      rw [List.mapM_cons, List.forall₂_cons_left_iff]
      simp only [Option.bind_eq_bind, Option.bind_eq_some_iff, ih]
      exact ⟨fun ⟨b, hb, bs, hbs, h⟩ => ⟨b, bs, hb, hbs, (Option.some.inj h).symm⟩,
        fun ⟨b, bs, hb, hbs, h⟩ => ⟨b, hb, bs, hbs, congrArg some h.symm⟩⟩

/-- What is made of the answers is made of each answer. -/
theorem mapM_option_map {f : β → γ} {g : α → Option β} {items : List α} :
    items.mapM (fun a => (g a).map f) = (items.mapM g).map (List.map f) := by
  induction items with
  | nil => rfl
  | cons a rest ih =>
      rw [List.mapM_cons, List.mapM_cons, ih]
      cases g a with
      | none => rfl
      | some b => cases rest.mapM g <;> rfl

theorem exists_mapM_iff {f : α → Except ε β} {items : List α} :
    (∃ answers, items.mapM f = .ok answers) ↔ ∀ a ∈ items, ∃ b, f a = .ok b := by
  simp only [mapM_eq_ok_iff]
  induction items with
  | nil => simp
  | cons a rest ih =>
      simp only [List.forall₂_cons_left_iff, List.forall_mem_cons, ← ih]
      exact ⟨fun ⟨_, b, bs, hb, hbs, _⟩ => ⟨⟨b, hb⟩, bs, hbs⟩,
        fun ⟨⟨b, hb⟩, bs, hbs⟩ => ⟨b :: bs, b, bs, hb, hbs, rfl⟩⟩

/-- Calls on a list, where some items are only checked, answer what the calls on the others do. -/
theorem exists_mapM_checked_iff {p : α → Prop} [DecidablePred p] {check : α → Except ε Unit}
    {f : α → Except ε β} {items : List α} {found : List β} :
    (∃ answers, items.mapM (fun a => if p a then check a >>= fun _ => .ok none else some <$> f a) =
        .ok answers ∧ answers.filterMap id = found) ↔
      (∀ a ∈ items, p a → check a = .ok ()) ∧ (items.filter fun a => ¬ p a).mapM f = .ok found := by
  induction items generalizing found with
  | nil =>
      constructor
      · rintro ⟨answers, h, rfl⟩
        obtain rfl : [] = answers := Except.ok.inj h
        exact ⟨nofun, rfl⟩
      · rintro ⟨-, h⟩
        exact ⟨[], rfl, Except.ok.inj h⟩
  | cons a rest ih =>
      rw [List.forall_mem_cons]
      by_cases ha : p a
      · rw [List.filter_cons_of_neg (by simpa using ha)]
        constructor
        · rintro ⟨answers, h, rfl⟩
          obtain ⟨b, hb, h⟩ := bind_eq_ok_iff.1 (List.mapM_cons.symm.trans h)
          obtain ⟨bs, hbs, h⟩ := bind_eq_ok_iff.1 h
          obtain rfl := Except.ok.inj h
          rw [if_pos ha] at hb
          obtain ⟨_, hcheck, hb⟩ := bind_eq_ok_iff.1 hb
          obtain rfl := Except.ok.inj hb
          obtain ⟨hchecks, hfound⟩ := ih.1 ⟨bs, hbs, rfl⟩
          exact ⟨⟨fun _ => hcheck, hchecks⟩, hfound⟩
        · rintro ⟨⟨hcheck, hchecks⟩, hfound⟩
          obtain ⟨answers, hrest, rfl⟩ := ih.2 ⟨hchecks, hfound⟩
          refine ⟨none :: answers, ?_, rfl⟩
          rw [List.mapM_cons, if_pos ha, hcheck ha, hrest]
          rfl
      · rw [List.filter_cons_of_pos (by simpa using ha)]
        constructor
        · rintro ⟨answers, h, rfl⟩
          obtain ⟨b, hb, h⟩ := bind_eq_ok_iff.1 (List.mapM_cons.symm.trans h)
          obtain ⟨bs, hbs, h⟩ := bind_eq_ok_iff.1 h
          obtain rfl := Except.ok.inj h
          rw [if_neg ha] at hb
          obtain ⟨found, hfound, rfl⟩ := map_eq_ok_iff.1 hb
          obtain ⟨hchecks, hrest⟩ := ih.1 ⟨bs, hbs, rfl⟩
          refine ⟨⟨fun h => absurd h ha, hchecks⟩, ?_⟩
          rw [List.mapM_cons, hfound, hrest]
          rfl
        · rintro ⟨⟨-, hchecks⟩, h⟩
          obtain ⟨b, hb, h⟩ := bind_eq_ok_iff.1 (List.mapM_cons.symm.trans h)
          obtain ⟨bs, hbs, h⟩ := bind_eq_ok_iff.1 h
          obtain rfl := Except.ok.inj h
          obtain ⟨answers, hrest, rfl⟩ := ih.2 ⟨hchecks, hbs⟩
          refine ⟨some b :: answers, ?_, rfl⟩
          rw [List.mapM_cons, if_neg ha, hb, hrest]
          rfl

/-- Where each call that succeeds has a counterpart that does, so has a sequence of them. -/
theorem exists_mapM_of_forall {f : α → Except ε β} {g : α → Except ε' γ} {R : β → γ → Prop}
    {items : List α} {answers : List β} (h : items.mapM f = .ok answers)
    (hstep : ∀ a ∈ items, ∀ b, f a = .ok b → ∃ c, g a = .ok c ∧ R b c) :
    ∃ others, items.mapM g = .ok others ∧ List.Forall₂ R answers others := by
  have hall := mapM_eq_ok_iff.1 h
  clear h
  induction hall with
  | nil => exact ⟨[], rfl, .nil⟩
  | @cons a b items answers hfirst hrest ih =>
      obtain ⟨c, hc, hR⟩ := hstep a List.mem_cons_self b hfirst
      obtain ⟨others, hothers, hall⟩ := ih fun a ha => hstep a (List.mem_cons_of_mem _ ha)
      refine ⟨c :: others, ?_, .cons hR hall⟩
      rw [List.mapM_cons, hc, hothers]
      rfl

/-! ### Faults -/

theorem bind_eq_error_iff {x : Except ε α} {f : α → Except ε β} {fault : ε} :
    x >>= f = .error fault ↔ x = .error fault ∨ ∃ a, x = .ok a ∧ f a = .error fault := by
  cases x with
  | error e => simp [bind, Except.bind]
  | ok a => simp [bind, Except.bind]

theorem mapError_eq_error_iff {x : Except ε α} {f : ε → ε'} {fault : ε'} :
    x.mapError f = .error fault ↔ ∃ cause, x = .error cause ∧ f cause = fault := by
  cases x with
  | error e => simp [Except.mapError]
  | ok a => simp [Except.mapError]

theorem map_eq_error_iff {x : Except ε α} {f : α → β} {fault : ε} :
    f <$> x = .error fault ↔ x = .error fault := by
  cases x with
  | error e => simp [Functor.map, Except.map]
  | ok a => simp [Functor.map, Except.map]

/-- Calls on a list fail as the first one that fails. -/
theorem mapM_eq_error_iff {f : α → Except ε β} {items : List α} {fault : ε} :
    items.mapM f = .error fault ↔ ∃ before a after, items = before ++ a :: after ∧
      (∃ answers, before.mapM f = .ok answers) ∧ f a = .error fault := by
  constructor
  · intro h
    induction items with
    | nil => cases h
    | cons a rest ih =>
        rw [List.mapM_cons, bind_eq_error_iff] at h
        rcases h with h | ⟨b, hb, h⟩
        · exact ⟨[], a, rest, rfl, ⟨[], rfl⟩, h⟩
        · rcases bind_eq_error_iff.1 h with h | ⟨bs, -, h⟩
          · obtain ⟨before, found, after, rfl, ⟨answers, hanswers⟩, h⟩ := ih h
            refine ⟨a :: before, found, after, rfl, ⟨b :: answers, ?_⟩, h⟩
            rw [List.mapM_cons, hb, hanswers]
            rfl
          · cases h
  · rintro ⟨before, a, after, rfl, ⟨answers, hanswers⟩, h⟩
    rw [List.mapM_append, hanswers, List.mapM_cons, h]
    rfl

/-- A fault of calls on a list is that of a call on one of its items. -/
theorem exists_of_mapM_eq_error {f : α → Except ε β} {items : List α} {fault : ε}
    (h : items.mapM f = .error fault) : ∃ a ∈ items, f a = .error fault := by
  obtain ⟨before, a, after, rfl, -, h⟩ := mapM_eq_error_iff.1 h
  exact ⟨a, List.mem_append_right _ List.mem_cons_self, h⟩

/-- All faults of a call are of some sort. -/
def FaultsIn (P : ε → Prop) (x : Except ε α) : Prop := ∀ fault, x = .error fault → P fault

section faults

variable {P : ε → Prop} {x : Except ε α} {f : α → Except ε β} {fault : ε}

theorem faultsIn_ok (a : α) : FaultsIn P (.ok a) := nofun

theorem faultsIn_error (h : P fault) : FaultsIn P (.error fault : Except ε α) :=
  fun _ he => Except.error.inj he ▸ h

theorem FaultsIn.mono {Q : ε → Prop} (h : FaultsIn P x) (hle : ∀ fault, P fault → Q fault) :
    FaultsIn Q x :=
  fun fault hx => hle fault (h fault hx)

theorem FaultsIn.bind (hx : FaultsIn P x) (hf : ∀ a, FaultsIn P (f a)) : FaultsIn P (x >>= f) :=
  fun fault h => (bind_eq_error_iff.1 h).elim (hx fault) fun ⟨a, _, h⟩ => hf a fault h

theorem FaultsIn.map (hx : FaultsIn P x) (g : α → β) : FaultsIn P (g <$> x) := by
  cases x with
  | error e =>
      rintro _ ⟨⟩
      exact hx e rfl
  | ok a => exact faultsIn_ok (g a)

theorem faultsIn_mapM (h : ∀ a, FaultsIn P (f a)) (items : List α) : FaultsIn P (items.mapM f) :=
  fun fault hfault => (exists_of_mapM_eq_error hfault).elim fun a ha => h a fault ha.2

theorem faultsIn_foldlM {g : β → α → Except ε β} (h : ∀ b a, FaultsIn P (g b a)) (items : List α)
    (b : β) : FaultsIn P (items.foldlM g b) := by
  induction items generalizing b with
  | nil => exact faultsIn_ok b
  | cons a rest ih =>
      rw [List.foldlM_cons]
      exact (h b a).bind ih

/-- A fault that the first of two calls cannot have is that of the second. -/
theorem FaultsIn.bind_eq_error_iff (hx : FaultsIn P x) (hfault : ¬ P fault) :
    x >>= f = .error fault ↔ ∃ a, x = .ok a ∧ f a = .error fault :=
  BehaviorTree.bind_eq_error_iff.trans (or_iff_right fun h => hfault (hx fault h))

end faults

/-- A call returns if a condition holds, and otherwise ends with a fault of some sort. -/
def ReturnsIf (F : ε → Prop) (P : Prop) (x : Except ε α) : Prop :=
  (P ∧ ∃ a, x = .ok a) ∨ (¬ P ∧ ∃ fault, F fault ∧ x = .error fault)

namespace ReturnsIf

variable {F G : ε → Prop} {P Q : Prop} {x : Except ε α}

theorem of_ok {a : α} (h : P) : ReturnsIf F P (.ok a : Except ε α) := Or.inl ⟨h, a, rfl⟩

theorem of_error {fault : ε} (hF : F fault) (h : ¬ P) :
    ReturnsIf F P (.error fault : Except ε α) :=
  Or.inr ⟨h, fault, hF, rfl⟩

theorem congr (hx : ReturnsIf F P x) (h : P ↔ Q) : ReturnsIf F Q x := by
  unfold ReturnsIf at hx ⊢
  rwa [← h]

theorem mono (hx : ReturnsIf F P x) (h : ∀ fault, F fault → G fault) : ReturnsIf G P x :=
  hx.imp_right fun ⟨hP, fault, hF, herror⟩ => ⟨hP, fault, h fault hF, herror⟩

theorem exists_iff (hx : ReturnsIf F P x) : (∃ a, x = .ok a) ↔ P := by
  rcases hx with ⟨hP, hok⟩ | ⟨hP, fault, -, herror⟩
  · exact iff_of_true hok hP
  · refine iff_of_false ?_ hP
    rintro ⟨a, hok⟩
    rw [herror] at hok
    cases hok

theorem faultsIn (hx : ReturnsIf F P x) : FaultsIn F x := by
  intro fault h
  rcases hx with ⟨-, a, hok⟩ | ⟨-, other, hF, herror⟩
  · rw [hok] at h
    cases h
  · obtain rfl := Except.error.inj (h.symm.trans herror)
    exact hF

theorem bind {f : α → Except ε β} (hx : ReturnsIf F P x)
    (hf : ∀ a, x = .ok a → ReturnsIf F Q (f a)) : ReturnsIf F (P ∧ Q) (x >>= f) := by
  rcases hx with ⟨hP, a, rfl⟩ | ⟨hP, fault, hF, rfl⟩
  · exact (hf a rfl).congr (and_iff_right hP).symm
  · refine of_error hF ?_
    intro h
    exact hP h.1

theorem map {f : α → β} (hx : ReturnsIf F P x) : ReturnsIf F P (x >>= fun a => pure (f a)) :=
  (hx.bind fun _ _ => of_ok trivial).congr (and_iff_left trivial)

theorem fmap {f : α → β} (hx : ReturnsIf F P x) : ReturnsIf F P (f <$> x) := by
  rw [map_eq_pure_bind]
  exact hx.map

theorem mapM {f : α → Except ε β} {P : α → Prop} {items : List α}
    (h : ∀ a ∈ items, ReturnsIf F (P a) (f a)) :
    ReturnsIf F (∀ a ∈ items, P a) (items.mapM f) := by
  induction items with
  | nil => exact of_ok nofun
  | cons a rest ih =>
      rw [List.mapM_cons, List.forall_mem_cons]
      refine (h a List.mem_cons_self).bind fun b _ => ?_
      exact (ih fun other hother => h other (List.mem_cons_of_mem _ hother)).map

end ReturnsIf

/-! ### Items and answers that correspond -/

theorem exists_left_of_forall₂ {R : α → β → Prop} {items : List α} {answers : List β}
    (h : List.Forall₂ R items answers) {b : β} (hb : b ∈ answers) : ∃ a ∈ items, R a b := by
  induction h with
  | nil => cases hb
  | cons hfirst hrest ih =>
      rcases List.mem_cons.1 hb with rfl | hb
      · exact ⟨_, List.mem_cons_self, hfirst⟩
      · obtain ⟨a, hmem, ha⟩ := ih hb
        exact ⟨a, List.mem_cons_of_mem _ hmem, ha⟩

theorem exists_right_of_forall₂ {R : α → β → Prop} {items : List α} {answers : List β}
    (h : List.Forall₂ R items answers) {a : α} (ha : a ∈ items) : ∃ b ∈ answers, R a b := by
  induction h with
  | nil => cases ha
  | cons hfirst hrest ih =>
      rcases List.mem_cons.1 ha with rfl | ha
      · exact ⟨_, List.mem_cons_self, hfirst⟩
      · obtain ⟨b, hmem, hb⟩ := ih ha
        exact ⟨b, List.mem_cons_of_mem _ hmem, hb⟩

/-- Two answers to each item, put side by side. -/
theorem forall₂_zip_right {R : α → β → Prop} {S : α → γ → Prop} {items : List α} {answers : List β}
    {others : List γ} (h : List.Forall₂ R items answers) (h' : List.Forall₂ S items others) :
    List.Forall₂ (fun a pair => R a pair.1 ∧ S a pair.2) items (answers.zip others) := by
  induction h generalizing others with
  | nil => exact .nil
  | cons hfirst hrest ih =>
      cases h' with
      | cons hfirst' hrest' => exact .cons ⟨hfirst, hfirst'⟩ (ih hrest')

/-- Where the items alone decide whether they correspond to their answers. -/
theorem forall₂_iff_forall {R S : α → β → Prop} {P : α → Prop} {items : List α} {answers : List β}
    (h : List.Forall₂ R items answers) (hstep : ∀ a ∈ items, ∀ b, R a b → (S a b ↔ P a)) :
    List.Forall₂ S items answers ↔ ∀ a ∈ items, P a := by
  induction h with
  | nil => simp
  | @cons a b _ _ hfirst hrest ih =>
      rw [List.forall₂_cons, List.forall_mem_cons, hstep a List.mem_cons_self b hfirst,
        ih fun a ha => hstep a (List.mem_cons_of_mem _ ha)]

theorem rel_getElem?_of_forall₂ {R : α → β → Prop} {items : List α} {answers : List β}
    (h : List.Forall₂ R items answers) (i : ℕ) : Option.Rel R items[i]? answers[i]? := by
  induction h generalizing i with
  | nil => exact .none
  | cons hfirst hrest ih =>
      cases i with
      | zero => exact .some hfirst
      | succ i => exact ih i

/-- Each answer of the calls is that of one of them. -/
theorem exists_of_mem_mapM {f : α → Except ε β} {items : List α} {answers : List β}
    (h : items.mapM f = .ok answers) {b : β} (hb : b ∈ answers) : ∃ a ∈ items, f a = .ok b :=
  exists_left_of_forall₂ (mapM_eq_ok_iff.1 h) hb

/-- Each item of the calls has its answer among theirs. -/
theorem exists_mem_of_mapM {f : α → Except ε β} {items : List α} {answers : List β}
    (h : items.mapM f = .ok answers) {a : α} (ha : a ∈ items) : ∃ b ∈ answers, f a = .ok b :=
  exists_right_of_forall₂ (mapM_eq_ok_iff.1 h) ha

end BehaviorTree
