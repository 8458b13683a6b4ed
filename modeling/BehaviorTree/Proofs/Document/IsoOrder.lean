import BehaviorTree.Proofs.Document.Timestamp
import Mathlib.Data.String.Basic

/-! # The order of written timestamps

Written timestamps are compared as texts.  The reading of the clock decides first, because all its
numbers are padded and stand from the largest unit to the smallest (`iso_lt_of_wall_lt`).  At equal
readings the offsets decide, and as texts they do not sort as numbers: all offsets ahead of UTC come
before those behind it, and both by their size (`iso_lt_of_offsetBefore`). -/

namespace BehaviorTree.Timestamp

open BehaviorTree.Text

/-! ### Digits -/

theorem lt_of_digitValue_lt {c d : Char} (hc : c.isDigit = true)
    (h : digitValue c < digitValue d) : c < d := by
  have hge : 48 ≤ c.toNat := ((isDigit_iff c).1 hc).1
  unfold digitValue at h
  rw [Char.lt_def, UInt32.lt_iff_toNat_lt]
  change c.toNat < d.toNat
  omega

theorem eq_of_digitValue_eq {c d : Char} (hc : c.isDigit = true) (hd : d.isDigit = true)
    (h : digitValue c = digitValue d) : c = d := by
  have hgec : 48 ≤ c.toNat := ((isDigit_iff c).1 hc).1
  have hged : 48 ≤ d.toNat := ((isDigit_iff d).1 hd).1
  unfold digitValue at h
  refine Char.toNat_inj.1 ?_
  omega

/-- Of two texts that start with equally many digits, that with the smaller number comes first. -/
theorem digits_append_lt {ds es : List Char} (hd : Digits ds) (he : Digits es)
    (hlength : ds.length = es.length)
    (h : ofDigits (ds.map digitValue) < ofDigits (es.map digitValue)) (rest more : List Char) :
    ds ++ rest < es ++ more := by
  induction ds generalizing es with
  | nil =>
      obtain rfl := List.length_eq_zero_iff.1 hlength.symm
      exact absurd h (lt_irrefl _)
  | cons d ds ih =>
      obtain ⟨e, es, rfl⟩ := List.exists_cons_of_length_eq_add_one hlength.symm
      have hds : Digits ds := fun c hc => hd c (List.mem_cons_of_mem d hc)
      have hes : Digits es := fun c hc => he c (List.mem_cons_of_mem e hc)
      have hlength' : ds.length = es.length := Nat.succ.inj hlength
      rw [List.map_cons, List.map_cons, ofDigits_cons, ofDigits_cons, List.length_map,
        List.length_map, hlength'] at h
      rw [List.cons_append, List.cons_append, List.cons_lt_cons_iff]
      rcases lt_trichotomy (digitValue d) (digitValue e) with hlt | heq | hgt
      · exact Or.inl (lt_of_digitValue_lt (hd d List.mem_cons_self) hlt)
      · have hsame := eq_of_digitValue_eq (hd d List.mem_cons_self) (he e List.mem_cons_self) heq
        exact Or.inr ⟨hsame, ih hds hes hlength' (by rw [heq] at h; omega)⟩
      · have hsmall := ofDigits_lt (digitValue_lt hes)
        have hlarge := Nat.mul_le_mul_right (10 ^ es.length) (Nat.succ_le_of_lt hgt)
        rw [List.length_map] at hsmall
        rw [Nat.succ_mul] at hlarge
        omega

theorem padded_append_lt {width m n : ℕ} (hwidth : 0 < width) (hn : n < 10 ^ width) (h : m < n)
    (rest more : List Char) :
    (padded width m).toList ++ rest < (padded width n).toList ++ more := by
  refine digits_append_lt (digits_padded width m) (digits_padded width n) ?_ ?_ rest more
  · rw [length_padded hwidth (h.trans hn), length_padded hwidth hn]
  · rwa [ofDigits_padded, ofDigits_padded]

theorem two_append_lt {m n : ℤ} (h0 : 0 ≤ m) (h : m < n) (hn : n < 100) (rest more : List Char) :
    (two m).toList ++ rest < (two n).toList ++ more :=
  padded_append_lt two_pos (by omega) (by omega) rest more

/-! ### Dates -/

/-- A date comes before another on the calendar. -/
def Date.Before (d e : Date) : Prop :=
  d.year < e.year ∨ d.year = e.year ∧ (d.month < e.month ∨ d.month = e.month ∧ d.day < e.day)

theorem dayNumber_lt_of_month_lt {d e : Date} (hd : d.Valid) (he : e.Valid)
    (hyear : d.year = e.year) (hmonth : d.month < e.month) : d.dayNumber < e.dayNumber := by
  obtain ⟨year, month, day⟩ := d
  obtain ⟨year', month', day'⟩ := e
  obtain ⟨hm, hm', hday, hday'⟩ := hd
  obtain ⟨hn, hn', hlast, -⟩ := he
  dsimp only at *
  subst hyear
  rw [dayNumber_eq, dayNumber_eq]
  dsimp only
  unfold daysBefore
  by_cases hfebruary : month = 2
  · subst hfebruary
    rw [daysIn_february] at hday'
    split_ifs at hday' ⊢ <;> omega
  · rw [daysIn_of_ne hfebruary hm hm'] at hday'
    have hnext : (153 * (month - 3 + 1) + 2) / 5 ≤ (153 * (month' - 3) + 2) / 5 := by omega
    -- The lengths of the months are only told apart one by one.
    obtain rfl | rfl | rfl | rfl | rfl | rfl | rfl | rfl | rfl | rfl : month = 1 ∨ month = 3 ∨
        month = 4 ∨ month = 5 ∨ month = 6 ∨ month = 7 ∨ month = 8 ∨ month = 9 ∨ month = 10 ∨
        month = 11 := by omega
    all_goals
      norm_num at hday' hnext ⊢
      split_ifs <;> omega

/-- **Dates come in the order of their days.** -/
theorem dayNumber_lt_of_before {d e : Date} (hd : d.Valid) (he : e.Valid) (h : d.Before e) :
    d.dayNumber < e.dayNumber := by
  rcases h with hyear | ⟨hyear, hmonth | ⟨hmonth, hday⟩⟩
  · calc d.dayNumber < yearStart (d.year + 1) := dayNumber_lt_yearStart hd
      _ ≤ yearStart e.year := yearStart_mono (Int.add_one_le_of_lt hyear)
      _ ≤ e.dayNumber := yearStart_le_dayNumber he
  · exact dayNumber_lt_of_month_lt hd he hyear hmonth
  · rw [dayNumber_eq, dayNumber_eq, hyear, hmonth]
    omega

theorem before_of_dayNumber_lt {d e : Date} (hd : d.Valid) (he : e.Valid)
    (h : d.dayNumber < e.dayNumber) : d.Before e := by
  by_contra hbefore
  have hsame : e.Before d ∨ d = e := by
    obtain ⟨year, month, day⟩ := d
    obtain ⟨year', month', day'⟩ := e
    unfold Date.Before at *
    simp only [Date.mk.injEq] at *
    omega
  rcases hsame with hafter | rfl
  · exact absurd (dayNumber_lt_of_before he hd hafter) (not_lt.2 h.le)
  · exact absurd h (lt_irrefl _)

theorem dateChars_append_lt {d e : Date} (hd : d.Valid) (he : e.Valid) (hyear : 0 ≤ d.year)
    (hyear' : e.year < 10000) (h : d.Before e) (rest more : List Char) :
    dateChars d ++ rest < dateChars e ++ more := by
  obtain ⟨year, month, day⟩ := d
  obtain ⟨year', month', day'⟩ := e
  have hlast := daysIn_le year' month'
  obtain ⟨hmonth, -, hday, -⟩ := hd
  obtain ⟨-, hmonth', -, hday'⟩ := he
  unfold Date.Before at h
  dsimp only at *
  simp only [dateChars, List.append_assoc, List.cons_append]
  rcases h with h | ⟨rfl, h | ⟨rfl, h⟩⟩
  · exact padded_append_lt four_pos (by omega) (by omega) _ _
  · refine List.append_left_lt (List.cons_lt_cons_iff.2 (Or.inr ⟨rfl, ?_⟩))
    exact two_append_lt (by omega) h (by omega) _ _
  · refine List.append_left_lt (List.cons_lt_cons_iff.2 (Or.inr ⟨rfl, ?_⟩))
    refine List.append_left_lt (List.cons_lt_cons_iff.2 (Or.inr ⟨rfl, ?_⟩))
    exact two_append_lt (by omega) h (by omega) _ _

/-! ### Clock readings -/

/-- The characters of the time of a day in seconds. -/
def clockChars (seconds : ℤ) : List Char :=
  (two (seconds / 3600)).toList ++ ':' :: ((two (seconds / 60 % 60)).toList ++
    ':' :: (two (seconds % 60)).toList)

theorem toList_clock (t : Timestamp) : t.clock.toList = clockChars (t.wall % day / second) := by
  simp [clock, clockChars]

theorem clockChars_append_lt {m n : ℤ} (h0 : 0 ≤ m) (h : m < n) (hn : n < 86400)
    (rest more : List Char) : clockChars m ++ rest < clockChars n ++ more := by
  simp only [clockChars, List.append_assoc, List.cons_append]
  have hcases : m / 3600 < n / 3600 ∨ m / 3600 = n / 3600 ∧ (m / 60 % 60 < n / 60 % 60 ∨
      m / 60 % 60 = n / 60 % 60 ∧ m % 60 < n % 60) := by omega
  rcases hcases with hlt | ⟨heq, hlt | ⟨heq', hlt⟩⟩
  · exact two_append_lt (by omega) hlt (by omega) _ _
  · rw [heq]
    refine List.append_left_lt (List.cons_lt_cons_iff.2 (Or.inr ⟨rfl, ?_⟩))
    exact two_append_lt (by omega) hlt (by omega) _ _
  · rw [heq, heq']
    refine List.append_left_lt (List.cons_lt_cons_iff.2 (Or.inr ⟨rfl, ?_⟩))
    refine List.append_left_lt (List.cons_lt_cons_iff.2 (Or.inr ⟨rfl, ?_⟩))
    exact two_append_lt (by omega) hlt (by omega) _ _

/-- What stands behind the fraction when the offset is known: a sign. -/
def startsOffset (cs : List Char) : Prop := ∃ c ∈ cs.head?, c = '+' ∨ c = '-'

theorem startsOffset_offsetText (minutes : ℤ) : startsOffset (offsetText minutes).toList := by
  rw [offsetText_toList]
  refine ⟨_, rfl, ?_⟩
  split_ifs
  · exact Or.inr rfl
  · exact Or.inl rfl

/-- The fraction of a second is left out when it is zero, and a point comes after a sign. -/
theorem fraction_append_lt {t u : Timestamp} (h : t.wall % second < u.wall % second)
    {rest more : List Char} (hrest : startsOffset rest) :
    t.fraction.toList ++ rest < u.fraction.toList ++ more := by
  have h0 : 0 ≤ t.wall % second := Int.emod_nonneg _ (by decide)
  have hlt : (u.wall % second).toNat < 10 ^ 6 := by
    rw [second_eq]
    omega
  have hu : u.fraction = "." ++ padded 6 (u.wall % second).toNat := if_neg (by omega)
  rw [hu, String.toList_append, List.append_assoc]
  by_cases hzero : t.wall % second = 0
  · have ht : t.fraction = "" := if_pos hzero
    obtain ⟨c, hc, hsign⟩ := hrest
    obtain ⟨rest, rfl⟩ := List.head?_eq_some_iff.1 hc
    rw [ht]
    refine List.cons_lt_cons_iff.2 (Or.inl ?_)
    rcases hsign with rfl | rfl <;> decide
  · have ht : t.fraction = "." ++ padded 6 (t.wall % second).toNat := if_neg hzero
    rw [ht, String.toList_append, List.append_assoc]
    exact List.append_left_lt (padded_append_lt (by decide) hlt (by omega) rest more)

theorem toList_iso {t : Timestamp} {minutes : ℤ} (h : t.offset = some minutes) :
    t.iso.toList = dateChars t.date ++ ('T' :: (clockChars (t.wall % day / second) ++
      (t.fraction.toList ++ (offsetText minutes).toList))) := by
  rw [← toList_clock]
  unfold iso unzoned dateChars
  rw [h]
  simp

/-- **A timestamp with an earlier reading of its clock is the smaller text.** -/
theorem iso_lt_of_wall_lt {t u : Timestamp} (ht : t.Valid) (hu : u.Valid)
    (hat : t.offset.isSome = true) (hau : u.offset.isSome = true) (h : t.wall < u.wall) :
    t.iso < u.iso := by
  obtain ⟨a, ha⟩ := Option.isSome_iff_exists.1 hat
  obtain ⟨b, hb⟩ := Option.isSome_iff_exists.1 hau
  rw [String.lt_iff_toList_lt, toList_iso ha, toList_iso hb]
  have hcases : t.wall / day < u.wall / day ∨ t.wall / day = u.wall / day ∧
      (t.wall % day / second < u.wall % day / second ∨
        t.wall % day / second = u.wall % day / second ∧ t.wall % second < u.wall % second) := by
    rw [day_eq, second_eq]
    omega
  rcases hcases with hday | ⟨hday, hclock | ⟨hclock, hfraction⟩⟩
  · have hdt := valid_ofDayNumber (t.wall / day)
    have hdu := valid_ofDayNumber (u.wall / day)
    refine dateChars_append_lt hdt hdu (le_trans zero_le_one ht.year.1) hu.year.2 ?_ _ _
    refine before_of_dayNumber_lt hdt hdu ?_
    rwa [dayNumber_ofDayNumber, dayNumber_ofDayNumber]
  · rw [date, date, hday]
    refine List.append_left_lt (List.cons_lt_cons_iff.2 (Or.inr ⟨rfl, ?_⟩))
    refine clockChars_append_lt ?_ hclock ?_ _ _
    all_goals
      rw [day_eq, second_eq]
      omega
  · rw [date, date, hday, hclock]
    refine List.append_left_lt (List.cons_lt_cons_iff.2 (Or.inr ⟨rfl, ?_⟩))
    exact List.append_left_lt (fraction_append_lt hfraction (startsOffset_offsetText a))

/-! ### Offsets -/

/-- The order of offsets as texts: UTC and those ahead of it come before those behind it, and both
by their size. -/
def OffsetBefore (a b : ℤ) : Prop := if 0 ≤ a then a < b ∨ b < 0 else b < a ∧ b < 0

theorem offsetBefore_or (a b : ℤ) : OffsetBefore a b ∨ a = b ∨ OffsetBefore b a := by
  unfold OffsetBefore
  split_ifs <;> omega

theorem two_colon_append_lt {m n : ℕ} (h : m < n) (hn : n < 1440) :
    (two (m / 60 : ℕ)).toList ++ ':' :: (two (m % 60 : ℕ)).toList <
      (two (n / 60 : ℕ)).toList ++ ':' :: (two (n % 60 : ℕ)).toList := by
  have hcases : m / 60 < n / 60 ∨ m / 60 = n / 60 ∧ m % 60 < n % 60 := by omega
  rcases hcases with hlt | ⟨heq, hlt⟩
  · exact two_append_lt (by omega) (by omega) (by omega) _ _
  · rw [heq]
    refine List.append_left_lt (List.cons_lt_cons_iff.2 (Or.inr ⟨rfl, ?_⟩))
    have := two_append_lt (m := (m % 60 : ℕ)) (n := (n % 60 : ℕ)) (by omega) (by omega) (by omega)
      [] []
    simpa using this

theorem offsetText_lt {a b : ℤ} (hb : b.natAbs < 1440) (h : OffsetBefore a b) :
    (offsetText a).toList < (offsetText b).toList := by
  rw [offsetText_toList, offsetText_toList, List.cons_lt_cons_iff]
  unfold OffsetBefore at h
  by_cases hneg : b < 0
  · by_cases ha : 0 ≤ a
    · rw [if_neg (not_lt.2 ha), if_pos hneg]
      exact Or.inl (by decide)
    · rw [if_neg ha] at h
      rw [if_pos (not_le.1 ha), if_pos hneg]
      exact Or.inr ⟨rfl, two_colon_append_lt (by omega) hb⟩
  · have ha : 0 ≤ a := by
      by_contra ha
      rw [if_neg ha] at h
      exact hneg h.2
    rw [if_pos ha] at h
    rw [if_neg (not_lt.2 ha), if_neg hneg]
    exact Or.inr ⟨rfl, two_colon_append_lt (by omega) hb⟩

/-- The offset that a timestamp is counted with. -/
def shift (t : Timestamp) : ℤ := t.offset.getD 0

/-- **At equal readings of the clocks the offsets decide.** -/
theorem iso_lt_of_offsetBefore {t u : Timestamp} (hu : u.Valid) (hat : t.offset.isSome = true)
    (hau : u.offset.isSome = true) (hwall : t.wall = u.wall) (h : OffsetBefore t.shift u.shift) :
    t.iso < u.iso := by
  obtain ⟨a, ha⟩ := Option.isSome_iff_exists.1 hat
  obtain ⟨b, hb⟩ := Option.isSome_iff_exists.1 hau
  have hbefore : OffsetBefore a b := by
    rw [shift, shift, ha, hb] at h
    exact h
  have hfraction : t.fraction = u.fraction := by
    rw [fraction, fraction, hwall]
  rw [String.lt_iff_toList_lt, toList_iso ha, toList_iso hb, date, date, hwall, hfraction]
  refine List.append_left_lt (List.cons_lt_cons_iff.2 (Or.inr ⟨rfl, ?_⟩))
  exact List.append_left_lt (List.append_left_lt (offsetText_lt (hu.offset_lt b hb) hbefore))

/-! ### All in all -/

/-- Timestamps with offsets in the order of their texts. -/
def TextBefore (t u : Timestamp) : Prop :=
  t.wall < u.wall ∨ t.wall = u.wall ∧ OffsetBefore t.shift u.shift

section

variable {t u : Timestamp}

theorem eq_of_shift_eq (hat : t.offset.isSome = true) (hau : u.offset.isSome = true)
    (hwall : t.wall = u.wall) (hshift : t.shift = u.shift) : t = u := by
  obtain ⟨wall, offset⟩ := t
  obtain ⟨wall', offset'⟩ := u
  obtain ⟨a, rfl⟩ := Option.isSome_iff_exists.1 hat
  obtain ⟨b, rfl⟩ := Option.isSome_iff_exists.1 hau
  obtain rfl : a = b := hshift
  obtain rfl : wall = wall' := hwall
  rfl

theorem textBefore_or (hat : t.offset.isSome = true) (hau : u.offset.isSome = true) :
    TextBefore t u ∨ t = u ∨ TextBefore u t := by
  rcases lt_trichotomy t.wall u.wall with hlt | heq | hgt
  · exact Or.inl (Or.inl hlt)
  · rcases offsetBefore_or t.shift u.shift with hbefore | hsame | hafter
    · exact Or.inl (Or.inr ⟨heq, hbefore⟩)
    · exact Or.inr (Or.inl (eq_of_shift_eq hat hau heq hsame))
    · exact Or.inr (Or.inr (Or.inr ⟨heq.symm, hafter⟩))
  · exact Or.inr (Or.inr (Or.inl hgt))

variable (ht : t.Valid) (hu : u.Valid) (hat : t.offset.isSome = true)
  (hau : u.offset.isSome = true)

include ht hu hat hau

theorem iso_lt_of_textBefore (h : TextBefore t u) : t.iso < u.iso := by
  rcases h with hwall | ⟨hwall, hoffset⟩
  · exact iso_lt_of_wall_lt ht hu hat hau hwall
  · exact iso_lt_of_offsetBefore hu hat hau hwall hoffset

/-- **The order of timestamps as texts**: first the readings of the clocks, then the offsets. -/
theorem iso_lt_iff : t.iso < u.iso ↔ TextBefore t u := by
  refine ⟨fun h => ?_, iso_lt_of_textBefore ht hu hat hau⟩
  rcases textBefore_or hat hau with hbefore | rfl | hafter
  · exact hbefore
  · exact absurd h (lt_irrefl _)
  · exact absurd (iso_lt_of_textBefore hu ht hau hat hafter) (lt_asymm h)

/-- A timestamp is told by its text. -/
theorem eq_of_iso_eq (h : t.iso = u.iso) : t = u := by
  rcases textBefore_or hat hau with hbefore | rfl | hafter
  · exact absurd h (iso_lt_of_textBefore ht hu hat hau hbefore).ne
  · rfl
  · exact absurd h.symm (iso_lt_of_textBefore hu ht hau hat hafter).ne

/-- **Where the order of texts is that of the points in time**: an earlier reading of a clock must
not be a later time, and at equal readings an offset ahead of UTC must not be before a larger
one. -/
theorem instant_le_of_iso_lt_iff (zone : Zone) :
    (t.iso < u.iso → t.instant zone ≤ u.instant zone) ↔
      (t.wall < u.wall → t.instant zone ≤ u.instant zone) ∧
        (t.wall = u.wall → 0 ≤ t.shift → u.shift ≤ t.shift) := by
  have hinstant : ∀ t : Timestamp, t.offset.isSome = true →
      t.instant zone = t.wall - t.shift * 60000000 := by
    intro t haware
    rw [instant_of_aware haware, second_eq, shift]
    omega
  rw [iso_lt_iff ht hu hat hau, TextBefore, OffsetBefore, hinstant t hat, hinstant u hau]
  split_ifs <;> omega

end

end BehaviorTree.Timestamp
