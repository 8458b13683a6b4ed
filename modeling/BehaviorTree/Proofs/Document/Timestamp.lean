import BehaviorTree.Proofs.Document.Calendar
import BehaviorTree.Proofs.Success
import BehaviorTree.Proofs.Text.Digits
import Mathlib.Data.Nat.Digits.Defs

/-! # Points in time in documents

A timestamp of a clock reading is written in a document as a text that is read as the timestamp
again (`ofText_document`).  Whatever is read as a timestamp could have been read from a clock: its
year is one of the years 1 to 9999, and its offset less than a day (`valid_ofText`). -/

namespace BehaviorTree.Timestamp

open BehaviorTree.Text

/-- A timestamp of a year from `first` to 9999, whose offset is less than a day. -/
structure Since (first : ℤ) (t : Timestamp) : Prop where
  wall_ge : yearStart first * day ≤ t.wall
  wall_lt : t.wall < yearStart 10000 * day
  offset_lt : ∀ minutes ∈ t.offset, minutes.natAbs < 1440

/-- What a clock can read. -/
abbrev Valid (t : Timestamp) : Prop := t.Since 1

theorem day_eq : day = 86400000000 := rfl

theorem second_eq : second = 1000000 := rfl

/-- The point in time that a clock with an offset shows is the same in all zones. -/
theorem instant_of_aware {zone : Zone} {t : Timestamp} (h : t.offset.isSome = true) :
    t.instant zone = t.wall - t.offset.getD 0 * 60 * second := by
  obtain ⟨minutes, hminutes⟩ := Option.isSome_iff_exists.1 h
  rw [instant, hminutes]
  rfl

theorem Since.year {first : ℤ} {t : Timestamp} (h : t.Since first) :
    first ≤ t.date.year ∧ t.date.year < 10000 := by
  obtain ⟨hge, hlt, -⟩ := h
  have hdate := valid_ofDayNumber (t.wall / day)
  have hstart := yearStart_le_dayNumber hdate
  have hend := dayNumber_lt_yearStart hdate
  rw [dayNumber_ofDayNumber] at hstart hend
  rw [day_eq] at hge hlt hstart hend
  rw [date, day_eq]
  constructor
  · by_contra hyear
    have := yearStart_mono (Int.add_one_le_of_lt (not_le.1 hyear))
    omega
  · by_contra hyear
    have := yearStart_mono (not_lt.1 hyear)
    omega

/-! ### Reading digits -/

theorem takeDigits?_digits {ds : List Char} (h : Digits ds) (n : ℕ) (rest : List Char) :
    takeDigits? ds.length n (ds ++ rest) =
      some (((n * 10 ^ ds.length + ofDigits (ds.map digitValue) : ℕ) : ℤ), rest) := by
  induction ds generalizing n with
  | nil => simp [takeDigits?, ofDigits]
  | cons d ds ih =>
      have hd := asciiDigit?_of_isDigit (h d List.mem_cons_self)
      have hrest := ih (fun c hc => h c (List.mem_cons_of_mem d hc)) (10 * n + digitValue d)
      have hsum : (10 * n + digitValue d) * 10 ^ ds.length + ofDigits (ds.map digitValue) =
          n * 10 ^ (ds.length + 1) +
            (digitValue d * 10 ^ ds.length + ofDigits (ds.map digitValue)) := by
        ring
      rw [List.cons_append, List.length_cons, takeDigits?, hd, List.map_cons, ofDigits_cons,
        List.length_map, ← hsum]
      exact hrest

theorem length_padded {width n : ℕ} (hwidth : 0 < width) (h : n < 10 ^ width) :
    (padded width n).toList.length = width := by
  have hlength := Nat.toDigits_length 10 n width hwidth h
  rw [padded, String.toList_ofList, List.length_append, List.length_replicate]
  omega

/-- A number that is written with enough zeros in front is read by the number of its digits. -/
theorem takeDigits?_padded {width n : ℕ} (hwidth : 0 < width) (h : n < 10 ^ width)
    (rest : List Char) :
    takeDigits? width 0 ((padded width n).toList ++ rest) = some ((n : ℤ), rest) := by
  have hread := takeDigits?_digits (digits_padded width n) 0 rest
  rw [length_padded hwidth h, ofDigits_padded, zero_mul, zero_add] at hread
  exact hread

theorem takeDigits?_two {n : ℤ} (h0 : 0 ≤ n) (h : n < 100) (rest : List Char) :
    takeDigits? 2 0 ((two n).toList ++ rest) = some (n, rest) := by
  have hread := takeDigits?_padded (n := n.toNat) two_pos (by omega) rest
  rw [Int.toNat_of_nonneg h0] at hread
  exact hread

/-! ### Reading what was written -/

/-- The characters of a date. -/
def dateChars (d : Date) : List Char :=
  (padded 4 d.year.toNat).toList ++ '-' :: ((two d.month).toList ++ '-' :: (two d.day).toList)

theorem daysIn_le (year month : ℤ) : daysIn year month ≤ 31 := by
  unfold daysIn
  split_ifs <;> decide

theorem takeDate_dateChars {d : Date} (h : d.Valid) (hyear : 0 ≤ d.year) (hyear' : d.year < 10000)
    (rest : List Char) : takeDate (dateChars d ++ rest) = .ok (d, rest) := by
  obtain ⟨year, month, dayOfMonth⟩ := d
  obtain ⟨hmonth, hmonth', hday, hday'⟩ := h
  dsimp only at *
  have hday31 := daysIn_le year month
  have htext : dateChars ⟨year, month, dayOfMonth⟩ ++ rest =
      (padded 4 year.toNat).toList ++ ('-' :: ((two month).toList ++ ('-' ::
        ((two dayOfMonth).toList ++ rest)))) := by
    simp [dateChars]
  have hyearRead := takeDigits?_padded (n := year.toNat) four_pos (by omega)
    ('-' :: ((two month).toList ++ ('-' :: ((two dayOfMonth).toList ++ rest))))
  rw [Int.toNat_of_nonneg hyear] at hyearRead
  rw [htext, takeDate, hyearRead]
  simp only [orElse, takeChar?, bind, Except.bind, decide_true, if_true,
    takeDigits?_two (show 0 ≤ month by omega) (show month < 100 by omega),
    takeDigits?_two (show 0 ≤ dayOfMonth by omega) (show dayOfMonth < 100 by omega)]
  rw [if_neg (by omega), if_neg (by omega)]

/-- What may stand behind the time: nothing that goes on with it. -/
def endsTime (c : Char) : Bool := !c.isDigit && c ≠ '.' && c ≠ ','

section time

variable {zone : List Char} (hzone : zone.head?.all endsTime = true)

include hzone

theorem head_zone : ∀ c ∈ zone.head?, c.isDigit = false ∧ c ≠ '.' ∧ c ≠ ',' := by
  intro c hc
  have hhead : zone.head? = some c := hc
  rw [hhead] at hzone
  simpa [endsTime, and_assoc] using hzone

theorem takeFraction?_fraction (t : Timestamp) :
    takeFraction? (t.fraction.toList ++ zone) = some (t.wall % second, zone) := by
  unfold fraction
  dsimp only
  by_cases h : t.wall % second = 0
  · rw [if_pos h, h]
    cases zone with
    | nil => rfl
    | cons c zone =>
        obtain ⟨-, hpoint, hcomma⟩ := head_zone hzone c rfl
        exact if_neg (by simp [hpoint, hcomma])
  · have hlt : (t.wall % second).toNat < 10 ^ 6 := by
      rw [second_eq]
      omega
    have hlength := length_padded (by decide) hlt
    have hspan := spanDigits_append (digits_padded 6 (t.wall % second).toNat)
      fun c hc => (head_zone hzone c hc).1
    have hmicroseconds : microseconds ((padded 6 (t.wall % second).toNat).toList.map digitValue) =
        t.wall % second := by
      rw [microseconds, List.take_append_of_le_length (by simp [hlength]),
        List.take_of_length_le (by simp [hlength]), ofDigits_padded,
        Int.toNat_of_nonneg (by rw [second_eq]; omega)]
    rw [if_neg h, String.toList_append, List.append_assoc]
    change takeFraction? ('.' :: ((padded 6 (t.wall % second).toNat).toList ++ zone)) = _
    rw [takeFraction?, if_pos (Or.inl rfl), hspan]
    obtain ⟨d, ds, hds⟩ := List.exists_cons_of_ne_nil (padded_ne_nil 6 (t.wall % second).toNat)
    rw [hds] at hmicroseconds ⊢
    rw [List.map_cons] at hmicroseconds ⊢
    dsimp only
    rw [hmicroseconds]

theorem takeTime?_clock (t : Timestamp) :
    takeTime? (t.clock.toList ++ (t.fraction.toList ++ zone)) = some (t.wall % day, zone) := by
  obtain ⟨seconds, hseconds⟩ : ∃ seconds, seconds = t.wall % day / second := ⟨_, rfl⟩
  have hrange : 0 ≤ seconds ∧ seconds < 86400 := by
    rw [hseconds, day_eq, second_eq]
    omega
  have hclock : t.clock.toList ++ (t.fraction.toList ++ zone) =
      (two (seconds / 3600)).toList ++ ':' :: ((two (seconds / 60 % 60)).toList ++
        ':' :: ((two (seconds % 60)).toList ++ (t.fraction.toList ++ zone))) := by
    simp [clock, hseconds]
  have hwall : ((seconds / 3600) * 60 + seconds / 60 % 60) * 60 * second +
      (seconds % 60 * second + t.wall % second) = t.wall % day := by
    rw [hseconds, day_eq, second_eq]
    omega
  rw [hclock, takeTime?]
  simp only [takeChar?, bind, Option.bind, decide_true, if_true, takeSeconds?,
    takeDigits?_two (show 0 ≤ seconds / 3600 by omega) (show seconds / 3600 < 100 by omega),
    takeDigits?_two (show 0 ≤ seconds / 60 % 60 by omega) (show seconds / 60 % 60 < 100 by omega),
    takeDigits?_two (show 0 ≤ seconds % 60 by omega) (show seconds % 60 < 100 by omega),
    takeFraction?_fraction hzone]
  rw [if_neg (by omega), if_neg (by omega)]
  simp only [hwall]

end time

/-- The zone of a timestamp as a document has it. -/
def zoneChars (t : Timestamp) : List Char :=
  match t.offset with
  | none => []
  | some minutes => if minutes = 0 then ['Z'] else (offsetText minutes).toList

theorem offsetText_toList (minutes : ℤ) :
    (offsetText minutes).toList = (if minutes < 0 then '-' else '+') ::
      ((two (minutes.natAbs / 60)).toList ++ ':' :: (two (minutes.natAbs % 60)).toList) := by
  unfold offsetText
  split_ifs <;> simp

theorem readOffset?_chars {minutes : ℤ} (h : minutes.natAbs < 1440) (sign : ℤ) :
    readOffset? sign ((two (minutes.natAbs / 60)).toList ++
      ':' :: (two (minutes.natAbs % 60)).toList) = some (sign * minutes.natAbs) := by
  have hminutes := takeDigits?_two (n := (minutes.natAbs % 60 : ℤ)) (by omega) (by omega) []
  rw [List.append_nil] at hminutes
  rw [readOffset?]
  simp only [takeDigits?_two (n := (minutes.natAbs / 60 : ℤ)) (by omega) (by omega), bind,
    Option.bind, takeChar?, decide_true, if_true, Option.getD_some, hminutes]
  rw [if_pos ⟨rfl, by omega, by omega⟩]
  congr 2
  omega

theorem readZone?_zoneChars {t : Timestamp} (h : t.Valid) :
    readZone? t.zoneChars = some t.offset := by
  unfold zoneChars
  cases hoffset : t.offset with
  | none => rfl
  | some minutes =>
      have hlt := h.offset_lt minutes hoffset
      dsimp only
      by_cases hzero : minutes = 0
      · rw [if_pos hzero, hzero]
        rfl
      · rw [if_neg hzero, offsetText_toList]
        by_cases hneg : minutes < 0
        · rw [if_pos hneg, readZone?, readOffset?_chars hlt]
          simp only [Option.map_some]
          congr 2
          omega
        · rw [if_neg hneg, readZone?, readOffset?_chars hlt]
          simp only [Option.map_some]
          congr 2
          omega

theorem head_zoneChars (t : Timestamp) : t.zoneChars.head?.all endsTime = true := by
  unfold zoneChars
  cases t.offset with
  | none => rfl
  | some minutes =>
      dsimp only
      split_ifs with hzero
      · rfl
      · rw [offsetText_toList]
        split_ifs <;> rfl

theorem toList_document (t : Timestamp) :
    t.document.toList =
      dateChars t.date ++ ('T' :: (t.clock.toList ++ (t.fraction.toList ++ t.zoneChars))) := by
  unfold document unzoned zoneChars dateChars
  cases t.offset with
  | none => simp
  | some minutes =>
      dsimp only
      split_ifs <;> simp

/-- **A timestamp in a document is read as it is.** -/
theorem ofText_document {t : Timestamp} (h : t.Valid) : ofText t.document = .ok t := by
  obtain ⟨hyear, hyear'⟩ := h.year
  have hdate := takeDate_dateChars (valid_ofDayNumber (t.wall / day))
    (le_trans zero_le_one hyear) hyear'
    ('T' :: (t.clock.toList ++ (t.fraction.toList ++ t.zoneChars)))
  have hread : readDateTime? t.document.toList = some t := by
    have hwall : (Date.ofDayNumber (t.wall / day)).dayNumber * day + t.wall % day = t.wall := by
      rw [dayNumber_ofDayNumber, mul_comm]
      exact Int.mul_ediv_add_emod _ _
    rw [readDateTime?, toList_document, date, hdate]
    simp only [Except.toOption, bind, Option.bind, takeChar?, isDateEnd, decide_true, Bool.true_or,
      if_true, takeTime?_clock (head_zoneChars t), readZone?_zoneChars h, hwall]
  have hchecked : checked t = .ok t := if_neg (by omega)
  rw [ofText]
  simp only [hread, Option.some_or, bind, Except.bind, hchecked]
  rfl

/-! ### What is read can have been written -/

theorem takeDigits?_lt {count n : ℕ} {cs rest : List Char} {m : ℤ}
    (h : takeDigits? count n cs = some (m, rest)) : 0 ≤ m ∧ m < (n + 1) * 10 ^ count := by
  induction count generalizing n cs with
  | zero =>
      obtain ⟨rfl, -⟩ := Prod.mk.inj (Option.some.inj h)
      constructor <;> omega
  | succ count ih =>
      cases cs with
      | nil => cases h
      | cons c cs =>
          obtain ⟨d, hd, hrest⟩ := Option.bind_eq_some_iff.1 h
          have hlt := asciiDigit?_lt hd
          obtain ⟨h0, hm⟩ := ih hrest
          refine ⟨h0, lt_of_lt_of_le hm ?_⟩
          have hstep : ((10 * n + d : ℕ) + 1 : ℤ) ≤ (n + 1) * 10 := by omega
          calc ((10 * n + d : ℕ) + 1 : ℤ) * 10 ^ count ≤ (n + 1) * 10 * 10 ^ count :=
                mul_le_mul_of_nonneg_right hstep (by positivity)
            _ = (n + 1) * 10 ^ (count + 1) := by ring

theorem orElse_eq_ok_iff {α : Type} {problem : Problem} {found : Option α} {a : α} :
    orElse problem found = .ok a ↔ found = some a := by
  cases found <;> simp [orElse]

theorem takeDate_valid {cs rest : List Char} {d : Date} (h : takeDate cs = .ok (d, rest)) :
    d.Valid ∧ 0 ≤ d.year ∧ d.year < 10000 := by
  obtain ⟨⟨year, cs⟩, hyear, h⟩ := bind_eq_ok_iff.1 h
  obtain ⟨cs, -, h⟩ := bind_eq_ok_iff.1 h
  obtain ⟨⟨month, cs⟩, -, h⟩ := bind_eq_ok_iff.1 h
  obtain ⟨cs, -, h⟩ := bind_eq_ok_iff.1 h
  obtain ⟨⟨dayOfMonth, cs⟩, -, h⟩ := bind_eq_ok_iff.1 h
  have hlt := takeDigits?_lt (orElse_eq_ok_iff.1 hyear)
  dsimp only at h
  split_ifs at h with hmonth hday
  obtain ⟨rfl, -⟩ := Prod.mk.inj (Except.ok.inj h)
  norm_num at hlt
  rw [not_or, not_lt, not_lt] at hmonth hday
  exact ⟨⟨hmonth.1, hmonth.2, hday.1, hday.2⟩, hlt⟩

theorem microseconds_lt (cs : List Char) :
    microseconds (spanDigits asciiDigit? cs).1 < second := by
  have hdigits : ∀ d ∈ ((spanDigits asciiDigit? cs).1 ++ List.replicate 6 0).take 6, d < 10 := by
    intro d hd
    rcases List.mem_append.1 (List.mem_of_mem_take hd) with hd | hd
    · exact spanDigits_lt cs d hd
    · rw [List.eq_of_mem_replicate hd]
      decide
  have hlt := ofDigits_lt hdigits
  have hlength : (((spanDigits asciiDigit? cs).1 ++ List.replicate 6 0).take 6).length = 6 := by
    simp
  rw [hlength] at hlt
  rw [microseconds, second_eq]
  exact_mod_cast hlt

theorem takeFraction?_lt {cs rest : List Char} {found : ℤ}
    (h : takeFraction? cs = some (found, rest)) : 0 ≤ found ∧ found < second := by
  cases cs with
  | nil =>
      obtain ⟨rfl, -⟩ := Prod.mk.inj (Option.some.inj h)
      exact ⟨le_rfl, by decide⟩
  | cons c cs =>
      have hlt := microseconds_lt cs
      rw [takeFraction?] at h
      split_ifs at h with hc
      · split at h
        · cases h
        · rename_i digits rest' _ hspan
          obtain ⟨rfl, -⟩ := Prod.mk.inj (Option.some.inj h)
          rw [hspan] at hlt
          exact ⟨Int.natCast_nonneg _, hlt⟩
      · obtain ⟨rfl, -⟩ := Prod.mk.inj (Option.some.inj h)
        exact ⟨le_rfl, by decide⟩

theorem takeSeconds?_lt {cs rest : List Char} {found : ℤ}
    (h : takeSeconds? cs = some (found, rest)) : 0 ≤ found ∧ found < 60 * second := by
  unfold takeSeconds? at h
  split at h
  · obtain ⟨⟨seconds, cs⟩, hseconds, h⟩ := Option.bind_eq_some_iff.1 h
    have hrange := takeDigits?_lt hseconds
    dsimp only at h
    split_ifs at h with hle
    obtain ⟨⟨fraction, cs⟩, hfraction, h⟩ := Option.bind_eq_some_iff.1 h
    obtain ⟨h0, hlt⟩ := takeFraction?_lt hfraction
    obtain ⟨rfl, -⟩ := Prod.mk.inj (Option.some.inj h)
    rw [second_eq] at *
    constructor <;> omega
  · obtain ⟨rfl, -⟩ := Prod.mk.inj (Option.some.inj h)
    exact ⟨le_rfl, by decide⟩

theorem takeTime?_lt {cs rest : List Char} {time : ℤ} (h : takeTime? cs = some (time, rest)) :
    0 ≤ time ∧ time < day := by
  obtain ⟨⟨hours, cs⟩, hhours, h⟩ := Option.bind_eq_some_iff.1 h
  obtain ⟨cs, -, h⟩ := Option.bind_eq_some_iff.1 h
  obtain ⟨⟨minutes, cs⟩, hminutes, h⟩ := Option.bind_eq_some_iff.1 h
  have hhours0 := (takeDigits?_lt hhours).1
  have hminutes0 := (takeDigits?_lt hminutes).1
  dsimp only at h
  split_ifs at h with hle
  obtain ⟨⟨more, cs⟩, hmore, h⟩ := Option.bind_eq_some_iff.1 h
  obtain ⟨h0, hlt⟩ := takeSeconds?_lt hmore
  obtain ⟨rfl, -⟩ := Prod.mk.inj (Option.some.inj h)
  rw [second_eq] at *
  rw [day_eq]
  constructor <;> omega

theorem readOffset?_lt {sign minutes : ℤ} {cs : List Char} (hsign : sign = 1 ∨ sign = -1)
    (h : readOffset? sign cs = some minutes) : minutes.natAbs < 1440 := by
  obtain ⟨⟨hours, cs⟩, hhours, h⟩ := Option.bind_eq_some_iff.1 h
  obtain ⟨⟨more, cs⟩, hmore, h⟩ := Option.bind_eq_some_iff.1 h
  have hhours0 := (takeDigits?_lt hhours).1
  have hmore0 := (takeDigits?_lt hmore).1
  dsimp only at h
  split_ifs at h with hle
  obtain rfl := Option.some.inj h
  rcases hsign with rfl | rfl <;> omega

theorem readZone?_lt {cs : List Char} {offset : Option ℤ} (h : readZone? cs = some offset) :
    ∀ minutes ∈ offset, minutes.natAbs < 1440 := by
  intro minutes hminutes
  obtain rfl : offset = some minutes := hminutes
  unfold readZone? at h
  split at h
  · cases h
  · cases h
    decide
  · cases h
    decide
  · obtain ⟨m, hm, h⟩ := Option.map_eq_some_iff.1 h
    obtain rfl := Option.some.inj h
    exact readOffset?_lt (Or.inl rfl) hm
  · obtain ⟨m, hm, h⟩ := Option.map_eq_some_iff.1 h
    obtain rfl := Option.some.inj h
    exact readOffset?_lt (Or.inr rfl) hm
  · obtain ⟨m, hm, h⟩ := Option.map_eq_some_iff.1 h
    obtain rfl := Option.some.inj h
    exact readOffset?_lt (Or.inr rfl) hm
  · cases h

/-- A day of the calendar of the years 0 to 9999, and a time in it. -/
theorem since_of_date {d : Date} (h : d.Valid) (hyear : 0 ≤ d.year) (hyear' : d.year < 10000)
    {time : ℤ} (h0 : 0 ≤ time) (hlt : time < day) {offset : Option ℤ}
    (hoffset : ∀ minutes ∈ offset, minutes.natAbs < 1440) :
    Since 0 ⟨d.dayNumber * day + time, offset⟩ := by
  have hstart := (yearStart_mono hyear).trans (yearStart_le_dayNumber h)
  have hend := (dayNumber_lt_yearStart h).trans_le (yearStart_mono (Int.add_one_le_of_lt hyear'))
  rw [day_eq] at *
  refine ⟨?_, ?_, hoffset⟩
  all_goals
    rw [day_eq]
    dsimp only
    omega

theorem since_readDateTime? {cs : List Char} {t : Timestamp} (h : readDateTime? cs = some t) :
    t.Since 0 := by
  obtain ⟨⟨d, cs⟩, hd, h⟩ := Option.bind_eq_some_iff.1 h
  obtain ⟨cs, -, h⟩ := Option.bind_eq_some_iff.1 h
  obtain ⟨⟨time, cs⟩, htime, h⟩ := Option.bind_eq_some_iff.1 h
  obtain ⟨offset, hoffset, h⟩ := Option.bind_eq_some_iff.1 h
  obtain rfl := Option.some.inj h
  obtain ⟨hvalid, hyear, hyear'⟩ := takeDate_valid (toOption_eq_some_iff.1 hd)
  obtain ⟨h0, hlt⟩ := takeTime?_lt htime
  exact since_of_date hvalid hyear hyear' h0 hlt (readZone?_lt hoffset)

theorem since_ofMicroseconds {count : ℤ} {t : Timestamp} (h : ofMicroseconds count = .ok t) :
    t.Since 0 := by
  unfold ofMicroseconds at h
  split_ifs at h with hstart hend
  obtain rfl := Except.ok.inj h
  refine ⟨not_lt.1 hstart, not_le.1 hend, ?_⟩
  intro minutes hminutes
  obtain rfl := Option.some.inj hminutes
  decide

theorem since_ofUnixFloat {x : Float} {t : Timestamp} (h : ofUnixFloat x = .ok t) : t.Since 0 := by
  unfold ofUnixFloat at h
  by_cases hx : x.isNaN = true
  · rw [if_pos hx] at h
    cases h
  · rw [if_neg hx] at h
    split at h
    · cases h
    · exact since_ofMicroseconds h

theorem since_ofDateText {s : String} {t : Timestamp} (h : ofDateText s = .ok t) : t.Since 0 := by
  unfold ofDateText at h
  dsimp only at h
  split at h
  · rename_i d hfound
    obtain rfl := Except.ok.inj h
    split_ifs at hfound
    obtain ⟨hvalid, hyear, hyear'⟩ := takeDate_valid hfound
    have hsince : Since 0 ⟨d.dayNumber * day + 0, none⟩ :=
      since_of_date hvalid hyear hyear' le_rfl (by decide) nofun
    rwa [add_zero] at hsince
  · split at h
    · obtain ⟨t', ht', h⟩ := bind_eq_ok_iff.1 h
      split_ifs at h
      obtain rfl := Except.ok.inj h
      obtain ⟨hge, hlt, -⟩ := since_ofMicroseconds ht'
      exact ⟨hge, hlt, nofun⟩
    · split at h <;> cases h

/-- A timestamp that passes the last check can be written again. -/
theorem valid_of_checked {t t' : Timestamp} (h : t.Since 0) (hchecked : checked t = .ok t') :
    t'.Valid := by
  unfold checked at hchecked
  split_ifs at hchecked with hyear
  obtain rfl := Except.ok.inj hchecked
  obtain ⟨h0, -⟩ := h.year
  obtain ⟨-, hlt, hoffset⟩ := h
  refine ⟨?_, hlt, hoffset⟩
  have hstart := yearStart_le_dayNumber (valid_ofDayNumber (t.wall / day))
  rw [dayNumber_ofDayNumber] at hstart
  have hone := (yearStart_mono (show 1 ≤ t.date.year by omega)).trans hstart
  rw [day_eq] at *
  omega

/-- **A text that is read as a timestamp gives one that can be written.** -/
theorem valid_ofText {s : String} {t : Timestamp} (h : ofText s = .ok t) : t.Valid := by
  unfold ofText at h
  dsimp only at h
  split at h
  · rename_i found hfound
    refine valid_of_checked ?_ (mapError_eq_ok_iff.1 h)
    rcases Option.or_eq_some_iff.1 hfound with hfound | ⟨-, hfound⟩
    · exact since_readDateTime? hfound
    · split at hfound
      · exact since_ofMicroseconds (toOption_eq_some_iff.1 hfound)
      · obtain ⟨x, -, hfound⟩ := Option.bind_eq_some_iff.1 hfound
        exact since_ofUnixFloat (toOption_eq_some_iff.1 hfound)
  · obtain ⟨t', hread, h⟩ := bind_eq_ok_iff.1 h
    exact valid_of_checked (since_ofDateText (mapError_eq_ok_iff.1 hread)) (mapError_eq_ok_iff.1 h)

/-- **A number that is read as a timestamp gives one that can be written.** -/
theorem valid_ofNumber {n : Number} {t : Timestamp} (h : ofNumber n = .ok t) : t.Valid := by
  unfold ofNumber at h
  dsimp only at h
  split at h
  · split_ifs at h
    · obtain ⟨t', ht', h⟩ := bind_eq_ok_iff.1 h
      exact valid_of_checked (since_ofMicroseconds ht') h
    · obtain ⟨t', ht', h⟩ := bind_eq_ok_iff.1 h
      exact valid_of_checked (since_ofUnixFloat ht') h
  · obtain ⟨t', ht', h⟩ := bind_eq_ok_iff.1 h
    exact valid_of_checked (since_ofUnixFloat ht') h

end BehaviorTree.Timestamp
