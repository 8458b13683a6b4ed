import BehaviorTree.Decimal.Layout
import BehaviorTree.Proofs.Decimal.Defined
import BehaviorTree.Proofs.Decimal.ReadsBack

/-! # The numeral of a double

A numeral by its parts, and the numeral that either layout makes of a finite double.  It denotes a
decimal that rounds to the double, so a reader of numerals finds the double in it again
(`Layout.exists_numeral`). -/

namespace BehaviorTree.Decimal

open Float.Model Float.Model.UnpackedFloat BehaviorTree.Text

/-- A numeral by its parts: the digits before and behind the point, and the sign and the digits of
the exponent.  Without digits behind it there is no point. -/
structure Numeral where
  whole : List Char
  fraction : List Char := []
  power : Option (Bool × List Char) := none

namespace Numeral

/-- The point and what follows it. -/
def point (n : Numeral) : List Char := if n.fraction.isEmpty then [] else '.' :: n.fraction

/-- The sign of an exponent. -/
def signChar (negative : Bool) : Char := if negative then '-' else '+'

/-- The mark of the exponent and what follows it. -/
def mark (n : Numeral) : List Char :=
  match n.power with
  | none => []
  | some (negative, ds) => 'e' :: signChar negative :: ds

/-- The characters of a numeral. -/
def chars (n : Numeral) : List Char := n.whole ++ (n.point ++ n.mark)

/-- The exponent of a numeral. -/
def exponent (n : Numeral) : ℤ :=
  match n.power with
  | none => 0
  | some (negative, ds) =>
    if negative then -(ofDigits (ds.map digitValue) : ℤ) else ofDigits (ds.map digitValue)

/-- What a numeral says. -/
def written (n : Numeral) : Written :=
  ⟨(n.whole ++ n.fraction).map digitValue, n.fraction.length, n.exponent⟩

theorem value_written (n : Numeral) :
    n.written.value = (ofDigits ((n.whole ++ n.fraction).map digitValue) : ℕ) *
      10 ^ (n.exponent - n.fraction.length) := rfl

/-- The form of a number that is no integer: digits before the point, without a leading zero unless
it stands alone, and a fraction or an exponent. -/
structure Proper (n : Numeral) : Prop where
  whole_digits : Digits n.whole
  whole_ne_nil : n.whole ≠ []
  whole_head : n.whole = ['0'] ∨ n.whole.head? ≠ some '0'
  fraction_digits : Digits n.fraction
  power_digits : ∀ p ∈ n.power, Digits p.2 ∧ p.2 ≠ []
  marked : n.fraction ≠ [] ∨ n.power.isSome = true

namespace Proper

variable {n : Numeral}

theorem digits_lt (h : n.Proper) : ∀ d ∈ n.written.digits, d < 10 :=
  digitValue_lt (h.whole_digits.append h.fraction_digits)

/-- It starts with a digit. -/
theorem exists_head (h : n.Proper) : ∃ d rest, n.chars = d :: rest ∧ d.isDigit = true := by
  obtain ⟨d, rest, hwhole⟩ := List.exists_cons_of_ne_nil h.whole_ne_nil
  refine ⟨d, rest ++ (n.point ++ n.mark), ?_, h.whole_digits d (by simp [hwhole])⟩
  rw [Numeral.chars, hwhole, List.cons_append]

/-- There is a point or an exponent. -/
theorem exists_mark (h : n.Proper) : ∃ c ∈ n.chars, c = '.' ∨ c = 'e' := by
  rcases h.marked with hfraction | hpower
  · exact ⟨'.', by simp [Numeral.chars, Numeral.point, hfraction], Or.inl rfl⟩
  · obtain ⟨p, hp⟩ := Option.isSome_iff_exists.1 hpower
    exact ⟨'e', by simp [Numeral.chars, Numeral.mark, hp], Or.inr rfl⟩

/-- No digit follows the fraction. -/
theorem head_mark (n : Numeral) {rest : List Char} (hr : ∀ c ∈ rest.head?, c.isDigit = false) :
    ∀ c ∈ (n.mark ++ rest).head?, c.isDigit = false := by
  unfold mark
  cases n.power with
  | none => exact hr
  | some p =>
      intro c hc
      obtain rfl := Option.some.inj hc
      rfl

/-- No digit follows the digits before the point. -/
theorem head_point (n : Numeral) {rest : List Char} (hr : ∀ c ∈ rest.head?, c.isDigit = false) :
    ∀ c ∈ (n.point ++ (n.mark ++ rest)).head?, c.isDigit = false := by
  unfold point
  split_ifs
  · exact head_mark n hr
  · intro c hc
    obtain rfl := Option.some.inj hc
    rfl

theorem readExponent?_power (h : n.Proper) {negative : Bool} {ds : List Char}
    (hp : n.power = some (negative, ds)) :
    readExponent? asciiDigit? (signChar negative :: ds) = some n.exponent := by
  obtain ⟨hd, hne⟩ := h.power_digits _ hp
  have hsign : takeSign (signChar negative :: ds) = (negative, ds) := by cases negative <;> rfl
  have hempty : (ds.map digitValue).isEmpty = false := by simpa using hne
  simp [readExponent?, hsign, allDigits?_digits hd, hne, exponent, hp]

/-- **A numeral is read as what it says.** -/
theorem readUnsigned?_chars (h : n.Proper) : readUnsigned? asciiDigit? n.chars = some n.written := by
  have hnone : ∀ c ∈ ([] : List Char).head?, c.isDigit = false := fun c hc => by cases hc
  have hwhole := spanDigits_append h.whole_digits (head_point n hnone)
  have hfraction := spanDigits_append h.fraction_digits (head_mark n hnone)
  rw [List.append_nil] at hwhole hfraction
  have hne : (n.whole.map digitValue).isEmpty = false := by simpa using h.whole_ne_nil
  unfold readUnsigned? chars
  rw [hwhole]
  simp only [hne, Bool.false_and, Bool.false_eq_true, if_false]
  by_cases hempty : n.fraction = []
  · have hpoint : n.point = [] := by simp [point, hempty]
    rw [hpoint]
    cases hp : n.power with
    | none =>
        have hmark : n.mark = [] := by rw [mark, hp]
        simp [hmark, written, exponent, hp, hempty]
    | some p =>
        obtain ⟨negative, ds⟩ := p
        have hmark : n.mark = 'e' :: signChar negative :: ds := by rw [mark, hp]
        simp [hmark, h.readExponent?_power hp, written, hempty]
  · have hpoint : n.point = '.' :: n.fraction := by simp [point, hempty]
    rw [hpoint, List.cons_append]
    simp only [hfraction]
    cases hp : n.power with
    | none =>
        have hmark : n.mark = [] := by rw [mark, hp]
        simp [hmark, written, exponent, hp]
    | some p =>
        obtain ⟨negative, ds⟩ := p
        have hmark : n.mark = 'e' :: signChar negative :: ds := by rw [mark, hp]
        simp [hmark, h.readExponent?_power hp, written]

end Proper
end Numeral

/-! ### Arranging digits -/

/-- The digits of a number do not start with a zero, unless the number is zero. -/
theorem head?_toDigits {n : ℕ} (h : n ≠ 0) : (Nat.toDigits 10 n).head? ≠ some '0' := by
  intro hhead
  obtain ⟨rest, hrest⟩ : ∃ rest, Nat.toDigits 10 n = '0' :: rest := by
    cases hds : Nat.toDigits 10 n with
    | nil => exact absurd hds Nat.toDigits_ne_nil
    | cons c rest =>
        rw [hds] at hhead
        exact ⟨rest, by rw [Option.some.inj hhead]⟩
  have hvalue := ofDigits_toDigits n
  have hdigits := digitValue_lt (digits_toDigits n)
  rw [hrest, List.map_cons, ofDigits_cons, show digitValue '0' = 0 from rfl, zero_mul,
    zero_add] at hvalue
  rw [hrest] at hdigits
  have hlt := ofDigits_lt fun d hd => hdigits d (List.mem_cons_of_mem _ hd)
  rw [hvalue, List.length_map] at hlt
  rcases Nat.eq_zero_or_pos rest.length with hzero | hpos
  · rw [hzero] at hlt
    omega
  · have hlength := (Nat.length_toDigits_le_iff (b := 10) (by norm_num) hpos).2 hlt
    rw [hrest, List.length_cons] at hlength
    omega

theorem exists_numeral_positional {digits : ℕ} (h : digits ≠ 0) (before : ℤ) :
    ∃ n : Numeral, n.Proper ∧ n.chars = positional (Nat.toDigits 10 digits) before ∧
      n.written.value = digits * 10 ^ (before - (Nat.toDigits 10 digits).length) := by
  have hdigits := digits_toDigits digits
  have hhead := head?_toDigits h
  have hvalue := ofDigits_toDigits digits
  have hne : Nat.toDigits 10 digits ≠ [] := Nat.toDigits_ne_nil
  generalize Nat.toDigits 10 digits = ds at *
  unfold positional
  split_ifs with hzero hlong
  · -- All digits stand behind the point.
    have hlength : ((List.replicate (-before).toNat '0' ++ ds).length : ℤ) = ds.length - before := by
      rw [List.length_append, List.length_replicate]
      omega
    refine ⟨⟨['0'], List.replicate (-before).toNat '0' ++ ds, none⟩,
      ⟨digits_replicate_zero 1, by simp, Or.inl rfl, (digits_replicate_zero _).append hdigits,
        by simp, by simp [hne]⟩, by simp [Numeral.chars, Numeral.point, Numeral.mark, hne], ?_⟩
    change ((ofDigits ((List.replicate 1 '0' ++ (List.replicate (-before).toNat '0' ++ ds)).map
      digitValue) : ℕ) : ℚ) * 10 ^ ((0 : ℤ) - (List.replicate (-before).toNat '0' ++ ds).length) = _
    rw [ofDigits_zeros_append, ofDigits_zeros_append, hvalue, hlength, zero_sub, neg_sub]
  · -- All digits stand before the point.
    have hdigits' := hdigits.append (digits_replicate_zero (before.toNat - ds.length))
    refine ⟨⟨ds ++ List.replicate (before.toNat - ds.length) '0', ['0'], none⟩,
      ⟨hdigits', by simp [hne], Or.inr ?_, digits_replicate_zero 1, by simp, by simp⟩,
      by simp [Numeral.chars, Numeral.point, Numeral.mark], ?_⟩
    · rwa [List.head?_append_of_ne_nil _ hne]
    · change ((ofDigits (((ds ++ List.replicate (before.toNat - ds.length) '0') ++
        List.replicate 1 '0').map digitValue) : ℕ) : ℚ) * 10 ^ ((0 : ℤ) - 1) = _
      have hexponent : before - ds.length = ((before.toNat - ds.length : ℕ) : ℤ) := by omega
      rw [ofDigits_append_zeros, ofDigits_append_zeros, hvalue, hexponent, zpow_natCast]
      push_cast
      norm_num
      ring
  · -- The point stands among the digits.
    refine ⟨⟨ds.take before.toNat, ds.drop before.toNat, none⟩,
      ⟨fun c hc => hdigits c (List.mem_of_mem_take hc), ?_, Or.inr ?_,
        fun c hc => hdigits c (List.mem_of_mem_drop hc), by simp, Or.inl ?_⟩, ?_, ?_⟩
    · simp only [ne_eq, List.take_eq_nil_iff, hne, or_false]
      omega
    · rwa [List.head?_take, if_neg (by omega)]
    · simpa using hlong
    · have : ds.drop before.toNat ≠ [] := by simpa using hlong
      simp [Numeral.chars, Numeral.point, Numeral.mark, this]
    · change ((ofDigits ((ds.take before.toNat ++ ds.drop before.toNat).map digitValue) : ℕ) : ℚ) *
        10 ^ ((0 : ℤ) - (ds.drop before.toNat).length) = _
      rw [List.take_append_drop, hvalue, List.length_drop]
      congr 2
      omega

theorem exists_numeral_scientific (width : ℕ) {digits : ℕ} (h : digits ≠ 0) (exponent : ℤ) :
    ∃ n : Numeral, n.Proper ∧
      n.chars = scientific width (Nat.toDigits 10 digits) exponent ∧
      n.written.value = digits * 10 ^ (exponent - (Nat.toDigits 10 digits).length + 1) := by
  have hdigits := digits_toDigits digits
  have hhead := head?_toDigits h
  have hvalue := ofDigits_toDigits digits
  have hne : Nat.toDigits 10 digits ≠ [] := Nat.toDigits_ne_nil
  generalize Nat.toDigits 10 digits = ds at *
  obtain ⟨first, rest, rfl⟩ := List.exists_cons_of_ne_nil hne
  have hpower : ∀ fraction : List Char, (Numeral.mk [first] fraction
      (some (decide (exponent < 0), (padded width exponent.natAbs).toList))).exponent = exponent := by
    intro fraction
    simp only [Numeral.exponent, ofDigits_padded, decide_eq_true_eq]
    split_ifs <;> omega
  refine ⟨⟨[first], rest, some (decide (exponent < 0), (padded width exponent.natAbs).toList)⟩,
    ⟨fun c hc => hdigits c (List.mem_cons.2 (Or.inl (List.mem_singleton.1 hc))), by simp, Or.inr hhead,
      fun c hc => hdigits c (List.mem_cons_of_mem _ hc), ?_, Or.inr rfl⟩, ?_, ?_⟩
  · intro p hp
    rw [← Option.some.inj hp]
    dsimp only
    exact ⟨digits_padded width exponent.natAbs, padded_ne_nil width exponent.natAbs⟩
  · cases rest <;>
      simp [Numeral.chars, Numeral.point, Numeral.mark, Numeral.signChar, scientific]
  · rw [Numeral.value_written, hpower, List.singleton_append, hvalue, List.length_cons]
    congr 2
    push_cast
    ring

/-- **An arrangement of digits is a numeral of the decimal.** -/
theorem Layout.exists_numeral_arrange (layout : Layout) {d : Decimal} (h : d.digits ≠ 0) :
    ∃ n : Numeral, n.Proper ∧ n.chars = layout.arrange d ∧ n.written.value = d.value := by
  unfold Layout.arrange Decimal.value
  dsimp only
  rw [if_neg h]
  split_ifs
  · obtain ⟨n, hn, hchars, hvalue⟩ := exists_numeral_positional h
      (d.exponent + (Nat.toDigits 10 d.digits).length - 1 + 1)
    refine ⟨n, hn, hchars, ?_⟩
    rw [hvalue]
    congr 2
    ring
  · obtain ⟨n, hn, hchars, hvalue⟩ := exists_numeral_scientific layout.exponentWidth h
      (d.exponent + (Nat.toDigits 10 d.digits).length - 1)
    refine ⟨n, hn, hchars, ?_⟩
    rw [hvalue]
    congr 2
    ring

/-- A double without a significand is zero, with its sign. -/
theorem signed_zero {x : Float} (h : x.isFinite = true)
    (hzero : (Binary.ofBits x.toBits).significand = 0) : signed (x.toBits >>> 63 = 1) 0.0 = x := by
  have hunpack := unpack_of_isFinite h
  rw [dif_pos hzero, signField_eq] at hunpack
  refine Eq.trans ?_ (eq_ofModel_pack _).symm
  rw [hunpack]
  split_ifs with hneg
  · rw [decide_eq_true hneg]
    decide
  · rw [decide_eq_false hneg]
    decide

/-- A double is that of its canonical form, with its sign. -/
theorem signed_double {x : Float} (h : x.isFinite = true)
    (hpos : (Binary.ofBits x.toBits).significand ≠ 0) :
    signed (x.toBits >>> 63 = 1) ((Binary.ofBits x.toBits).double (canonical_ofBits h hpos)) = x := by
  have hunpack := unpack_of_isFinite h
  have hx := canonical_ofBits h hpos
  rw [dif_neg hpos, signField_eq] at hunpack
  refine Eq.trans ?_ (eq_ofModel_pack _).symm
  rw [hunpack]
  split_ifs with hneg
  · rw [decide_eq_true hneg]
    change Float.ofModel (.pack (Float.Model.pack (.finite .positive _ _ _)).unpack.neg) = _
    rw [unpack_pack hx]
    rfl
  · rw [decide_eq_false hneg]
    rfl

/-- **The numeral of a finite double denotes the double.** -/
theorem Layout.exists_numeral (layout : Layout) {x : Float} (h : x.isFinite = true) :
    ∃ n : Numeral, n.Proper ∧
      layout.chars x = (if x.toBits >>> 63 = 1 then ['-'] else []) ++ n.chars ∧
      signed (x.toBits >>> 63 = 1) n.written.toFloat = x := by
  have hchars : layout.chars x = (if x.toBits >>> 63 = 1 then ['-'] else []) ++
      layout.arrange (Binary.ofBits x.toBits).shortest := by
    simp only [Layout.chars, isNaN_of_isFinite h, isInf_of_isFinite h, Bool.false_eq_true, if_false]
    split_ifs <;> rfl
  by_cases hzero : (Binary.ofBits x.toBits).significand = 0
  · have hshortest : (Binary.ofBits x.toBits).shortest = ⟨0, 0⟩ := by
      rw [Binary.shortest, if_pos hzero]
    refine ⟨⟨['0'], ['0'], none⟩, ⟨digits_replicate_zero 1, by simp, Or.inl rfl,
      digits_replicate_zero 1, by simp, by simp⟩, ?_, ?_⟩
    · rw [hchars, hshortest]
      rfl
    · rw [Written.toFloat_of_value_eq_zero (by rfl)]
      exact signed_zero h hzero
  · have hx := canonical_ofBits h hzero
    have hcovers := Binary.covers_shortest hx
    have hdigits : (Binary.ofBits x.toBits).shortest.digits ≠ 0 := by
      intro hdigits
      have hlow := hcovers.ge_least hx
      rw [Decimal.value, hdigits, Nat.cast_zero, zero_mul] at hlow
      exact absurd hlow (not_le.2 (by positivity))
    obtain ⟨n, hn, harrange, hvalue⟩ := layout.exists_numeral_arrange hdigits
    refine ⟨n, hn, by rw [hchars, harrange], ?_⟩
    rw [Written.toFloat_of_covers hx hn.digits_lt (by rwa [hvalue])]
    exact signed_double h hzero

end BehaviorTree.Decimal
