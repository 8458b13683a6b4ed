import BehaviorTree.Lua.Value
import BehaviorTree.Proofs.Decimal.Numeral
import BehaviorTree.Proofs.Lua.Reading

/-! # The number of a numeral

The numeral of a finite double is read as the double again, but for the sign of zero, which no
numeral shows (`exists_number_numeral`).  A numeral with a point or an exponent is read as a double
at once.  A whole one is read as an integer where it has 64 bits or fewer, and the double of that
integer is the one that was written. -/

namespace BehaviorTree.Lua

open BehaviorTree.Text BehaviorTree.Decimal

/-- A double as its numeral shows it: zero has no sign. -/
def unsignedZero (x : Float) : Float := if x = -0.0 then 0.0 else x

/-! ### Unsigned numerals -/

/-- A numeral with a point or an exponent is a double. -/
theorem numberOf_chars {n : Numeral} (h : n.Proper) :
    numberOf n.chars = .float n.written.toFloat := by
  have hmark : n.chars.all Char.isDigit = false := by
    refine Bool.eq_false_iff.2 fun hall => ?_
    rw [List.all_eq_true] at hall
    obtain ⟨c, hc, rfl | rfl⟩ := h.exists_mark <;> exact absurd (hall _ hc) (by decide)
  simp [numberOf, numberOf?, h.readUnsigned?_chars, hmark]

theorem ne_minus_chars {n : Numeral} (h : n.Proper) (ds : List Char) : n.chars ≠ '-' :: ds := by
  obtain ⟨c, rest, hchars, hdigit⟩ := h.exists_head
  rw [hchars]
  intro he
  exact ne_of_isDigit hdigit (by decide) (List.cons.inj he).1

/-- The number that digits denote as a written one. -/
def wholeNumeral (m : ℕ) : Written := ⟨(Nat.toDigits 10 m).map digitValue, 0, 0⟩

theorem ne_minus_toDigits (m : ℕ) (ds : List Char) : Nat.toDigits 10 m ≠ '-' :: ds :=
  ne_minus (isNumeral_digits (digits_toDigits m) Nat.toDigits_ne_nil) ds

theorem readUnsigned?_toDigits (m : ℕ) :
    readUnsigned? asciiDigit? (Nat.toDigits 10 m) = some (wholeNumeral m) := by
  have hend : ∀ c ∈ ([] : List Char).head?, c.isDigit = false := fun c hc => by cases hc
  have hspan := spanDigits_append (digits_toDigits m) hend
  rw [List.append_nil] at hspan
  simp [readUnsigned?, hspan, Nat.toDigits_ne_nil, wholeNumeral]

/-- Digits are an integer of 64 bits, or else a double. -/
theorem numberOf_toDigits (m : ℕ) :
    numberOf (Nat.toDigits 10 m) =
      if isWord m then .int m else .float (wholeNumeral m).toFloat := by
  have hall : (Nat.toDigits 10 m).all Char.isDigit = true :=
    List.all_eq_true.2 fun c hc => digits_toDigits m c hc
  have hvalue : ofDigits (wholeNumeral m).digits = m := ofDigits_toDigits m
  rw [numberOf, numberOf?, readUnsigned?_toDigits, Option.bind_eq_bind, Option.bind_some]
  simp only [hvalue, hall, true_and]
  split_ifs <;> rfl

/-- **Digits denote a double** if it is the number that they write. -/
theorem doubleOf_numberOf_toDigits {x : Binary} (hx : x.Canonical) {m : ℕ} (hm : x.value = m) :
    Value.doubleOf (numberOf (Nat.toDigits 10 m)) = x.double hx := by
  have hcovers : x.Covers m := hm ▸ hx.covers_value
  rw [numberOf_toDigits]
  split_ifs
  · have hpos : 0 < m := by
      have := hx.significand_pos
      have hvalue : 0 < x.value := by unfold Binary.value; positivity
      rw [hm] at hvalue
      exact_mod_cast hvalue
    exact ofScientific_of_covers hx hpos (by simpa using hcovers)
  · refine Written.toFloat_of_covers hx (digitValue_lt (digits_toDigits m)) ?_
    have hvalue : (wholeNumeral m).value = m := by
      rw [Written.value]
      change ((ofDigits ((Nat.toDigits 10 m).map digitValue) : ℕ) : ℚ) *
        10 ^ ((0 : ℤ) - (0 : ℕ)) = _
      rw [ofDigits_toDigits]
      simp
    rwa [hvalue]

/-! ### Signs -/

theorem ofInt_neg {m : ℕ} (hpos : 0 < m) : Float.ofInt (-m) = -Float.ofInt m := by
  obtain ⟨k, rfl⟩ := Nat.exists_eq_succ_of_ne_zero hpos.ne'
  rfl

/-- The negative of a number other than the integer zero is the negative of its double. -/
theorem doubleOf_negate {n : Number} (h : ∀ k, n = .int k → 0 < k) :
    Value.doubleOf (negate n) = -Value.doubleOf n := by
  cases n with
  | float x => rfl
  | int k =>
      obtain ⟨m, rfl⟩ := Int.eq_ofNat_of_zero_le (h k rfl).le
      exact ofInt_neg (by exact_mod_cast h m rfl)

/-- A numeral with or without a minus in front of its digits. -/
theorem numeralExpr_signed (negative : Bool) {cs : List Char} (h : ∀ ds, cs ≠ '-' :: ds) :
    numeralExpr ((if negative then ['-'] else []) ++ cs) =
      .number (if negative then negate (numberOf cs) else numberOf cs) := by
  cases negative with
  | true => rfl
  | false =>
      rcases numeral_cases cs with ⟨ds, rfl⟩ | ⟨-, hexpr⟩
      · exact absurd rfl (h ds)
      · exact hexpr

/-- The double of a numeral, with its sign. -/
theorem exists_number_signed (negative : Bool) {cs : List Char} (hcs : ∀ ds, cs ≠ '-' :: ds)
    (hpos : ∀ k, numberOf cs = .int k → 0 < k) :
    ∃ n, numeralExpr ((if negative then ['-'] else []) ++ cs) = .number n ∧
      Value.doubleOf n = signed negative (Value.doubleOf (numberOf cs)) := by
  refine ⟨_, numeralExpr_signed negative hcs, ?_⟩
  cases negative with
  | true => exact doubleOf_negate hpos
  | false => rfl

/-! ### The numeral of a double -/

/-- Zero is written without a sign. -/
theorem exists_number_zero (negative : Bool) :
    ∃ n, numeralExpr (numeral (signed negative 0.0)) = .number n ∧
      Value.doubleOf n = unsignedZero (signed negative 0.0) := by
  have hnumeral : numeral (signed negative 0.0) = ['0'] := by
    cases negative <;> decide +kernel
  have hnumber : numberOf ['0'] = .int 0 := by decide
  refine ⟨.int 0, ?_, ?_⟩
  · rw [hnumeral, numeralExpr, hnumber]
    exact fun ds he => absurd (List.cons.inj he).1 (by decide)
  · cases negative <;> decide

/-- A number without a fractional part is its whole part. -/
theorem value_of_isWhole {x : Binary} (h : x.isWhole = true) : x.value = x.whole := by
  have hsplit : x.whole * power 2 (-x.exponent) = x.significand * power 2 x.exponent :=
    Nat.div_mul_cancel (Nat.dvd_of_mod_eq_zero (of_decide_eq_true h))
  have hpower : (power 2 (-x.exponent) : ℚ) ≠ 0 := by
    rw [power_cast]
    positivity
  refine mul_right_cancel₀ hpower ?_
  rw [Binary.value, mul_assoc, ← Nat.cast_ofNat (R := ℚ) (n := 2), zpow_mul_power 2 (by norm_num)]
  exact_mod_cast hsplit.symm

theorem unsignedZero_of_significand {x : Float} (hpos : (Binary.ofBits x.toBits).significand ≠ 0) :
    unsignedZero x = x := by
  refine if_neg ?_
  rintro rfl
  exact hpos (by decide)

/-- A number without a fractional part is written as an integer. -/
theorem exists_number_whole {x : Binary} (hx : x.Canonical) (hwhole : x.isWhole = true)
    (negative : Bool) :
    ∃ n, numeralExpr (ofInt (if negative then -x.whole else x.whole)).toList = .number n ∧
      Value.doubleOf n = signed negative (x.double hx) := by
  have hvalue := value_of_isWhole hwhole
  have hpos : 0 < x.whole := by
    have := hx.significand_pos
    have hpositive : 0 < x.value := by unfold Binary.value; positivity
    rw [hvalue] at hpositive
    exact_mod_cast hpositive
  have hchars : (ofInt (if negative then -x.whole else x.whole)).toList =
      (if negative then ['-'] else []) ++ Nat.toDigits 10 x.whole := by
    rw [toList_ofInt]
    cases negative <;> simp [hpos]
  rw [hchars, ← doubleOf_numberOf_toDigits hx hvalue]
  refine exists_number_signed negative (ne_minus_toDigits x.whole) fun k hk => ?_
  rw [numberOf_toDigits] at hk
  split_ifs at hk
  rw [← Number.int.inj hk]
  exact_mod_cast hpos

/-- **The numeral of a finite double** is read as the double, but for the sign of zero. -/
theorem exists_number_numeral {x : Float} (h : x.isFinite = true) :
    ∃ n, numeralExpr (numeral x) = .number n ∧ Value.doubleOf n = unsignedZero x := by
  by_cases hpos : (Binary.ofBits x.toBits).significand = 0
  · rw [← signed_zero h hpos]
    exact exists_number_zero _
  rw [unsignedZero_of_significand hpos]
  have hmarked : ∃ n, numeralExpr (Layout.script.chars x) = .number n ∧ Value.doubleOf n = x := by
    obtain ⟨numeral, hproper, hchars, hsigned⟩ := Layout.script.exists_numeral h
    have hnumber := numberOf_chars hproper
    obtain ⟨n, hn, hdouble⟩ := exists_number_signed (x.toBits >>> 63 = 1)
      (ne_minus_chars hproper) fun k hk => by rw [hnumber] at hk; cases hk
    rw [hnumber] at hdouble
    refine ⟨n, ?_, hdouble.trans hsigned⟩
    rw [hchars, ← hn]
    simp
  unfold numeral
  split
  · rename_i k hk
    split_ifs with hwhole
    · obtain ⟨n, hn, hdouble⟩ := exists_number_whole (canonical_ofBits h hpos)
        (Bool.and_eq_true_iff.1 hwhole.1).2 (signBit x)
      rw [truncate?, if_pos h] at hk
      rw [← Option.some.inj hk]
      exact ⟨n, hn, hdouble.trans (signed_double h hpos)⟩
    · exact hmarked
  · exact hmarked

end BehaviorTree.Lua
