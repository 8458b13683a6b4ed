import BehaviorTree.Proofs.Decimal.Numeral

/-! # Integers that are doubles

A double has 53 bits, and of the integers in its range those are doubles that are a whole number of
53 bits times a power of two (`FitsDouble`).  The whole part of any double is one of these
(`fitsDouble_of_truncate?`).  The other way round, an integer of this form rounds to itself, so its
digits are read as a double with just this whole part (`truncate?_toFloat`). -/

namespace BehaviorTree.Decimal

open Float.Model Float.Model.UnpackedFloat BehaviorTree.Text

/-! ### Integers of 53 bits -/

/-- An integer is a whole number of 53 bits times a power of two, with a sign. -/
def FitsDouble (n : ℤ) : Prop := ∃ m e : ℕ, m < 2 ^ 53 ∧ n.natAbs = m * 2 ^ e

theorem fitsDouble_of_natAbs_le {n : ℤ} (h : n.natAbs ≤ 2 ^ 53) : FitsDouble n := by
  rcases h.lt_or_eq with hlt | heq
  · exact ⟨n.natAbs, 0, hlt, by rw [pow_zero, mul_one]⟩
  · exact ⟨1, 53, by norm_num, by rw [heq, one_mul]⟩

/-- The canonical form of a whole number of 53 bits times a power of two. -/
def scaledForm (m e : ℕ) : Binary := { wholeForm m with exponent := (wholeForm m).exponent + e }

theorem canonical_scaledForm {m e : ℕ} (hpos : 0 < m) (hlt : m < 2 ^ 53)
    (hsmall : m.log2 + e < 1024) : (scaledForm m e).Canonical := by
  have hx := canonical_wholeForm hpos hlt
  have hexponent : (scaledForm m e).exponent = (m.log2 : ℤ) - 52 + e := rfl
  have hsame : (scaledForm m e).significand = (wholeForm m).significand := rfl
  have hnormal : 2 ^ 52 ≤ (wholeForm m).significand := hx.normal.resolve_left (by
    simp only [wholeForm]
    omega)
  refine ⟨hx.significand_pos, hx.significand_lt, ?_, ?_, Or.inr hnormal, ?_⟩
  · omega
  · omega
  · have hnarrow : (scaledForm m e).narrowBelow = decide ((wholeForm m).significand = 2 ^ 52) := rfl
    rw [hnarrow, hsame, decide_eq_true_iff]
    omega

theorem value_scaledForm {m : ℕ} (hpos : 0 < m) (hlt : m < 2 ^ 53) (e : ℕ) :
    (scaledForm m e).value = (m * 2 ^ e : ℕ) := by
  have hvalue := value_wholeForm hpos hlt
  unfold Binary.value at hvalue ⊢
  have hexponent : (scaledForm m e).exponent = (wholeForm m).exponent + e := rfl
  have hsame : (scaledForm m e).significand = (wholeForm m).significand := rfl
  rw [hexponent, hsame, zpow_add₀ (by norm_num), ← mul_assoc, hvalue, zpow_natCast]
  push_cast
  rfl

/-- A double whose number is a natural number has it for its whole part. -/
theorem Binary.whole_of_value {x : Binary} {n : ℕ} (h : x.value = n) :
    x.whole = n ∧ x.isWhole = true := by
  have hpower : 0 < power 2 (-x.exponent) := Nat.pow_pos (by decide)
  have hsplit : x.significand * power 2 x.exponent = n * power 2 (-x.exponent) := by
    have hmul : x.value * power 2 (-x.exponent) = n * power 2 (-x.exponent) := by rw [h]
    rw [Binary.value, mul_assoc, ← Nat.cast_ofNat (R := ℚ) (n := 2),
      zpow_mul_power 2 (by norm_num)] at hmul
    exact_mod_cast hmul
  unfold Binary.whole Binary.isWhole
  rw [hsplit]
  exact ⟨Nat.mul_div_cancel _ hpower, decide_eq_true (Nat.mul_mod_left _ _)⟩

/-! ### The whole part of a double -/

/-- The bits of a double tell its sign and its number. -/
theorem parts_of_unpack {x : Float} {negative : Bool} {m : ℕ} {e : ℤ} {hm : 0 < m}
    (h : x.toModel.unpack = .finite (if negative then .negative else .positive) m e hm) :
    x.isFinite = true ∧ signBit x = negative ∧
      (Binary.ofBits x.toBits).value = m * 2 ^ e := by
  have hfinite : x.isFinite = true := by
    change x.toModel.unpack.isFinite = true
    rw [h]
    rfl
  have hunpack := unpack_of_isFinite hfinite
  rw [h] at hunpack
  by_cases hzero : (Binary.ofBits x.toBits).significand = 0
  · rw [dif_pos hzero] at hunpack
    cases hunpack
  · rw [dif_neg hzero] at hunpack
    obtain ⟨hsign, rfl, rfl⟩ := UnpackedFloat.finite.inj hunpack
    refine ⟨hfinite, ?_, rfl⟩
    rw [signField_eq] at hsign
    unfold signBit
    by_cases hbit : x.toBits >>> 63 = 1
    · rw [if_pos hbit] at hsign
      cases negative <;> simp_all
    · rw [if_neg hbit] at hsign
      cases negative <;> simp_all

theorem unpack_signed_double {x : Binary} (hx : x.Canonical) (negative : Bool) :
    (signed negative (x.double hx)).toModel.unpack =
      .finite (if negative then .negative else .positive) x.significand x.exponent
        hx.significand_pos := by
  cases negative with
  | false => exact unpack_pack hx .positive
  | true =>
      change (Float.Model.pack (Float.Model.pack (.finite .positive _ _ _)).unpack.neg).unpack = _
      rw [unpack_pack hx]
      exact unpack_pack hx .negative

/-- **A double that is an integer** is whole, and its whole part is the integer. -/
theorem truncate?_signed_double {x : Binary} (hx : x.Canonical) {n : ℕ} (hn : x.value = n)
    (negative : Bool) :
    isWhole (signed negative (x.double hx)) = true ∧
      truncate? (signed negative (x.double hx)) = some (if negative then -(n : ℤ) else n) := by
  obtain ⟨hfinite, hsign, hvalue⟩ := parts_of_unpack (unpack_signed_double hx negative)
  obtain ⟨hwhole, hexact⟩ := Binary.whole_of_value (hvalue.trans hn)
  constructor
  · rw [isWhole, hfinite, hexact]
    rfl
  · rw [truncate?, if_pos hfinite, hsign, hwhole]

/-- The whole part of a number with 53 bits has 53 bits. -/
theorem Binary.exists_whole_eq {x : Binary} (hlt : x.significand < 2 ^ 53) :
    ∃ m e : ℕ, m < 2 ^ 53 ∧ x.whole = m * 2 ^ e := by
  rw [Binary.whole]
  rcases le_or_gt 0 x.exponent with hexponent | hexponent
  · have hpower : power 2 (-x.exponent) = 1 := power_of_nonpos 2 (by omega)
    exact ⟨x.significand, x.exponent.toNat, hlt, by rw [hpower, Nat.div_one]; rfl⟩
  · have hpower : power 2 x.exponent = 1 := power_of_nonpos 2 hexponent.le
    refine ⟨x.significand / power 2 (-x.exponent), 0, ?_,
      by rw [hpower, mul_one, pow_zero, mul_one]⟩
    exact (Nat.div_le_self _ _).trans_lt hlt

/-- **The whole part of a double is a double.** -/
theorem fitsDouble_of_truncate? {x : Float} {n : ℤ} (h : truncate? x = some n) : FitsDouble n := by
  unfold truncate? at h
  split at h
  · rename_i hfinite
    have habs : n.natAbs = (Binary.ofBits x.toBits).whole := by
      rw [← Option.some.inj h]
      split_ifs <;> simp
    have hlt : (Binary.ofBits x.toBits).significand < 2 ^ 53 := by
      by_cases hzero : (Binary.ofBits x.toBits).significand = 0
      · omega
      · exact (canonical_ofBits hfinite hzero).significand_lt
    rw [FitsDouble, habs]
    exact Binary.exists_whole_eq hlt
  · cases h

theorem Binary.Canonical.whole_lt {x : Binary} (hx : x.Canonical) :
    x.whole < 2 ^ (53 + x.exponent.toNat) := by
  calc x.whole ≤ x.significand * power 2 x.exponent := Nat.div_le_self _ _
    _ < 2 ^ 53 * power 2 x.exponent :=
      Nat.mul_lt_mul_of_pos_right hx.significand_lt (Nat.two_pow_pos _)
    _ = 2 ^ (53 + x.exponent.toNat) := (pow_add 2 53 _).symm

/-- The whole part of a double is in its range. -/
theorem exists_lt_of_truncate? {x : Float} {n : ℤ} (h : truncate? x = some n) :
    ∃ e ≤ 971, n.natAbs < 2 ^ (53 + e) := by
  unfold truncate? at h
  split at h
  · rename_i hfinite
    have habs : n.natAbs = (Binary.ofBits x.toBits).whole := by
      rw [← Option.some.inj h]
      split_ifs <;> simp
    rw [habs]
    by_cases hzero : (Binary.ofBits x.toBits).significand = 0
    · refine ⟨0, Nat.zero_le _, ?_⟩
      rw [Binary.whole, hzero, Nat.zero_mul, Nat.zero_div]
      exact Nat.two_pow_pos _
    · have hx := canonical_ofBits hfinite hzero
      exact ⟨_, by have := hx.exponent_le; omega, hx.whole_lt⟩
  · cases h

/-- **An integer that is a double** is read as itself. -/
theorem truncate?_toFloat {ds : List ℕ} (hds : ∀ d ∈ ds, d < 10) (hsmall : ofDigits ds < 10 ^ 21)
    (hfits : FitsDouble (ofDigits ds)) (negative : Bool) :
    isWhole (signed negative (Written.toFloat ⟨ds, 0, 0⟩)) = true ∧
      truncate? (signed negative (Written.toFloat ⟨ds, 0, 0⟩)) =
        some (if negative then -(ofDigits ds : ℤ) else ofDigits ds) := by
  obtain ⟨m, e, hlt, hvalue⟩ := hfits
  rw [Int.natAbs_natCast] at hvalue
  rcases Nat.eq_zero_or_pos m with rfl | hpos
  · have hzero : ofDigits ds = 0 := by rw [hvalue, zero_mul]
    rw [Written.toFloat_of_value_eq_zero hzero, hzero]
    cases negative <;> decide +kernel
  · have hlog : m.log2 + e < 70 := by
      refine (Nat.pow_lt_pow_iff_right (by decide : 1 < 2)).1 ?_
      calc 2 ^ (m.log2 + e) = 2 ^ m.log2 * 2 ^ e := pow_add 2 _ _
        _ ≤ m * 2 ^ e := Nat.mul_le_mul_right _ (Nat.log2_self_le hpos.ne')
        _ < 10 ^ 21 := hvalue ▸ hsmall
        _ ≤ 2 ^ 70 := by norm_num
    have hx := canonical_scaledForm hpos hlt (hlog.trans (by norm_num))
    have hnumber : (scaledForm m e).value = (ofDigits ds : ℕ) := by
      rw [value_scaledForm hpos hlt, hvalue]
    have hwritten : Written.value ⟨ds, 0, 0⟩ = (scaledForm m e).value := by
      rw [hnumber]
      simp [Written.value]
    rw [Written.toFloat_of_covers hx hds (hwritten ▸ hx.covers_value)]
    exact truncate?_signed_double hx hnumber negative

theorem isFinite_of_isWhole {x : Float} (h : isWhole x = true) : x.isFinite = true :=
  (Bool.and_eq_true_iff.1 h).1

end BehaviorTree.Decimal
