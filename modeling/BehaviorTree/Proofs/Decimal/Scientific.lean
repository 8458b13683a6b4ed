import BehaviorTree.Decimal.Reader
import BehaviorTree.Proofs.Decimal.Packing
import BehaviorTree.Proofs.Text.Digits
import Mathlib.Tactic.FieldSimp

/-! # The double nearest to a decimal

A numeral that rounds to a double is read as that double (`Written.toFloat_of_covers`): products and
quotients are rounded once, and the factors are exact, be it that the decimal is short enough for
arithmetic on doubles (`ofScientific_short`) or that it is multiplied out (`ofScientific_long`). -/

namespace BehaviorTree.Decimal

open Float.Model Float.Model.UnpackedFloat BehaviorTree.Text

variable {x : Binary} {v : ℚ}

/-! ### Operations -/

/-- A mantissa with all bits of a double is fine enough for rounding. -/
theorem le_roundingExponent {m : ℕ} (h : 2 ^ 52 ≤ m) (e : ℤ) : e ≤ roundingExponent m e := by
  have hpos : m ≠ 0 := (lt_of_lt_of_le (by positivity) h).ne'
  have hlog : 52 ≤ m.log2 := (Nat.le_log2 hpos).2 h
  rw [roundingExponent_eq]
  omega

/-- The number of a product. -/
theorem mul_value (m n : ℕ) (d e : ℤ) :
    (m : ℚ) * 2 ^ d * (n * 2 ^ e) = (m * n : ℕ) * 2 ^ (d + e) := by
  rw [zpow_add₀ (by norm_num)]
  push_cast
  ring

/-- A product that rounds to a double is that double, if it has bits enough. -/
theorem mul_of_covers (hx : x.Canonical) {m n : ℕ} {d e : ℤ} (hm : 0 < m) (hn : 0 < n)
    (hv : x.Covers (m * 2 ^ d * (n * 2 ^ e))) (he : d + e ≤ roundingExponent (m * n) (d + e)) :
    UnpackedFloat.mul .binary64 (.finite .positive m d hm) (.finite .positive n e hn) =
      .finite .positive x.significand x.exponent hx.significand_pos := by
  rw [mul_value] at hv
  exact roundWithAccuracy_of_covers hx hv _ (approximates_exact _ _) he

/-- The exponent of a quotient is fine enough for rounding. -/
theorem le_roundingExponent_div {m n : ℕ} (hm : 0 < m) (hn : 0 < n) {d e t : ℤ}
    (ht : t ≤ d - e)
    (ht' : t ≤ Format.binary64.targetExponent (totalExponent m d - totalExponent n e)) :
    t ≤ roundingExponent (m <<< (d - e - t).toNat / n) t := by
  have hshift : ((d - e - t).toNat : ℤ) = d - e - t := Int.toNat_of_nonneg (by omega)
  generalize (d - e - t).toNat = s at hshift
  have htarget : t ≤ max ((m.log2 : ℤ) + d - (n.log2 + e) - 53) (-1074) := by
    simp only [Format.targetExponent, totalExponent, Format.mantissaBits, Format.minExponent] at ht'
    norm_num at ht'
    omega
  rw [roundingExponent_eq]
  -- The quotient has at least as many bits as the difference of the bits says, less one.
  by_cases hbits : m.log2 + s < n.log2 + 1
  · omega
  · have hle : 2 ^ (m.log2 + s - (n.log2 + 1)) ≤ m <<< s / n := by
      rw [Nat.le_div_iff_mul_le hn, Nat.shiftLeft_eq]
      calc 2 ^ (m.log2 + s - (n.log2 + 1)) * n
          ≤ 2 ^ (m.log2 + s - (n.log2 + 1)) * 2 ^ (n.log2 + 1) :=
            Nat.mul_le_mul_left _ Nat.lt_log2_self.le
        _ = 2 ^ m.log2 * 2 ^ s := by
            rw [← pow_add, ← pow_add]
            congr 1
            omega
        _ ≤ m * 2 ^ s := Nat.mul_le_mul_right _ (Nat.log2_self_le hm.ne')
    have hlog : m.log2 + s - (n.log2 + 1) ≤ (m <<< s / n).log2 := by
      refine (Nat.le_log2 ?_).2 hle
      exact (lt_of_lt_of_le (by positivity) hle).ne'
    omega

/-- A quotient that rounds to a double is that double. -/
theorem div_of_covers (hx : x.Canonical) {m n : ℕ} {d e : ℤ} (hm : 0 < m) (hn : 0 < n)
    (hv : x.Covers (m * 2 ^ d / (n * 2 ^ e))) :
    UnpackedFloat.div .binary64 (.finite .positive m d hm) (.finite .positive n e hn) =
      .finite .positive x.significand x.exponent hx.significand_pos := by
  change roundWithAccuracy .binary64 .positive
    (m <<< (d - e - min (d - e) (Format.binary64.targetExponent
      (totalExponent m d - totalExponent n e))).toNat / n)
    (min (d - e) (Format.binary64.targetExponent (totalExponent m d - totalExponent n e)))
    (accuracyOfFraction (m <<< (d - e - min (d - e) (Format.binary64.targetExponent
      (totalExponent m d - totalExponent n e))).toNat % n) n) = _
  have hle := min_le_left (d - e)
    (Format.binary64.targetExponent (totalExponent m d - totalExponent n e))
  have hle' := min_le_right (d - e)
    (Format.binary64.targetExponent (totalExponent m d - totalExponent n e))
  generalize min (d - e) (Format.binary64.targetExponent
    (totalExponent m d - totalExponent n e)) = t at *
  have hnq : (n : ℚ) ≠ 0 := by exact_mod_cast hn.ne'
  have hvalue : (m : ℚ) * 2 ^ d / (n * 2 ^ e) =
      ((m <<< (d - e - t).toNat : ℕ) : ℚ) / n * 2 ^ t := by
    have hpow : (2 : ℚ) ^ (d - e - t).toNat = 2 ^ d / 2 ^ e / 2 ^ t := by
      rw [← zpow_natCast, Int.toNat_of_nonneg (by omega), zpow_sub₀ (by norm_num),
        zpow_sub₀ (by norm_num)]
    rw [Nat.shiftLeft_eq]
    push_cast
    rw [hpow]
    field_simp
  rw [hvalue] at hv
  exact roundWithAccuracy_of_covers hx hv _ (approximates_fraction _ hn _)
    (le_roundingExponent_div hm hn hle hle')

/-! ### Exact factors -/

/-- The canonical form of a natural number below `2 ^ 53`. -/
def wholeForm (n : ℕ) : Binary where
  significand := n <<< (52 - n.log2)
  exponent := (n.log2 : ℤ) - 52
  narrowBelow := n <<< (52 - n.log2) = 2 ^ 52

theorem canonical_wholeForm {n : ℕ} (hpos : 0 < n) (hlt : n < 2 ^ 53) :
    (wholeForm n).Canonical := by
  have hlog : n.log2 ≤ 52 := Nat.lt_succ_iff.1 ((Nat.log2_lt hpos.ne').2 hlt)
  have hlow : 2 ^ 52 ≤ n <<< (52 - n.log2) := by
    rw [Nat.shiftLeft_eq]
    calc 2 ^ 52 = 2 ^ n.log2 * 2 ^ (52 - n.log2) := by rw [← pow_add]; congr 1; omega
      _ ≤ _ := Nat.mul_le_mul_right _ (Nat.log2_self_le hpos.ne')
  have hhigh : n <<< (52 - n.log2) < 2 ^ 53 := by
    rw [Nat.shiftLeft_eq]
    calc n * 2 ^ (52 - n.log2) < 2 ^ (n.log2 + 1) * 2 ^ (52 - n.log2) :=
          Nat.mul_lt_mul_of_pos_right Nat.lt_log2_self (by positivity)
      _ = 2 ^ 53 := by rw [← pow_add]; congr 1; omega
  refine ⟨lt_of_lt_of_le (by positivity) hlow, hhigh, ?_, ?_, Or.inr hlow, ?_⟩ <;>
    simp only [wholeForm]
  · omega
  · omega
  · rw [decide_eq_true_iff]
    omega

theorem value_wholeForm {n : ℕ} (hpos : 0 < n) (hlt : n < 2 ^ 53) : (wholeForm n).value = n := by
  have hlog : n.log2 ≤ 52 := Nat.lt_succ_iff.1 ((Nat.log2_lt hpos.ne').2 hlt)
  have hexponent : (n.log2 : ℤ) - 52 = -((52 - n.log2 : ℕ) : ℤ) := by omega
  simp only [Binary.value, wholeForm]
  rw [Nat.shiftLeft_eq, hexponent, zpow_neg, zpow_natCast]
  push_cast
  rw [mul_assoc, mul_inv_cancel₀ (by positivity), mul_one]

/-- **A natural number below `2 ^ 53` is a double.** -/
theorem unpack_toFloat {n : ℕ} (hpos : 0 < n) (hlt : n < 2 ^ 53) :
    n.toUInt64.toFloat.toModel.unpack = .finite .positive (wholeForm n).significand
      (wholeForm n).exponent (canonical_wholeForm hpos hlt).significand_pos := by
  have hx := canonical_wholeForm hpos hlt
  have hword : n.toUInt64.toNat = n := Nat.mod_eq_of_lt (hlt.trans (by norm_num))
  have hlog : n.log2 ≤ 52 := Nat.lt_succ_iff.1 ((Nat.log2_lt hpos.ne').2 hlt)
  have htarget : Format.binary64.targetExponent (totalExponent n 0) = (n.log2 : ℤ) - 52 := by
    change roundingExponent n 0 = _
    rw [roundingExponent_eq]
    omega
  have hround : UnpackedFloat.ofNat .binary64 n.toUInt64.toNat =
      UnpackedFloat.round .binary64 .positive n 0 := by
    rw [hword]
    have hcompare : compare (n : ℤ) 0 = .gt := by
      rw [Int.compare_eq_gt]
      omega
    unfold UnpackedFloat.ofNat UnpackedFloat.ofInt UnpackedFloat.normalize
    rw [hcompare]
    rfl
  change (Float.Model.pack (UnpackedFloat.ofNat .binary64 n.toUInt64.toNat)).unpack = _
  suffices h : UnpackedFloat.round .binary64 .positive n 0 =
      .finite .positive (wholeForm n).significand (wholeForm n).exponent hx.significand_pos by
    rw [hround, h, unpack_pack hx]
  unfold UnpackedFloat.round
  rw [htarget]
  have hdecrease : decreaseExponent n 0 ((n.log2 : ℤ) - 52) =
      ((wholeForm n).significand, (wholeForm n).exponent) := by
    have hshift : (0 - ((n.log2 : ℤ) - 52)).toNat = 52 - n.log2 := by omega
    unfold decreaseExponent wholeForm
    simp only [hshift]
    congr 1
    omega
  dsimp only
  rw [hdecrease]
  refine roundWithAccuracy_of_covers hx hx.covers_value _ (approximates_exact _ _) ?_
  have hlogx : (wholeForm n).significand.log2 = 52 :=
    (Nat.log2_eq_iff hx.significand_pos.ne').2
      ⟨hx.normal.resolve_left (by simp only [wholeForm]; omega), hx.significand_lt⟩
  rw [roundingExponent_eq, hlogx]
  omega

/-- Whether a value is a power of ten with all bits of a double. -/
def isPowerOfTen (n : ℕ) : UnpackedFloat → Bool
  | .finite .positive m e _ => 2 ^ 52 ≤ m ∧ m * 2 ^ e.toNat = 10 ^ n * 2 ^ (-e).toNat
  | _ => false

theorem isPowerOfTen_table : ∀ n : Fin Float.exactlyRepresentablePowersOfTen.size,
    isPowerOfTen n Float.exactlyRepresentablePowersOfTen[n].toModel.unpack = true := by
  decide

theorem exists_of_isPowerOfTen {n : ℕ} {f : UnpackedFloat} (h : isPowerOfTen n f = true) :
    ∃ (m : ℕ) (e : ℤ) (hm : 0 < m),
      f = .finite .positive m e hm ∧ 2 ^ 52 ≤ m ∧ (m : ℚ) * 2 ^ e = 10 ^ n := by
  unfold isPowerOfTen at h
  split at h
  · rename_i m e hm
    obtain ⟨hle, heq⟩ := of_decide_eq_true h
    refine ⟨m, e, hm, rfl, hle, ?_⟩
    have hq : (m : ℚ) * 2 ^ e.toNat = 10 ^ n * 2 ^ (-e).toNat := by exact_mod_cast heq
    have hsplit : (2 : ℚ) ^ e = 2 ^ e.toNat / 2 ^ (-e).toNat := by
      rw [← zpow_natCast, ← zpow_natCast, ← zpow_sub₀ (by norm_num)]
      congr 1
      omega
    rw [hsplit, ← mul_div_assoc, hq, mul_div_cancel_right₀ _ (by positivity)]
  · cases h

/-! ### Decimals -/

namespace Binary

/-- What rounds to a double is not too small for one. -/
theorem Covers.ge_least (hv : x.Covers v) (hx : x.Canonical) : (2 : ℚ) ^ (-1075 : ℤ) ≤ v := by
  have hpow : (2 : ℚ) ^ (-1074 : ℤ) ≤ 2 ^ x.exponent :=
    zpow_le_zpow_right₀ (by norm_num) hx.exponent_ge
  have hhalf : (2 : ℚ) ^ (-1075 : ℤ) = 1 / 2 * 2 ^ (-1074 : ℤ) := by
    rw [show (-1074 : ℤ) = -1075 + 1 by norm_num, zpow_add_one₀ (by norm_num)]
    ring
  have := hv.ge hx
  rw [hhalf]
  linarith

/-- What rounds to a finite double is not too large for one. -/
theorem Covers.lt_greatest (hv : x.Covers v) (hx : x.Canonical) : v < 2 ^ (1024 : ℤ) := by
  have hpow : (2 : ℚ) ^ x.exponent ≤ 2 ^ (971 : ℤ) :=
    zpow_le_zpow_right₀ (by norm_num) hx.exponent_le
  have hpos : (0 : ℚ) < 2 ^ x.exponent := by positivity
  have hm : (x.significand : ℚ) + 1 ≤ 2 ^ (53 : ℤ) := by exact_mod_cast hx.significand_lt
  calc v ≤ (x.significand + 1 / 2) * 2 ^ x.exponent := hv.le
    _ < (x.significand + 1) * 2 ^ x.exponent := mul_lt_mul_of_pos_right (by linarith) hpos
    _ ≤ 2 ^ (53 : ℤ) * 2 ^ (971 : ℤ) := mul_le_mul hm hpow hpos.le (by positivity)
    _ = 2 ^ (1024 : ℤ) := by rw [← zpow_add₀ (by norm_num)]; norm_num

/-- The double of a canonical form. -/
def double (x : Binary) (hx : x.Canonical) : Float :=
  .ofModel (.pack (.finite .positive x.significand x.exponent hx.significand_pos))

end Binary

/-- A short decimal that rounds to a double: both factors are doubles. -/
theorem ofScientific_short (hx : x.Canonical) {digits places : ℕ} (hpos : 0 < digits)
    (hlt : digits < 2 ^ 53) (hp : places < Float.exactlyRepresentablePowersOfTen.size) :
    (x.Covers (digits * 10 ^ places) →
      digits.toUInt64.toFloat * Float.exactlyRepresentablePowersOfTen[places] = x.double hx) ∧
    (x.Covers (digits / 10 ^ places) →
      digits.toUInt64.toFloat / Float.exactlyRepresentablePowersOfTen[places] = x.double hx) := by
  obtain ⟨m, e, hm, hunpack, hle, hvalue⟩ :=
    exists_of_isPowerOfTen (isPowerOfTen_table ⟨places, hp⟩)
  change Float.exactlyRepresentablePowersOfTen[places].toModel.unpack = _ at hunpack
  have hw := canonical_wholeForm hpos hlt
  have hwvalue : ((wholeForm digits).significand : ℚ) * 2 ^ (wholeForm digits).exponent = digits :=
    value_wholeForm hpos hlt
  constructor
  · intro hv
    change Float.ofModel (.pack (UnpackedFloat.mul .binary64
      digits.toUInt64.toFloat.toModel.unpack
      Float.exactlyRepresentablePowersOfTen[places].toModel.unpack)) = _
    rw [unpack_toFloat hpos hlt, hunpack,
      mul_of_covers hx hw.significand_pos hm (by rwa [hwvalue, hvalue])]
    · rfl
    · refine le_roundingExponent ?_ _
      calc 2 ^ 52 ≤ m := hle
        _ ≤ (wholeForm digits).significand * m := Nat.le_mul_of_pos_left m hw.significand_pos
  · intro hv
    change Float.ofModel (.pack (UnpackedFloat.div .binary64
      digits.toUInt64.toFloat.toModel.unpack
      Float.exactlyRepresentablePowersOfTen[places].toModel.unpack)) = _
    rw [unpack_toFloat hpos hlt, hunpack,
      div_of_covers hx hw.significand_pos hm (by rwa [hwvalue, hvalue])]
    rfl

/-- The exponent of a decimal that rounds to a double is not so large that it counts as infinite. -/
theorem Binary.Covers.decimalExponent_le {digits : ℕ} {e : ℤ} (hv : x.Covers (digits * 10 ^ e))
    (hx : x.Canonical) (hpos : 0 < digits) : e ≤ 2 ^ 11 := by
  by_contra hcon
  have hdigits : (1 : ℚ) ≤ digits := by exact_mod_cast hpos
  have hpow : (2 : ℚ) ^ (1024 : ℤ) ≤ 2 ^ e := zpow_le_zpow_right₀ (by norm_num) (by omega)
  have hten : (2 : ℚ) ^ e ≤ 10 ^ e := zpow_le_zpow_left₀ (by omega) (by norm_num) (by norm_num)
  have hle : (10 : ℚ) ^ e ≤ digits * 10 ^ e := le_mul_of_one_le_left (by positivity) hdigits
  exact absurd (hv.lt_greatest hx) (not_lt.2 (hpow.trans (hten.trans hle)))

/-- Nor is it so small that the decimal counts as zero. -/
theorem Binary.Covers.le_decimalExponent {digits : ℕ} {e : ℤ} (hv : x.Covers (digits * 10 ^ e))
    (hx : x.Canonical) : -((2 : ℤ) ^ 11 + digits.log2) ≤ e := by
  by_contra hcon
  have hlog : (digits : ℚ) < 2 ^ (digits.log2 + 1) := by exact_mod_cast Nat.lt_log2_self
  have hten : (10 : ℚ) ^ e ≤ 2 ^ e := by
    obtain ⟨n, rfl⟩ : ∃ n : ℕ, e = -n := ⟨(-e).toNat, by omega⟩
    rw [zpow_neg, zpow_neg, zpow_natCast, zpow_natCast]
    exact inv_anti₀ (by positivity) (pow_le_pow_left₀ (by norm_num) (by norm_num) n)
  have hlt : (digits : ℚ) * 10 ^ e < 2 ^ (-1075 : ℤ) := by
    calc (digits : ℚ) * 10 ^ e ≤ digits * 2 ^ e :=
          mul_le_mul_of_nonneg_left hten (by positivity)
      _ < 2 ^ (digits.log2 + 1) * 2 ^ e := mul_lt_mul_of_pos_right hlog (by positivity)
      _ = 2 ^ ((digits.log2 + 1 : ℕ) + e) := by rw [zpow_add₀ (by norm_num), zpow_natCast]
      _ ≤ _ := zpow_le_zpow_right₀ (by norm_num) (by push_cast; omega)
  exact absurd (hv.ge_least hx) (not_le.2 hlt)

/-- A number with all the bits of a double put behind its point. -/
theorem shiftLeft_mantissaBits (n : ℕ) : ((n <<< Format.binary64.mantissaBits : ℕ) : ℚ) *
    2 ^ (-(Format.binary64.mantissaBits : ℤ)) = n := by
  have hone : (2 : ℚ) ^ Format.binary64.mantissaBits *
      2 ^ (-(Format.binary64.mantissaBits : ℤ)) = 1 := by
    norm_num [Format.mantissaBits]
  rw [Nat.shiftLeft_eq]
  push_cast
  rw [mul_assoc, hone, mul_one]

/-- A product with it has bits enough for rounding. -/
theorem le_shiftLeft_mantissaBits_mul {n k : ℕ} (hn : 0 < n) (hk : 0 < k) :
    2 ^ 52 ≤ n <<< Format.binary64.mantissaBits * k := by
  rw [Nat.shiftLeft_eq]
  calc 2 ^ 52 ≤ 2 ^ Format.binary64.mantissaBits :=
        Nat.pow_le_pow_right (by norm_num) (by decide)
    _ ≤ n * 2 ^ Format.binary64.mantissaBits := Nat.le_mul_of_pos_left _ hn
    _ ≤ _ := Nat.le_mul_of_pos_right _ hk

/-- A decimal that rounds to a double and is multiplied out. -/
theorem ofScientific_long (hx : x.Canonical) {digits : ℕ} {e : ℤ} (hpos : 0 < digits)
    (hv : x.Covers (digits * 10 ^ e)) :
    UnpackedFloat.ofScientific .binary64 digits e =
      .finite .positive x.significand x.exponent hx.significand_pos := by
  have hlarge := hv.decimalExponent_le hx hpos
  have hsmall := hv.le_decimalExponent hx
  unfold UnpackedFloat.ofScientific
  rw [dif_neg hpos.ne', if_neg (not_lt.2 hlarge), if_neg (not_lt.2 hsmall)]
  by_cases he : 0 ≤ e
  · rw [if_pos he]
    refine mul_of_covers hx _ _ ?_
      (le_roundingExponent (le_shiftLeft_mantissaBits_mul hpos (by positivity)) _)
    have hten : ((10 ^ e.toNat : ℕ) : ℚ) = 10 ^ e := by
      push_cast
      rw [← zpow_natCast, Int.toNat_of_nonneg he]
    rw [shiftLeft_mantissaBits, hten, zpow_zero, mul_one]
    exact hv
  · rw [if_neg he]
    refine div_of_covers hx _ _ ?_
    have hten : ((10 ^ (-e).toNat : ℕ) : ℚ) = (10 ^ e)⁻¹ := by
      push_cast
      rw [← zpow_natCast, Int.toNat_of_nonneg (by omega), zpow_neg]
    rw [hten, zpow_zero, mul_one, mul_one, div_inv_eq_mul]
    exact hv

/-- **A decimal that rounds to a double is that double.** -/
theorem ofScientific_of_covers (hx : x.Canonical) {digits places : ℕ} (hpos : 0 < digits)
    {negative : Bool}
    (hv : x.Covers (digits * 10 ^ (if negative then -(places : ℤ) else places))) :
    Float.ofScientific digits negative places = x.double hx := by
  unfold Float.ofScientific
  split
  · rename_i hshort
    have hp : places < Float.exactlyRepresentablePowersOfTen.size :=
      Nat.lt_succ_iff.2 hshort.2
    obtain ⟨hmul, hdiv⟩ := ofScientific_short hx hpos hshort.1 hp
    cases negative with
    | false => exact hmul (by simpa using hv)
    | true => exact hdiv (by simpa [div_eq_mul_inv] using hv)
  · change Float.ofModel (.pack (UnpackedFloat.ofScientific .binary64 digits _)) = _
    rw [ofScientific_long hx hpos]
    · rfl
    · cases negative with
      | false => exact hv
      | true => simpa [Int.negOfNat_eq] using hv

/-! ### Numerals -/

/-- The number of a numeral. -/
def Written.value (w : Written) : ℚ := ofDigits w.digits * 10 ^ (w.exponent - w.places)

theorem two_pow_lt_ten_pow : 2 ^ 1075 < 10 ^ 330 := by decide +kernel

theorem two_pow_le_ten_pow : 2 ^ 1024 ≤ 10 ^ 310 := by decide +kernel

/-- Digits that round to a double do not begin so far behind the point that they count as zero. -/
theorem Binary.Covers.neg_le_length_add {digits : List ℕ} {scale : ℤ}
    (hv : x.Covers (ofDigits digits * 10 ^ scale)) (hx : x.Canonical)
    (hdigits : ∀ d ∈ digits, d < 10) : -330 ≤ digits.length + scale := by
  by_contra hcon
  have hlt : (ofDigits digits : ℚ) < 10 ^ (digits.length : ℤ) := by
    exact_mod_cast ofDigits_lt hdigits
  have hup : (ofDigits digits : ℚ) * 10 ^ scale < 10 ^ (-330 : ℤ) := by
    calc (ofDigits digits : ℚ) * 10 ^ scale
        < 10 ^ (digits.length : ℤ) * 10 ^ scale := mul_lt_mul_of_pos_right hlt (by positivity)
      _ = 10 ^ ((digits.length : ℤ) + scale) := by rw [zpow_add₀ (by norm_num)]
      _ ≤ _ := zpow_le_zpow_right₀ (by norm_num) (by omega)
  have hbase : (10 : ℚ) ^ (-330 : ℤ) ≤ 2 ^ (-1075 : ℤ) := by
    rw [zpow_neg, zpow_neg]
    exact inv_anti₀ (by positivity) (by exact_mod_cast two_pow_lt_ten_pow.le)
  exact absurd (hup.trans_le hbase) (not_lt.2 (hv.ge_least hx))

/-- Nor do they begin so far before it that they count as infinite. -/
theorem Binary.Covers.length_add_le {d : ℕ} {rest : List ℕ} {scale : ℤ}
    (hv : x.Covers (ofDigits (d :: rest) * 10 ^ scale)) (hx : x.Canonical) (hd : d ≠ 0) :
    ((d :: rest).length : ℤ) + scale ≤ 310 := by
  by_contra hcon
  have hge : (10 : ℚ) ^ (rest.length : ℤ) ≤ ofDigits (d :: rest) := by
    exact_mod_cast le_ofDigits hd rest
  have hdown : (10 : ℚ) ^ (310 : ℤ) ≤ ofDigits (d :: rest) * 10 ^ scale := by
    calc (10 : ℚ) ^ (310 : ℤ) ≤ 10 ^ ((rest.length : ℤ) + scale) := by
          refine zpow_le_zpow_right₀ (by norm_num) ?_
          rw [List.length_cons] at hcon
          push_cast at hcon
          omega
      _ = 10 ^ (rest.length : ℤ) * 10 ^ scale := by rw [zpow_add₀ (by norm_num)]
      _ ≤ _ := mul_le_mul_of_nonneg_right hge (by positivity)
  have hbase : (2 : ℚ) ^ (1024 : ℤ) ≤ 10 ^ (310 : ℤ) := by exact_mod_cast two_pow_le_ten_pow
  exact absurd (hv.lt_greatest hx) (not_lt.2 (hbase.trans hdown))

/-- **A numeral that rounds to a double is read as that double.** -/
theorem Written.toFloat_of_covers (hx : x.Canonical) {w : Written}
    (hdigits : ∀ d ∈ w.digits, d < 10) (hv : x.Covers w.value) : w.toFloat = x.double hx := by
  have hsame := ofDigits_dropWhile_zero w.digits
  have hsignificant : ∀ d ∈ w.digits.dropWhile (· = 0), d < 10 :=
    fun d hd => hdigits d ((List.dropWhile_sublist _).subset hd)
  have hhead : ∀ d rest, w.digits.dropWhile (· = 0) = d :: rest → d ≠ 0 := by
    intro d rest heq hd
    have := List.head?_dropWhile_not (· = 0) w.digits
    rw [heq] at this
    simp [hd] at this
  unfold Written.value at hv
  rw [← hsame] at hv
  unfold Written.toFloat
  dsimp only
  generalize w.digits.dropWhile (· = 0) = significant at *
  generalize hs : w.exponent - (w.places : ℤ) = scale at *
  cases significant with
  | nil =>
      -- Zero rounds to no canonical form.
      have hlow := hv.ge_least hx
      rw [show ofDigits [] = 0 from rfl, Nat.cast_zero, zero_mul] at hlow
      exact absurd hlow (not_le.2 (by positivity))
  | cons d rest =>
      have hd := hhead d rest rfl
      have hpos : 0 < ofDigits (d :: rest) := lt_of_lt_of_le (by positivity) (le_ofDigits hd rest)
      have hsmall := hv.neg_le_length_add hx hsignificant
      have hlarge := hv.length_add_le hx hd
      rw [if_neg (by simpa using hsmall), if_neg (not_lt.2 hlarge)]
      refine ofScientific_of_covers hx hpos ?_
      have hscale : (if (decide (scale < 0)) = true then -(scale.natAbs : ℤ) else scale.natAbs) =
          scale := by
        split_ifs with h <;> simp at h <;> omega
      rw [hscale]
      exact hv

/-- A numeral of zeros is read as zero. -/
theorem Written.toFloat_of_value_eq_zero {w : Written} (h : ofDigits w.digits = 0) :
    w.toFloat = 0.0 := by
  unfold Written.toFloat
  cases hs : w.digits.dropWhile (· = 0) with
  | nil => simp
  | cons d rest =>
      have hd : d ≠ 0 := by
        intro hd
        have := List.head?_dropWhile_not (· = 0) w.digits
        rw [hs] at this
        simp [hd] at this
      have hge := le_ofDigits hd rest
      rw [← hs, ofDigits_dropWhile_zero, h] at hge
      exact absurd hge (not_le.2 (by positivity))

end BehaviorTree.Decimal
