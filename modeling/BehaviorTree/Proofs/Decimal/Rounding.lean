import BehaviorTree.Decimal.Shortest
import Mathlib

/-! # Rounding to the nearest double

A number that lies among the reals that round to a double rounds to that double
(`roundWithAccuracy_of_covers`), from any approximation that keeps a round bit and a sticky bit.

`Approximates` says what the bits of an extended mantissa tell of a number; one shift keeps it
(`Approximates.shiftRightOne`), and so does any number of shifts.  `Binary.Covers` are the numbers
that round to a double.  A number below the double on the finer grid that ends at a power of two is
first rounded up to `2 ^ 53` there, and then shifted once more. -/

namespace BehaviorTree.Decimal

open Float.Model Float.Model.UnpackedFloat

/-! ### Extended mantissas -/

/-- The half that a round bit stands for. -/
def half (bit : Bool) : ℚ := if bit then 1 / 2 else 0

/-- An extended mantissa tells a number at an exponent up to a rest below its round bit, which is
zero unless the sticky bit is set. -/
def Approximates (em : ExtendedMantissa) (e : ℤ) (v : ℚ) : Prop :=
  ∃ rest : ℚ, 0 ≤ rest ∧ rest < 1 / 2 ∧ (em.stickyBit = true ↔ rest ≠ 0) ∧
    v = (em.mantissa + half em.roundBit + rest) * 2 ^ e

namespace Approximates

variable {em : ExtendedMantissa} {e : ℤ} {v : ℚ}

theorem shiftRightOne (h : Approximates em e v) : Approximates em.shiftRightOne (e + 1) v := by
  obtain ⟨rest, hnonneg, hlt, hsticky, rfl⟩ := h
  have hsplit : (em.mantissa : ℚ) = 2 * (em.mantissa / 2 : ℕ) + (em.mantissa % 2 : ℕ) := by
    exact_mod_cast (Nat.div_add_mod em.mantissa 2).symm
  have hround : half em.roundBit = 0 ∨ half em.roundBit = 1 / 2 := by
    cases em.roundBit <;> simp [half]
  have hlow : half (em.mantissa % 2 != 0) = (em.mantissa % 2 : ℕ) / 2 := by
    rcases Nat.mod_two_eq_zero_or_one em.mantissa with h | h <;> simp [half, h]
  refine ⟨(half em.roundBit + rest) / 2, ?_, ?_, ?_, ?_⟩
  · rcases hround with h | h <;> rw [h] <;> linarith
  · rcases hround with h | h <;> rw [h] <;> linarith
  · change (em.roundBit || em.stickyBit) = true ↔ _
    rw [Bool.or_eq_true, hsticky]
    cases hbit : em.roundBit with
    | false => simp [half]
    | true =>
        have : (1 / 2 + rest) / 2 ≠ 0 := by positivity
        simpa [half] using this
  · change _ = ((em.mantissa / 2 : ℕ) + half (em.mantissa % 2 != 0) + _) * 2 ^ (e + 1)
    rw [zpow_add_one₀ (by norm_num), hlow, hsplit]
    ring

theorem shiftRight (h : Approximates em e v) (n : ℕ) : Approximates (em >>> n) (e + n) v := by
  induction n with
  | zero => simpa [HShiftRight.hShiftRight, Nat.repeat] using h
  | succ n ih =>
      have hnext := ih.shiftRightOne
      rw [add_assoc] at hnext
      exact_mod_cast hnext

/-- The number lies between its mantissa and the next one. -/
theorem bounds (h : Approximates em e v) :
    em.mantissa * 2 ^ e ≤ v ∧ v < (em.mantissa + 1) * 2 ^ e := by
  obtain ⟨rest, hnonneg, hlt, -, rfl⟩ := h
  have hpow : (0 : ℚ) < 2 ^ e := by positivity
  have hround : 0 ≤ half em.roundBit ∧ half em.roundBit ≤ 1 / 2 := by
    cases em.roundBit <;> simp [half]
  constructor
  · exact mul_le_mul_of_nonneg_right (by linarith [hround.1]) hpow.le
  · exact mul_lt_mul_of_pos_right (by linarith [hround.2]) hpow

/-- **A mantissa rounds to the nearest one**, and to an even one where two are equally near. -/
theorem roundedMantissa_eq (h : Approximates em e v) {m : ℕ}
    (hlow : (m - 1 / 2) * 2 ^ e < v ∨ m % 2 = 0 ∧ (m - 1 / 2) * 2 ^ e = v)
    (hhigh : v < (m + 1 / 2) * 2 ^ e ∨ m % 2 = 0 ∧ v = (m + 1 / 2) * 2 ^ e) :
    em.roundedMantissa = m := by
  obtain ⟨rest, hnonneg, hlt, hsticky, rfl⟩ := h
  have hpow : (0 : ℚ) < 2 ^ e := by positivity
  rw [mul_lt_mul_iff_left₀ hpow, mul_left_inj' hpow.ne'] at hlow hhigh
  obtain ⟨M, round, sticky⟩ := em
  have hle : (m : ℚ) - 1 / 2 ≤ M + half round + rest :=
    hlow.elim (fun h => h.le) fun h => h.2.le
  have hge : M + half round + rest ≤ (m : ℚ) + 1 / 2 :=
    hhigh.elim (fun h => h.le) fun h => h.2.le
  dsimp only at hlow hhigh hle hge hsticky
  cases round with
  | false =>
      -- Below one half: the mantissa itself is the nearest.
      have hhalf : half false = 0 := rfl
      rw [hhalf] at hle hge
      have hmM : m ≤ M := by
        have : (m : ℚ) < M + 1 := by linarith
        exact Nat.lt_succ_iff.1 (by exact_mod_cast this)
      have hMm : M ≤ m := by
        have : (M : ℚ) < m + 1 := by linarith
        exact Nat.lt_succ_iff.1 (by exact_mod_cast this)
      cases sticky <;> exact le_antisymm hMm hmM
  | true =>
      have hhalf : half true = 1 / 2 := rfl
      rw [hhalf] at hlow hhigh hle hge
      have hmM : m ≤ M + 1 := by
        have : (m : ℚ) < M + 1 + 1 := by linarith
        exact Nat.lt_succ_iff.1 (by exact_mod_cast this)
      have hMm : M ≤ m := by
        have : (M : ℚ) < m + 1 := by linarith
        exact Nat.lt_succ_iff.1 (by exact_mod_cast this)
      cases sticky with
      | true =>
          -- Above one half: the next mantissa is the nearest.
          have hrest : 0 < rest := lt_of_le_of_ne hnonneg (hsticky.1 rfl).symm
          have : M < m := by
            have : (M : ℚ) < m := by linarith
            exact_mod_cast this
          exact le_antisymm this hmM
      | false =>
          -- One half exactly: the even one of two.
          have hrest : rest = 0 := by
            by_contra hne
            exact Bool.noConfusion (hsticky.2 hne)
          subst hrest
          change M + M % 2 = m
          rcases Nat.lt_or_ge M m with hM | hM
          · obtain rfl : m = M + 1 := by omega
            rcases hlow with h | h
            · push_cast at h
              linarith
            · omega
          · obtain rfl : m = M := by omega
            rcases hhigh with h | h
            · linarith
            · omega

end Approximates

theorem approximates_exact (mantissa : ℕ) (e : ℤ) :
    Approximates (.ofMantissaAndAccuracy mantissa .exact) e (mantissa * 2 ^ e) :=
  ⟨0, le_refl _, by norm_num, by simp [ExtendedMantissa.ofMantissaAndAccuracy],
    by simp [ExtendedMantissa.ofMantissaAndAccuracy, half]⟩

/-- A quotient of natural numbers is told by its whole part and the comparison of twice the
remainder with the divisor. -/
theorem approximates_fraction (n : ℕ) {d : ℕ} (hd : 0 < d) (e : ℤ) :
    Approximates (.ofMantissaAndAccuracy (n / d) (accuracyOfFraction (n % d) d)) e
      ((n : ℚ) / d * 2 ^ e) := by
  have hdq : (0 : ℚ) < d := by exact_mod_cast hd
  have hsplit : (n : ℚ) = d * (n / d : ℕ) + (n % d : ℕ) := by
    exact_mod_cast (Nat.div_add_mod n d).symm
  have hlt : ((n % d : ℕ) : ℚ) < d := by exact_mod_cast Nat.mod_lt n hd
  have hvalue : (n : ℚ) / d = (n / d : ℕ) + (n % d : ℕ) / d := by
    rw [div_eq_iff hdq.ne', add_mul, div_mul_cancel₀ _ hdq.ne', mul_comm]
    exact hsplit
  rw [hvalue]
  generalize n / d = q at *
  generalize n % d = r at *
  unfold accuracyOfFraction
  split_ifs with hr
  · subst hr
    exact ⟨0, le_refl _, by norm_num, by simp [ExtendedMantissa.ofMantissaAndAccuracy],
      by simp [ExtendedMantissa.ofMantissaAndAccuracy, half]⟩
  · have hrq : (0 : ℚ) < r := by exact_mod_cast Nat.pos_of_ne_zero hr
    rcases Nat.lt_trichotomy (2 * r) d with h | h | h
    · have h2 : 2 * (r : ℚ) < d := by exact_mod_cast h
      rw [Nat.compare_eq_lt.2 h]
      refine ⟨r / d, by positivity, ?_, ?_, ?_⟩
      · rw [div_lt_iff₀ hdq]
        linarith
      · simp [ExtendedMantissa.ofMantissaAndAccuracy, hr, hd.ne']
      · simp [ExtendedMantissa.ofMantissaAndAccuracy, half]
    · have h2 : 2 * (r : ℚ) = d := by exact_mod_cast h
      rw [Nat.compare_eq_eq.2 h]
      refine ⟨0, le_refl _, by norm_num, by simp [ExtendedMantissa.ofMantissaAndAccuracy], ?_⟩
      have : (r : ℚ) / d = 1 / 2 := by
        rw [div_eq_iff hdq.ne']
        linarith
      simp [ExtendedMantissa.ofMantissaAndAccuracy, half, this]
    · have h2 : (d : ℚ) < 2 * r := by exact_mod_cast h
      rw [Nat.compare_eq_gt.2 h]
      refine ⟨r / d - 1 / 2, ?_, ?_, ?_, ?_⟩
      · rw [sub_nonneg, le_div_iff₀ hdq]
        linarith
      · have : (r : ℚ) / d < 1 := (div_lt_one hdq).2 hlt
        linarith
      · have : (r : ℚ) / d - 1 / 2 ≠ 0 := by
          rw [sub_ne_zero]
          intro heq
          rw [div_eq_iff hdq.ne'] at heq
          linarith
        simpa [ExtendedMantissa.ofMantissaAndAccuracy] using this
      · simp [ExtendedMantissa.ofMantissaAndAccuracy, half]

/-! ### The reals that round to a double -/

namespace Binary

/-- The canonical form of a finite positive double. -/
structure Canonical (x : Binary) : Prop where
  significand_pos : 0 < x.significand
  significand_lt : x.significand < 2 ^ 53
  exponent_ge : -1074 ≤ x.exponent
  exponent_le : x.exponent ≤ 971
  normal : x.exponent = -1074 ∨ 2 ^ 52 ≤ x.significand
  narrowBelow_iff : x.narrowBelow = true ↔ x.significand = 2 ^ 52 ∧ -1074 < x.exponent

/-- Four times the end of the interval of a double on the side of zero, in its last place. -/
def low (x : Binary) : ℕ := if x.narrowBelow then 4 * x.significand - 1 else 4 * x.significand - 2

/-- The number of a double. -/
def value (x : Binary) : ℚ := x.significand * 2 ^ x.exponent

/-- A number rounds to a double: it lies between the halves of the gaps on both sides, or on one of
these ends if the significand is even. -/
def Covers (x : Binary) (v : ℚ) : Prop :=
  ((x.low : ℚ) * 2 ^ (x.exponent - 2) < v ∨
      x.significand % 2 = 0 ∧ (x.low : ℚ) * 2 ^ (x.exponent - 2) = v) ∧
    (v < ((4 * x.significand + 2 : ℕ) : ℚ) * 2 ^ (x.exponent - 2) ∨
      x.significand % 2 = 0 ∧ v = ((4 * x.significand + 2 : ℕ) : ℚ) * 2 ^ (x.exponent - 2))

variable {x : Binary} {v : ℚ}

theorem low_cast (h : 0 < x.significand) :
    (x.low : ℚ) = 4 * x.significand - if x.narrowBelow then 1 else 2 := by
  unfold low
  split_ifs <;> push_cast [Nat.cast_sub (show 1 ≤ 4 * x.significand by omega),
    Nat.cast_sub (show 2 ≤ 4 * x.significand by omega)] <;> ring

theorem zpow_sub_two (e : ℤ) : (2 : ℚ) ^ (e - 2) = 2 ^ e / 4 := by
  rw [zpow_sub₀ (by norm_num)]
  norm_num

/-- The number of a double rounds to the double. -/
theorem Canonical.covers_value (h : x.Canonical) : x.Covers x.value := by
  have hpow : (0 : ℚ) < 2 ^ x.exponent := by positivity
  have hlow : (x.low : ℚ) < 4 * x.significand := by
    rw [low_cast h.significand_pos]
    split_ifs <;> linarith
  unfold Covers value
  rw [zpow_sub_two]
  constructor
  · left
    nlinarith
  · left
    push_cast
    nlinarith

/-- What rounds to a double is at least half of the least double. -/
theorem Covers.ge (h : x.Covers v) (hx : x.Canonical) : 1 / 2 * 2 ^ x.exponent ≤ v := by
  have hpow : (0 : ℚ) < 2 ^ x.exponent := by positivity
  have hone : (1 : ℚ) ≤ x.significand := by exact_mod_cast hx.significand_pos
  have hlow : (2 : ℚ) ≤ x.low := by
    rw [low_cast hx.significand_pos]
    split_ifs <;> linarith
  have hle := h.1.elim (fun h => h.le) fun h => h.2.le
  rw [zpow_sub_two] at hle
  nlinarith

/-- What rounds to a double is at most half a place above it. -/
theorem Covers.le (h : x.Covers v) : v ≤ (x.significand + 1 / 2) * 2 ^ x.exponent := by
  have hle := h.2.elim (fun h => h.le) fun h => h.2.le
  rw [zpow_sub_two] at hle
  push_cast at hle
  linarith

/-- On the grid of the double itself, what rounds to it lies within one half of its significand. -/
theorem Covers.nearest (h : x.Covers v) (hx : x.Canonical) :
    (((x.significand : ℚ) - 1 / 2) * 2 ^ x.exponent < v ∨
        x.significand % 2 = 0 ∧ ((x.significand : ℚ) - 1 / 2) * 2 ^ x.exponent = v) ∧
      (v < ((x.significand : ℚ) + 1 / 2) * 2 ^ x.exponent ∨
        x.significand % 2 = 0 ∧ v = ((x.significand : ℚ) + 1 / 2) * 2 ^ x.exponent) := by
  have hpow : (0 : ℚ) < 2 ^ x.exponent := by positivity
  have hhigh : ((4 * x.significand + 2 : ℕ) : ℚ) * 2 ^ (x.exponent - 2) =
      ((x.significand : ℚ) + 1 / 2) * 2 ^ x.exponent := by
    rw [zpow_sub_two]
    push_cast
    ring
  obtain ⟨hlow, hend⟩ := h
  rw [hhigh] at hend
  refine ⟨?_, hend⟩
  rw [zpow_sub_two, low_cast hx.significand_pos] at hlow
  by_cases hnarrow : x.narrowBelow = true
  · -- The end below is nearer than one half.
    left
    rw [if_pos hnarrow] at hlow
    have hle := hlow.elim (fun h => h.le) fun h => h.2.le
    nlinarith
  · rw [if_neg hnarrow] at hlow
    have heq : (4 * (x.significand : ℚ) - 2) * (2 ^ x.exponent / 4) =
        ((x.significand : ℚ) - 1 / 2) * 2 ^ x.exponent := by ring
    rwa [heq] at hlow

/-- A number with 53 bits before the point on a grid rounds to no double of a finer one. -/
theorem Covers.le_exponent (h : x.Covers v) (hx : x.Canonical) {t : ℤ}
    (ht : t = -1074 ∨ 2 ^ (52 + t) ≤ v) : t ≤ x.exponent := by
  by_contra hcon
  have hge := hx.exponent_ge
  have hv52 : (2 : ℚ) ^ (52 + t) ≤ v := ht.resolve_left (by omega)
  have hkpow : (0 : ℚ) < 2 ^ x.exponent := by positivity
  have hmq : (x.significand : ℚ) + 1 ≤ 2 ^ (53 : ℤ) := by exact_mod_cast hx.significand_lt
  have hup := h.le
  have hle : (2 : ℚ) ^ (53 + x.exponent) ≤ 2 ^ (52 + t) :=
    zpow_le_zpow_right₀ (by norm_num) (by omega)
  rw [zpow_add₀ (by norm_num)] at hle
  nlinarith

/-- A number with no more than 53 bits before the point on a grid that is finer than the grid of its
double lies just below a power of two. -/
theorem Covers.eq_power (h : x.Covers v) (hx : x.Canonical) {t : ℤ} (hmin : -1074 ≤ t)
    (ht : t < x.exponent) (hlt : v < 2 ^ (53 + t)) : x = ⟨2 ^ 52, t + 1, true⟩ := by
  obtain ⟨m, k, narrow⟩ := x
  obtain ⟨hpos, hm, hk, -, hnormal, hnarrow⟩ := hx
  dsimp only at hpos hm hk hnormal hnarrow ht
  have hkpow : (0 : ℚ) < 2 ^ k := by positivity
  have hnormal := hnormal.resolve_left (by omega)
  have hlow := h.1
  rw [zpow_sub_two, low_cast hpos] at hlow
  dsimp only at hlow
  have hle := hlow.elim (fun h => h.le) fun h => h.2.le
  have htwo : (if narrow = true then (1 : ℚ) else 2) ≤ 2 := by split_ifs <;> norm_num
  have hpowers : ∀ n : ℤ, 53 + t ≤ n + k → v < 2 ^ n * 2 ^ k := fun n hn => by
    rw [← zpow_add₀ (by norm_num)]
    exact hlt.trans_le (zpow_le_zpow_right₀ (by norm_num) hn)
  obtain rfl : m = 2 ^ 52 := by
    by_contra hne
    have hmq : (2 : ℚ) ^ (52 : ℤ) + 1 ≤ m := by exact_mod_cast (by omega : 2 ^ 52 + 1 ≤ m)
    have := hpowers 52 (by omega)
    nlinarith
  obtain rfl : narrow = true := hnarrow.2 ⟨rfl, by omega⟩
  obtain rfl : k = t + 1 := by
    by_contra hne
    have := hpowers 51 (by omega)
    push_cast at hle
    norm_num at hle this
    nlinarith
  rfl

end Binary

/-! ### Rounding -/

/-- The exponent at which a mantissa is rounded. -/
def roundingExponent (mantissa : ℕ) (e : ℤ) : ℤ :=
  Format.binary64.targetExponent (totalExponent mantissa e)

theorem roundingExponent_eq (mantissa : ℕ) (e : ℤ) :
    roundingExponent mantissa e = max (mantissa.log2 + e - 52) (-1074) := by
  simp only [roundingExponent, Format.targetExponent, totalExponent, Format.mantissaBits,
    Format.minExponent]
  norm_num
  omega

/-- A mantissa that fits into a double stays as it is. -/
theorem shiftToTargetExponent_of_lt {m : ℕ} (hm : m < 2 ^ 53) {e : ℤ} (he : -1074 ≤ e) :
    shiftToTargetExponent .binary64 m e .exact = (⟨m, false, false⟩, e) := by
  have hlog : m.log2 ≤ 52 := by
    rcases Nat.eq_zero_or_pos m with rfl | hpos
    · simp
    · have := (Nat.log2_lt hpos.ne').2 hm
      omega
  have hshift : (roundingExponent m e - e).toNat = 0 := by
    rw [roundingExponent_eq]
    omega
  change (ExtendedMantissa.ofMantissaAndAccuracy m .exact >>> (roundingExponent m e - e).toNat,
    e + ((roundingExponent m e - e).toNat : ℤ)) = _
  rw [hshift]
  simp [HShiftRight.hShiftRight, Nat.repeat, ExtendedMantissa.ofMantissaAndAccuracy]

/-- A mantissa that has been rounded up to one bit too many is shifted once more. -/
theorem shiftToTargetExponent_of_eq {e : ℤ} (he : -1074 ≤ e) :
    shiftToTargetExponent .binary64 (2 ^ 53) e .exact = (⟨2 ^ 52, false, false⟩, e + 1) := by
  have hshift : (roundingExponent (2 ^ 53) e - e).toNat = 1 := by
    rw [roundingExponent_eq, Nat.log2_two_pow]
    omega
  change (ExtendedMantissa.ofMantissaAndAccuracy (2 ^ 53) .exact
      >>> (roundingExponent (2 ^ 53) e - e).toNat,
    e + ((roundingExponent (2 ^ 53) e - e).toNat : ℤ)) = _
  rw [hshift]
  rfl

/-- The place of a number against the exponent at which an approximation of it is rounded: fewer
than 54 bits stand before the point, and not fewer than 53 unless the exponent is the least. -/
theorem bounds_roundingExponent {mantissa : ℕ} {e : ℤ} {v : ℚ}
    (hlow : mantissa * 2 ^ e ≤ v) (hhigh : v < (mantissa + 1) * 2 ^ e)
    (he : e ≤ roundingExponent mantissa e) :
    v < 2 ^ (53 + roundingExponent mantissa e) ∧
      (roundingExponent mantissa e = -1074 ∨ 2 ^ (52 + roundingExponent mantissa e) ≤ v) := by
  have hpow : (0 : ℚ) < 2 ^ e := by positivity
  have hlog : (mantissa : ℚ) + 1 ≤ 2 ^ (mantissa.log2 + 1) := by
    exact_mod_cast Nat.lt_log2_self
  rw [roundingExponent_eq] at he ⊢
  constructor
  · calc v < (mantissa + 1) * 2 ^ e := hhigh
      _ ≤ 2 ^ (mantissa.log2 + 1) * 2 ^ e := mul_le_mul_of_nonneg_right hlog hpow.le
      _ = 2 ^ ((mantissa.log2 + 1 : ℕ) + e) := by rw [zpow_add₀ (by norm_num), zpow_natCast]
      _ ≤ _ := zpow_le_zpow_right₀ (by norm_num) (by push_cast; omega)
  · rcases Nat.eq_zero_or_pos mantissa with rfl | hpos
    · left
      simp at he ⊢
      omega
    · rcases le_or_gt ((mantissa.log2 : ℤ) + e - 52) (-1074) with h | h
      · exact Or.inl (max_eq_right h)
      · right
        rw [max_eq_left h.le]
        have hlog' : (2 : ℚ) ^ mantissa.log2 ≤ mantissa := by
          exact_mod_cast Nat.log2_self_le hpos.ne'
        calc (2 : ℚ) ^ (52 + ((mantissa.log2 : ℤ) + e - 52)) = 2 ^ ((mantissa.log2 : ℤ) + e) := by
              congr 1
              ring
          _ = 2 ^ mantissa.log2 * 2 ^ e := by rw [zpow_add₀ (by norm_num), zpow_natCast]
          _ ≤ mantissa * 2 ^ e := mul_le_mul_of_nonneg_right hlog' hpow.le
          _ ≤ v := hlow

/-- The mantissa of an approximation whose residual bits are still to come. -/
theorem mantissa_ofMantissaAndAccuracy (mantissa : ℕ) (accuracy : Accuracy) :
    (ExtendedMantissa.ofMantissaAndAccuracy mantissa accuracy).mantissa = mantissa := by
  rcases accuracy with - | (- | - | -) <;> rfl

/-- Just below a power of two, an approximation on the finer grid is rounded up to the power. -/
theorem Approximates.roundedMantissa_of_power {em : ExtendedMantissa} {t : ℤ} {v : ℚ}
    (h : Approximates em t v) (hv : Binary.Covers ⟨2 ^ 52, t + 1, true⟩ v)
    (hlt : v < 2 ^ (53 + t)) : em.roundedMantissa = 2 ^ 53 := by
  have htpow : (0 : ℚ) < 2 ^ t := by positivity
  have hlow := hv.1
  rw [Binary.zpow_sub_two, Binary.low_cast (by norm_num)] at hlow
  dsimp only at hlow
  rw [if_pos rfl] at hlow
  refine h.roundedMantissa_eq ?_ (Or.inl ?_)
  · have heq : (((2 ^ 53 : ℕ) : ℚ) - 1 / 2) * 2 ^ t =
        (4 * ((2 ^ 52 : ℕ) : ℚ) - 1) * (2 ^ (t + 1) / 4) := by
      rw [zpow_add_one₀ (by norm_num)]
      push_cast
      ring
    rw [heq]
    exact hlow.imp_right fun h => ⟨by norm_num, h.2⟩
  · rw [zpow_add₀ (by norm_num)] at hlt
    push_cast
    norm_num at hlt ⊢
    nlinarith

/-- Rounding takes an approximation to the exponent of rounding, rounds the mantissa there, and shifts
it once more if it has one bit too many now. -/
theorem Approximates.exists_rounded {mantissa : ℕ} {e : ℤ} {accuracy : Accuracy} {v : ℚ}
    (h : Approximates (.ofMantissaAndAccuracy mantissa accuracy) e v)
    (he : e ≤ roundingExponent mantissa e) (sign : Sign) :
    ∃ em, Approximates em (roundingExponent mantissa e) v ∧
      roundWithAccuracy .binary64 sign mantissa e accuracy =
        let final := shiftToTargetExponent .binary64 em.roundedMantissa
          (roundingExponent mantissa e) .exact
        if h : final.1.mantissa = 0 then .zero sign
        else .finite sign final.1.mantissa final.2 (Nat.pos_of_ne_zero h) := by
  have hround : roundWithAccuracy .binary64 sign mantissa e accuracy =
      let rounded := (ExtendedMantissa.ofMantissaAndAccuracy mantissa accuracy
        >>> (roundingExponent mantissa e - e).toNat).roundedMantissa
      let final := shiftToTargetExponent .binary64 rounded
        (e + ((roundingExponent mantissa e - e).toNat : ℤ)) .exact
      if h : final.1.mantissa = 0 then .zero sign
      else .finite sign final.1.mantissa final.2 (Nat.pos_of_ne_zero h) := rfl
  have hfirst := h.shiftRight (roundingExponent mantissa e - e).toNat
  rw [Int.toNat_of_nonneg (by omega), add_sub_cancel] at hfirst hround
  exact ⟨_, hfirst, hround⟩

/-- **Rounding finds the double that a number rounds to**, if the approximation is fine enough. -/
theorem roundWithAccuracy_of_covers {x : Binary} (hx : x.Canonical) {v : ℚ} (hv : x.Covers v)
    (sign : Sign) {mantissa : ℕ} {e : ℤ} {accuracy : Accuracy}
    (h : Approximates (.ofMantissaAndAccuracy mantissa accuracy) e v)
    (he : e ≤ roundingExponent mantissa e) :
    roundWithAccuracy .binary64 sign mantissa e accuracy =
      .finite sign x.significand x.exponent hx.significand_pos := by
  have hbounds := h.bounds
  rw [mantissa_ofMantissaAndAccuracy] at hbounds
  obtain ⟨hlt, hge⟩ := bounds_roundingExponent hbounds.1 hbounds.2 he
  have hmin : -1074 ≤ roundingExponent mantissa e := by
    rw [roundingExponent_eq]
    exact le_max_right _ _
  obtain ⟨em, hfirst, hround⟩ := h.exists_rounded he sign
  rw [hround]
  generalize roundingExponent mantissa e = t at *
  dsimp only
  -- The exponent of rounding is that of the double or, just below a power of two, the one below.
  rcases (hv.le_exponent hx hge).eq_or_lt with rfl | htk
  · have hnear := hv.nearest hx
    rw [hfirst.roundedMantissa_eq hnear.1 hnear.2,
      shiftToTargetExponent_of_lt hx.significand_lt hmin]
    exact dif_neg hx.significand_pos.ne'
  · obtain rfl := hv.eq_power hx hmin htk hlt
    rw [hfirst.roundedMantissa_of_power hv hlt, shiftToTargetExponent_of_eq hmin]
    rfl

end BehaviorTree.Decimal
