import BehaviorTree.Proofs.Decimal.Defined
import BehaviorTree.Proofs.Decimal.Scientific

/-! # Bounds of numerals

What a numeral says of the double nearest to it.  It is not below zero, since its sign is positive
(`zero_le_toFloat`), and the double of a natural number from one on is not below one
(`one_le_toFloat`): rounding does not leave the range in which the last place is at least that of one
(`FromOne`), and packing keeps a value there or makes it infinite. -/

namespace BehaviorTree.Decimal

open Float.Model Float.Model.UnpackedFloat BehaviorTree.Text

/-! ### From zero on -/

theorem zero_le_toFloat (w : Written) : 0.0 ≤ w.toFloat := by
  have hcases : ∀ {f : UnpackedFloat}, sign? f = some .positive →
      UnpackedFloat.le (.zero .positive) f = true := by
    intro f h
    cases f with
    | notANumber => cases h
    | _ =>
        obtain rfl := Option.some.inj h
        rfl
  exact decide_eq_true (hcases (sign?_toFloat w))

theorem neg_one_le_toFloat (w : Written) : -1.0 ≤ w.toFloat := by
  have hone : (-1.0 : Float).toModel.unpack = .finite .negative (2 ^ 52) (-52) (by decide) := rfl
  have hcases : ∀ {f : UnpackedFloat}, sign? f = some .positive →
      UnpackedFloat.le (-1.0 : Float).toModel.unpack f = true := by
    intro f h
    rw [hone]
    cases f with
    | notANumber => cases h
    | _ =>
        obtain rfl := Option.some.inj h
        rfl
  exact decide_eq_true (hcases (sign?_toFloat w))

/-! ### From one on -/

/-- The values from one on: a finite one has all bits of a double, and its last place is not below
that of one. -/
def FromOne : UnpackedFloat → Prop
  | .infinity .positive => True
  | .finite .positive m e _ => 2 ^ 52 ≤ m ∧ m < 2 ^ 53 ∧ -52 ≤ e
  | _ => False

theorem one_le_of_fromOne {x : Float} (h : FromOne x.toModel.unpack) : 1.0 ≤ x := by
  have hone : (1.0 : Float).toModel.unpack = .finite .positive (2 ^ 52) (-52) (by decide) := rfl
  have hcases : ∀ {f : UnpackedFloat}, FromOne f →
      UnpackedFloat.le (1.0 : Float).toModel.unpack f = true := by
    intro f hf
    rw [hone]
    unfold FromOne at hf
    split at hf
    · rfl
    · rename_i m e _
      have horder : ((compare (-52) e).then (compare (2 ^ 52) m)).isLE = true := by
        rw [Ordering.isLE_then_iff_and, Int.isLE_compare, Nat.isLE_compare]
        exact ⟨hf.2.2, Or.inr hf.1⟩
      exact horder
    · exact hf.elim
  exact decide_eq_true (hcases h)

/-- Packing keeps a value from one on there, or makes it infinite. -/
theorem FromOne.unpack_pack {f : UnpackedFloat} (h : FromOne f) :
    FromOne (Float.Model.pack f).unpack := by
  unfold FromOne at h
  split at h
  · have hinfinity : (Float.Model.pack (.infinity .positive)).unpack = .infinity .positive := rfl
    rw [hinfinity]
    trivial
  · rename_i m e hm
    obtain ⟨hlow, hhigh, he⟩ := h
    by_cases hle : e ≤ 971
    · let x : Binary := ⟨m, e, m = 2 ^ 52⟩
      have hx : x.Canonical := ⟨hm, hhigh, by show -1074 ≤ e; omega, hle, Or.inr hlow, by
        show decide (m = 2 ^ 52) = true ↔ m = 2 ^ 52 ∧ -1074 < e
        rw [decide_eq_true_iff]
        omega⟩
      have hsame := Decimal.unpack_pack hx .positive
      change (Float.Model.pack (.finite .positive m e hm)).unpack = .finite .positive m e hm at hsame
      rw [hsame]
      exact ⟨hlow, hhigh, he⟩
    · have hpacked : UnpackedFloat.pack .binary64 (.finite .positive m e hm) =
          packedInfinity .binary64 .positive := by
        rw [pack_finite, if_pos (by omega)]
      have hinfinity : (Float.Model.pack (.finite .positive m e hm)).unpack =
          .infinity .positive := by
        change UnpackedFloat.unpack .binary64 (UnpackedFloat.pack .binary64 _) = _
        rw [hpacked]
        rfl
      rw [hinfinity]
      trivial
  · exact h.elim

theorem roundedMantissa_bounds (em : ExtendedMantissa) :
    em.mantissa ≤ em.roundedMantissa ∧ em.roundedMantissa ≤ em.mantissa + 1 := by
  obtain ⟨m, round, sticky⟩ := em
  cases round <;> cases sticky <;>
    simp [ExtendedMantissa.roundedMantissa, ExtendedMantissa.accuracy, Accuracy.roundToNearestEven]
  omega

/-- **Rounding does not go below one.** -/
theorem fromOne_roundWithAccuracy {mantissa : ℕ} {e : ℤ} {accuracy : Accuracy} {v : ℚ}
    (h : Approximates (.ofMantissaAndAccuracy mantissa accuracy) e v)
    (he : e ≤ roundingExponent mantissa e) (hv : 1 ≤ v) :
    FromOne (roundWithAccuracy .binary64 .positive mantissa e accuracy) := by
  have hbounds := h.bounds
  rw [mantissa_ofMantissaAndAccuracy] at hbounds
  obtain ⟨hlt, hge⟩ := bounds_roundingExponent hbounds.1 hbounds.2 he
  have ht : -52 ≤ roundingExponent mantissa e := by
    by_contra hcon
    have hle : (2 : ℚ) ^ (53 + roundingExponent mantissa e) ≤ 2 ^ (0 : ℤ) :=
      zpow_le_zpow_right₀ (by norm_num) (by omega)
    rw [zpow_zero] at hle
    linarith
  have hge := hge.resolve_left (by omega)
  obtain ⟨em, hfirst, hround⟩ := h.exists_rounded he .positive
  rw [hround]
  generalize roundingExponent mantissa e = t at *
  dsimp only
  have hpow : (0 : ℚ) < 2 ^ t := by positivity
  rw [zpow_add₀ (by norm_num)] at hlt hge
  have hlow : 2 ^ 52 < em.mantissa + 1 := by
    have := lt_of_mul_lt_mul_right (hge.trans_lt hfirst.bounds.2) hpow.le
    exact_mod_cast this
  have hhigh : em.mantissa < 2 ^ 53 := by
    have := lt_of_mul_lt_mul_right (hfirst.bounds.1.trans_lt hlt) hpow.le
    exact_mod_cast this
  -- Rounding up may make one bit too many, and then the last place goes up with the next shift.
  have hrounded := roundedMantissa_bounds em
  rcases Nat.lt_or_ge em.roundedMantissa (2 ^ 53) with hfits | hcarry
  · rw [shiftToTargetExponent_of_lt hfits (by omega), dif_neg (by dsimp only; omega)]
    exact ⟨by dsimp only; omega, hfits, ht⟩
  · have hcarry : em.roundedMantissa = 2 ^ 53 := by omega
    rw [hcarry, shiftToTargetExponent_of_eq (by omega)]
    exact ⟨le_refl _, by norm_num, by omega⟩

/-- A product from one on is rounded to a value from one on, if it has bits enough. -/
theorem fromOne_mul {m n : ℕ} {d e : ℤ} (hm : 0 < m) (hn : 0 < n)
    (hv : 1 ≤ (m : ℚ) * 2 ^ d * (n * 2 ^ e)) (he : d + e ≤ roundingExponent (m * n) (d + e)) :
    FromOne (UnpackedFloat.mul .binary64 (.finite .positive m d hm) (.finite .positive n e hn)) := by
  rw [mul_value] at hv
  exact fromOne_roundWithAccuracy (approximates_exact _ _) he hv

theorem fromOne_ofScientific_model {n : ℕ} (hpos : 0 < n) {e : ℤ} (he : 0 ≤ e) :
    FromOne (UnpackedFloat.ofScientific .binary64 n e) := by
  have hsmall : ¬ e < -(2 ^ Format.binary64.exponentBits + (n.log2 : ℤ)) := by
    have : (0 : ℤ) ≤ 2 ^ Format.binary64.exponentBits := by positivity
    omega
  unfold UnpackedFloat.ofScientific
  rw [dif_neg hpos.ne', if_neg hsmall, if_pos he]
  split_ifs
  · trivial
  · refine fromOne_mul _ _ ?_
      (le_roundingExponent (le_shiftLeft_mantissaBits_mul hpos (by positivity)) _)
    rw [shiftLeft_mantissaBits, zpow_zero, mul_one]
    exact_mod_cast Nat.mul_pos hpos (by positivity)

/-- The digits of a natural number below `2 ^ 53` are read as its own double. -/
theorem toFloat_whole {digits : List ℕ} (hdigits : ∀ d ∈ digits, d < 10) {n : ℕ}
    (hn : ofDigits digits = n) (hpos : 0 < n) (hlt : n < 2 ^ 53) :
    Written.toFloat ⟨digits, 0, 0⟩ = (wholeForm n).double (canonical_wholeForm hpos hlt) := by
  have hx := canonical_wholeForm hpos hlt
  have hvalue : Written.value ⟨digits, 0, 0⟩ = (wholeForm n).value := by
    rw [value_wholeForm hpos hlt]
    simp [Written.value, hn]
  exact Written.toFloat_of_covers hx hdigits (hvalue ▸ hx.covers_value)

theorem fromOne_double_wholeForm {n : ℕ} (hpos : 0 < n) (hlt : n < 2 ^ 53) :
    FromOne ((wholeForm n).double (canonical_wholeForm hpos hlt)).toModel.unpack := by
  have hx := canonical_wholeForm hpos hlt
  have hlog : n.log2 ≤ 52 := Nat.lt_succ_iff.1 ((Nat.log2_lt hpos.ne').2 hlt)
  have hexponent : -52 ≤ (wholeForm n).exponent := by
    simp only [wholeForm]
    omega
  have hbits := hx.normal.resolve_left (by omega)
  have hfrom : FromOne (.finite .positive _ _ hx.significand_pos) :=
    ⟨hbits, hx.significand_lt, hexponent⟩
  exact hfrom.unpack_pack

/-- A natural number that is multiplied out. -/
theorem fromOne_ofScientific {n : ℕ} (hpos : 0 < n) (hlarge : 2 ^ 53 ≤ n) (negative : Bool) :
    FromOne (Float.ofScientific n negative 0).toModel.unpack := by
  unfold Float.ofScientific
  rw [dif_neg fun h => absurd h.1 (not_lt.2 hlarge)]
  refine (fromOne_ofScientific_model hpos ?_).unpack_pack
  cases negative <;> exact le_refl 0

/-- **The double of a natural number from one on is not below one.** -/
theorem one_le_toFloat {digits : List ℕ} (hdigits : ∀ d ∈ digits, d < 10)
    (hpos : 0 < ofDigits digits) : 1.0 ≤ Written.toFloat ⟨digits, 0, 0⟩ := by
  apply one_le_of_fromOne
  by_cases hlt : ofDigits digits < 2 ^ 53
  · rw [toFloat_whole hdigits rfl hpos hlt]
    exact fromOne_double_wholeForm hpos hlt
  · have hsame := ofDigits_dropWhile_zero digits
    unfold Written.toFloat
    dsimp only
    have hne : digits.dropWhile (· = 0) ≠ [] := by
      intro hnil
      rw [hnil] at hsame
      exact hpos.ne hsame
    rw [if_neg (by simp [hne])]
    split_ifs
    · trivial
    · rw [← hsame] at hpos hlt
      exact fromOne_ofScientific hpos (not_lt.1 hlt) _

/-- The negative of a natural number up to one is not below minus one. -/
theorem neg_one_le_neg_toFloat {digits : List ℕ} (hdigits : ∀ d ∈ digits, d < 10)
    (hle : ofDigits digits ≤ 1) : -1.0 ≤ -Written.toFloat ⟨digits, 0, 0⟩ := by
  rcases Nat.le_one_iff_eq_zero_or_eq_one.1 hle with hzero | hone
  · rw [Written.toFloat_of_value_eq_zero hzero]
    decide
  · rw [toFloat_whole hdigits hone (by norm_num) (by norm_num)]
    change -1.0 ≤ -(1.0 : Float)
    decide

end BehaviorTree.Decimal
