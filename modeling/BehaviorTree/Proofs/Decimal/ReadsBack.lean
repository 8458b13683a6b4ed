import BehaviorTree.Proofs.Decimal.Scientific

/-! # Shortest decimals read back

The shortest decimal of a double rounds to the double (`Binary.covers_shortest`): whatever grid it is
found on, it was tested there, and the exact value stands in where no grid has one.  The test
compares fractions by their cross products (`compareScaled_eq_lt_iff`). -/

namespace BehaviorTree.Decimal

/-- The number of a decimal. -/
def value (d : Decimal) : ℚ := d.digits * 10 ^ d.exponent

/-! ### Comparing -/

theorem power_cast (base : ℕ) (e : ℤ) : (power base e : ℚ) = (base : ℚ) ^ e.toNat :=
  Nat.cast_pow base e.toNat

theorem power_of_nonpos (base : ℕ) {e : ℤ} (h : e ≤ 0) : power base e = 1 := by
  rw [power, Int.toNat_of_nonpos h]
  rfl

theorem zpow_mul_power (base : ℕ) (h : base ≠ 0) (e : ℤ) :
    (base : ℚ) ^ e * power base (-e) = power base e := by
  have hq : (base : ℚ) ≠ 0 := by exact_mod_cast h
  rw [power_cast, power_cast, ← zpow_natCast, ← zpow_natCast, ← zpow_add₀ hq]
  congr 1
  omega

/-- The cross products that are compared, against the numbers. -/
theorem crossProducts (a : ℕ) (i : ℤ) (n : ℕ) (j : ℤ) :
    ∃ c : ℚ, 0 < c ∧
      ((a * power 10 i * power 2 (-j) : ℕ) : ℚ) = a * 10 ^ i * c ∧
      ((n * power 2 j * power 10 (-i) : ℕ) : ℚ) = n * 2 ^ j * c := by
  have hten := zpow_mul_power 10 (by norm_num) i
  have htwo := zpow_mul_power 2 (by norm_num) j
  refine ⟨power 10 (-i) * power 2 (-j), ?_, ?_, ?_⟩
  · rw [power_cast, power_cast]
    positivity
  · push_cast at hten ⊢
    rw [← hten]
    ring
  · push_cast at htwo ⊢
    rw [← htwo]
    ring

theorem compareScaled_eq_lt_iff {a : ℕ} {i : ℤ} {n : ℕ} {j : ℤ} :
    compareScaled a i n j = .lt ↔ (a : ℚ) * 10 ^ i < n * 2 ^ j := by
  obtain ⟨c, hc, ha, hn⟩ := crossProducts a i n j
  rw [compareScaled, Nat.compare_eq_lt, ← Nat.cast_lt (α := ℚ), ha, hn, mul_lt_mul_iff_left₀ hc]

theorem compareScaled_eq_eq_iff {a : ℕ} {i : ℤ} {n : ℕ} {j : ℤ} :
    compareScaled a i n j = .eq ↔ (a : ℚ) * 10 ^ i = n * 2 ^ j := by
  obtain ⟨c, hc, ha, hn⟩ := crossProducts a i n j
  rw [compareScaled, Nat.compare_eq_eq, ← Nat.cast_inj (R := ℚ), ha, hn, mul_left_inj' hc.ne']

theorem compareScaled_eq_gt_iff {a : ℕ} {i : ℤ} {n : ℕ} {j : ℤ} :
    compareScaled a i n j = .gt ↔ (n : ℚ) * 2 ^ j < a * 10 ^ i := by
  obtain ⟨c, hc, ha, hn⟩ := crossProducts a i n j
  rw [compareScaled, Nat.compare_eq_gt, ← Nat.cast_lt (α := ℚ), ha, hn, mul_lt_mul_iff_left₀ hc]

/-! ### The shortest decimal -/

namespace Binary

variable {x : Binary}

/-- A decimal reads back as a double when it rounds to the double. -/
theorem readsBack_iff (d : Decimal) : x.readsBack d = true ↔ x.Covers d.value := by
  unfold readsBack Covers
  simp only [Bool.and_eq_true, Bool.or_eq_true, decide_eq_true_eq, compareScaled_eq_lt_iff,
    compareScaled_eq_eq_iff, compareScaled_eq_gt_iff]
  rw [eq_comm (a := (d.digits : ℚ) * 10 ^ d.exponent)]
  rfl

theorem readsBack_of_onGrid? {place : ℤ} {d : Decimal} (h : x.onGrid? place = some d) :
    x.readsBack d = true := by
  unfold onGrid? at h
  dsimp only at h
  split at h
  · rename_i hlower hupper
    split at h
    · obtain rfl := Option.some.inj h
      exact hlower
    · obtain rfl := Option.some.inj h
      exact hupper
    · obtain rfl := Option.some.inj h
      split_ifs
      · exact hlower
      · exact hupper
  · rename_i hlower _
    obtain rfl := Option.some.inj h
    exact hlower
  · rename_i hupper
    obtain rfl := Option.some.inj h
    exact hupper
  · cases h

theorem value_exact (x : Binary) : x.exact.value = x.value := by
  have htwo := zpow_mul_power 2 (by norm_num) x.exponent
  unfold exact Decimal.value Binary.value
  rcases le_or_gt 0 x.exponent with h | h
  · have hpower : power 5 (-x.exponent) = 1 := power_of_nonpos 5 (by omega)
    rw [min_eq_right h, hpower, zpow_zero]
    push_cast
    rw [power_cast, ← zpow_natCast, Int.toNat_of_nonneg h]
    push_cast
    ring
  · have hpower : power 2 x.exponent = 1 := power_of_nonpos 2 h.le
    have hexponent : x.exponent = -((-x.exponent).toNat : ℤ) := by omega
    rw [min_eq_left h.le, hpower]
    push_cast
    rw [power_cast]
    generalize (-x.exponent).toNat = n at hexponent
    rw [hexponent, zpow_neg, zpow_neg, zpow_natCast, zpow_natCast,
      show (10 : ℚ) ^ n = 2 ^ n * 5 ^ n by rw [← mul_pow]; norm_num]
    push_cast
    field_simp

end Binary

theorem value_dropZeros (steps : ℕ) (d : Decimal) : (dropZeros steps d).value = d.value := by
  induction steps generalizing d with
  | zero => rfl
  | succ steps ih =>
      rw [dropZeros]
      split_ifs with h
      · have hsplit : (d.digits : ℚ) = 10 * (d.digits / 10 : ℕ) := by
          exact_mod_cast (Nat.mul_div_cancel' (Nat.dvd_of_mod_eq_zero h.2)).symm
        rw [ih]
        unfold value
        dsimp only
        rw [hsplit, zpow_add_one₀ (by norm_num)]
        ring
      · rfl

/-- **The shortest decimal of a double rounds to the double.** -/
theorem Binary.covers_shortest {x : Binary} (hx : x.Canonical) : x.Covers x.shortest.value := by
  unfold Binary.shortest
  rw [if_neg hx.significand_pos.ne']
  dsimp only
  rw [value_dropZeros]
  cases hfound : (List.range 17).findSome? fun n => x.onGrid? (x.magnitude - (n + 1 : ℕ)) with
  | none =>
      rw [Option.getD_none, x.value_exact]
      exact hx.covers_value
  | some d =>
      obtain ⟨n, -, hgrid⟩ := List.exists_of_findSome?_eq_some hfound
      exact (readsBack_iff d).1 (readsBack_of_onGrid? hgrid)

end BehaviorTree.Decimal
