import BehaviorTree.Proofs.Document.Timestamp

/-! # How recent a timestamp is

A count of seconds since 1970 is rounded to a double, which keeps the order of the points in time
(`recency_mono`).  Up to 2^33 seconds from 1970, that is until the year 2242, nothing is rounded
(`instant_eq_of_recency_eq`); farther away, counts that differ by a microsecond may become equal. -/

namespace BehaviorTree.Timestamp

/-! ### Rounding -/

theorem div_le_roundDiv (n d : ℕ) : n / d ≤ roundDiv n d := by
  unfold roundDiv
  dsimp only
  split_ifs <;> omega

theorem roundDiv_le_div_add_one (n d : ℕ) : roundDiv n d ≤ n / d + 1 := by
  unfold roundDiv
  dsimp only
  split_ifs <;> omega

/-- Rounding keeps the order. -/
theorem roundDiv_mono {m n : ℕ} (d : ℕ) (h : m ≤ n) : roundDiv m d ≤ roundDiv n d := by
  rcases (Nat.div_le_div_right (c := d) h).lt_or_eq with hlt | heq
  · calc roundDiv m d ≤ m / d + 1 := roundDiv_le_div_add_one m d
      _ ≤ n / d := hlt
      _ ≤ roundDiv n d := div_le_roundDiv n d
  · have hm := Nat.div_add_mod m d
    have hn := Nat.div_add_mod n d
    rw [heq] at hm
    unfold roundDiv
    dsimp only
    rw [heq]
    split_ifs <;> omega

/-! ### Distances from 1970 -/

/-- The binary places of a distance from 1970 in whole seconds, but for the first. -/
def bits (magnitude : ℕ) : ℕ := Nat.log2 (magnitude / 1000000)

/-- The count of a distance from 1970 in microseconds, as a double of seconds. -/
def rounded (magnitude : ℕ) : ℕ :=
  if bits magnitude < 33 then magnitude <<< 20
  else (roundDiv (magnitude <<< (52 - bits magnitude)) 1000000 * 1000000) <<< (bits magnitude - 32)

theorem recency_eq (zone : Zone) (t : Timestamp) : t.recency zone =
    if t.instant zone < 0 then -(rounded (t.instant zone).natAbs : ℤ)
    else rounded (t.instant zone).natAbs :=
  rfl

theorem rounded_of_lt {m : ℕ} (h : bits m < 33) : rounded m = m * 2 ^ 20 := by
  rw [rounded, if_pos h, Nat.shiftLeft_eq]

theorem rounded_of_le {m : ℕ} (h : 33 ≤ bits m) : rounded m =
    roundDiv (m * 2 ^ (52 - bits m)) 1000000 * 1000000 * 2 ^ (bits m - 32) := by
  rw [rounded, if_neg (not_lt.2 h), Nat.shiftLeft_eq, Nat.shiftLeft_eq]

theorem lt_two_pow_bits (m : ℕ) : m < 2 ^ (bits m + 1) * 1000000 := by
  have hlt : m / 1000000 < 2 ^ (bits m + 1) := Nat.lt_log2_self
  exact (Nat.div_lt_iff_lt_mul (by decide)).1 hlt

theorem two_pow_bits_le {m : ℕ} (h : bits m ≠ 0) : 2 ^ bits m * 1000000 ≤ m := by
  have hne : m / 1000000 ≠ 0 := by
    intro hzero
    rw [bits, hzero] at h
    exact h rfl
  exact (Nat.le_div_iff_mul_le (by decide)).1 (Nat.log2_self_le hne)

theorem bits_mono {m n : ℕ} (h : m ≤ n) : bits m ≤ bits n := by
  by_cases hzero : bits m = 0
  · rw [hzero]
    exact Nat.zero_le _
  · by_contra hlt
    have hm := two_pow_bits_le hzero
    have hn := lt_two_pow_bits n
    have hpow : 2 ^ (bits n + 1) ≤ 2 ^ bits m := Nat.pow_le_pow_right (by decide) (by omega)
    have := Nat.mul_le_mul_right 1000000 hpow
    omega

/-- Rounding does not go beyond the next power of two. -/
theorem rounded_le (m : ℕ) (hbits : bits m ≤ 52) : rounded m ≤ 2 ^ (bits m + 21) * 1000000 := by
  have hlt := lt_two_pow_bits m
  by_cases h : bits m < 33
  · rw [rounded_of_lt h]
    calc m * 2 ^ 20 ≤ 2 ^ (bits m + 1) * 1000000 * 2 ^ 20 := Nat.mul_le_mul_right _ hlt.le
      _ = 2 ^ (bits m + 21) * 1000000 := by ring
  · have hdiv : m * 2 ^ (52 - bits m) / 1000000 < 2 ^ 53 := by
      rw [Nat.div_lt_iff_lt_mul (by decide)]
      calc m * 2 ^ (52 - bits m) < 2 ^ (bits m + 1) * 1000000 * 2 ^ (52 - bits m) :=
            Nat.mul_lt_mul_of_pos_right hlt (Nat.two_pow_pos _)
        _ = 2 ^ (bits m + 1 + (52 - bits m)) * 1000000 := by ring
        _ = 2 ^ 53 * 1000000 := by congr 2; omega
    have hround := (roundDiv_le_div_add_one (m * 2 ^ (52 - bits m)) 1000000).trans hdiv
    rw [rounded_of_le (not_lt.1 h)]
    calc roundDiv (m * 2 ^ (52 - bits m)) 1000000 * 1000000 * 2 ^ (bits m - 32)
        ≤ 2 ^ 53 * 1000000 * 2 ^ (bits m - 32) :=
          Nat.mul_le_mul_right _ (Nat.mul_le_mul_right _ hround)
      _ = 2 ^ (53 + (bits m - 32)) * 1000000 := by ring
      _ = 2 ^ (bits m + 21) * 1000000 := by congr 2; omega

theorem le_rounded {m : ℕ} (h : 33 ≤ bits m) (hbits : bits m ≤ 52) :
    2 ^ (bits m + 20) * 1000000 ≤ rounded m := by
  have hle := two_pow_bits_le (m := m) (by omega)
  have hdiv : 2 ^ 52 ≤ m * 2 ^ (52 - bits m) / 1000000 := by
    rw [Nat.le_div_iff_mul_le (by decide)]
    calc 2 ^ 52 * 1000000 = 2 ^ (bits m + (52 - bits m)) * 1000000 := by congr 2; omega
      _ = 2 ^ bits m * 1000000 * 2 ^ (52 - bits m) := by ring
      _ ≤ m * 2 ^ (52 - bits m) := Nat.mul_le_mul_right _ hle
  have hround := hdiv.trans (div_le_roundDiv (m * 2 ^ (52 - bits m)) 1000000)
  rw [rounded_of_le h]
  calc 2 ^ (bits m + 20) * 1000000 = 2 ^ (52 + (bits m - 32)) * 1000000 := by congr 2; omega
    _ = 2 ^ 52 * 1000000 * 2 ^ (bits m - 32) := by ring
    _ ≤ roundDiv (m * 2 ^ (52 - bits m)) 1000000 * 1000000 * 2 ^ (bits m - 32) :=
        Nat.mul_le_mul_right _ (Nat.mul_le_mul_right _ hround)

/-- **Rounding keeps the order of distances.** -/
theorem rounded_mono {m n : ℕ} (h : m ≤ n) (hbits : bits n ≤ 52) : rounded m ≤ rounded n := by
  have hle := bits_mono h
  rcases Nat.lt_or_ge (bits n) 33 with hn | hn
  · rw [rounded_of_lt hn, rounded_of_lt (hle.trans_lt hn)]
    exact Nat.mul_le_mul_right _ h
  · rcases hle.lt_or_eq with hlt | heq
    · calc rounded m ≤ 2 ^ (bits m + 21) * 1000000 := rounded_le m (hle.trans hbits)
        _ ≤ 2 ^ (bits n + 20) * 1000000 :=
            Nat.mul_le_mul_right _ (Nat.pow_le_pow_right (by decide) (by omega))
        _ ≤ rounded n := le_rounded hn hbits
    · rw [rounded_of_le hn, rounded_of_le (heq ▸ hn), heq]
      exact Nat.mul_le_mul_right _ (Nat.mul_le_mul_right _
        (roundDiv_mono _ (Nat.mul_le_mul_right _ h)))

/-! ### Points in time -/

variable {zone : Zone} {t u : Timestamp}

/-- The points in time that such a clock can show are no farther from 1970 than doubles count. -/
theorem bits_le (h : t.Valid) (haware : t.offset.isSome = true) :
    bits (t.instant zone).natAbs ≤ 52 := by
  obtain ⟨hge, hlt, hoffset⟩ := h
  have hshift : (t.offset.getD 0).natAbs < 1440 := by
    cases ho : t.offset with
    | none => decide
    | some minutes => exact hoffset minutes ho
  have hfar : (t.instant zone).natAbs < 2 ^ 52 * 1000000 := by
    have hstart : yearStart 1 = -719162 := by decide
    have hend : yearStart 10000 = 2932897 := by decide
    rw [hstart, day_eq] at hge
    rw [hend, day_eq] at hlt
    rw [instant_of_aware haware, second_eq]
    omega
  by_contra hbits
  have hle := two_pow_bits_le (m := (t.instant zone).natAbs) (by omega)
  have hpow : 2 ^ 52 ≤ 2 ^ bits (t.instant zone).natAbs :=
    Nat.pow_le_pow_right (by decide) (by omega)
  have := Nat.mul_le_mul_right 1000000 hpow
  omega

/-- **Of two points in time, the later is not less recent.** -/
theorem recency_mono (ht : t.Valid) (hu : u.Valid) (hat : t.offset.isSome = true)
    (hau : u.offset.isSome = true) (h : t.instant zone ≤ u.instant zone) :
    t.recency zone ≤ u.recency zone := by
  have hmono := rounded_mono (m := (t.instant zone).natAbs) (n := (u.instant zone).natAbs)
  have hmono' := rounded_mono (m := (u.instant zone).natAbs) (n := (t.instant zone).natAbs)
  rw [recency_eq, recency_eq]
  split_ifs with htneg huneg huneg
  · have := hmono' (by omega) (bits_le ht hat)
    omega
  · omega
  · omega
  · have := hmono (by omega) (bits_le hu hau)
    omega

/-- **Until 2^33 seconds from 1970 the count tells the point in time.** -/
theorem instant_eq_of_recency_eq (ht : (t.instant zone).natAbs < 2 ^ 33 * 1000000)
    (hu : (u.instant zone).natAbs < 2 ^ 33 * 1000000) (h : t.recency zone = u.recency zone) :
    t.instant zone = u.instant zone := by
  have hbits : ∀ m < 2 ^ 33 * 1000000, rounded m = m * 2 ^ 20 := by
    intro m hm
    refine rounded_of_lt ?_
    by_contra hbits
    have hle := two_pow_bits_le (m := m) (by omega)
    have hpow : 2 ^ 33 ≤ 2 ^ bits m := Nat.pow_le_pow_right (by decide) (not_lt.1 hbits)
    have := Nat.mul_le_mul_right 1000000 hpow
    omega
  rw [recency_eq, recency_eq, hbits _ ht, hbits _ hu] at h
  split_ifs at h <;> omega

end BehaviorTree.Timestamp
