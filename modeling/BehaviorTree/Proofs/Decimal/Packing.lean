import BehaviorTree.Proofs.Decimal.Rounding

/-! # Packed doubles

The bits of a finite double are its sign, its exponent and its fraction.  `Binary.ofBits` reads the
same canonical form from them as the arithmetic of doubles does (`unpack_of_isFinite`), and a double
is made of its canonical form and its sign again (`eq_ofModel_pack`). -/

namespace BehaviorTree.Decimal

open Float.Model Float.Model.UnpackedFloat

/-! ### Fields -/

/-- The exponent in the bits of a double. -/
def exponentField (bits : UInt64) : BitVec 11 := @unpackExponent .binary64 bits.toBitVec

/-- The fraction in the bits of a double. -/
def fractionField (bits : UInt64) : BitVec 52 := @unpackMantissa .binary64 bits.toBitVec

/-- The sign in the bits of a double. -/
def signField (bits : UInt64) : Sign := .ofBitVec (@unpackSign .binary64 bits.toBitVec)

theorem toNat_exponentField (bits : UInt64) :
    ((bits >>> 52) &&& 0x7FF).toNat = (exponentField bits).toNat := by
  have hmask : (0x7FF : UInt64).toNat = 2 ^ 11 - 1 := rfl
  have hshift : ((52 : UInt64).toNat % 64) = 52 := rfl
  rw [UInt64.toNat_and, UInt64.toNat_shiftRight, hmask, hshift, Nat.and_two_pow_sub_one_eq_mod]
  simp [exponentField, unpackExponent, BitVec.extractLsb, BitVec.extractLsb']

theorem toNat_fractionField (bits : UInt64) :
    (bits &&& 0xFFFFFFFFFFFFF).toNat = (fractionField bits).toNat := by
  have hmask : (0xFFFFFFFFFFFFF : UInt64).toNat = 2 ^ 52 - 1 := rfl
  rw [UInt64.toNat_and, hmask, Nat.and_two_pow_sub_one_eq_mod]
  simp [fractionField, unpackMantissa, BitVec.extractLsb, BitVec.extractLsb']

theorem signField_eq (bits : UInt64) :
    signField bits = if bits >>> 63 = 1 then .negative else .positive := by
  have hsign : (@unpackSign .binary64 bits.toBitVec).toNat = (bits >>> 63).toNat := by
    have hshift : ((63 : UInt64).toNat % 64) = 63 := rfl
    rw [UInt64.toNat_shiftRight, hshift]
    simp [unpackSign, BitVec.extractLsb, BitVec.extractLsb', Nat.shiftRight_eq_div_pow]
    have := bits.toNat_lt
    omega
  have hone : bits >>> 63 = 1 ↔ (@unpackSign .binary64 bits.toBitVec).toNat = 1 := by
    rw [hsign]
    exact UInt64.toNat_inj.symm
  have hzero : @unpackSign .binary64 bits.toBitVec = 0#1 ↔
      (@unpackSign .binary64 bits.toBitVec).toNat = 0 := by
    rw [← BitVec.toNat_inj]
    rfl
  have hlt := (@unpackSign .binary64 bits.toBitVec).isLt
  unfold signField Sign.ofBitVec
  split_ifs with h1 h2 h3
  · rw [hzero] at h1
    rw [hone] at h2
    omega
  · rfl
  · rfl
  · rw [hzero] at h1
    rw [hone] at h3
    omega

/-! ### Unpacking -/

theorem ofBits_eq (bits : UInt64) :
    Binary.ofBits bits =
      if (exponentField bits).toNat = 0 then ⟨(fractionField bits).toNat, -1074, false⟩
      else ⟨2 ^ 52 + (fractionField bits).toNat, ((exponentField bits).toNat : ℤ) - 1075,
        (fractionField bits).toNat = 0 ∧ 1 < (exponentField bits).toNat⟩ := by
  unfold Binary.ofBits
  dsimp only
  rw [toNat_exponentField, toNat_fractionField]
  rfl

theorem append_implicit (f : BitVec 52) : (1#1 ++ f).toNat = 2 ^ 52 + f.toNat := by
  rw [BitVec.toNat_append, ← Nat.shiftLeft_add_eq_or_of_lt f.isLt]
  rfl

theorem toNat_pos_of_ne_zero {width : ℕ} {bits : BitVec width} (h : bits ≠ 0#_) :
    0 < bits.toNat :=
  Nat.pos_of_ne_zero fun hzero => h (BitVec.eq_of_toNat_eq hzero)

theorem implicit_pos (f : BitVec 52) : 0 < (1#1 ++ f).toNat := by
  rw [append_implicit]
  positivity

theorem unpack_toModel (x : Float) :
    x.toModel.unpack =
      if exponentField x.toBits = -1#_ then
        if fractionField x.toBits = 0#_ then .infinity (signField x.toBits) else .notANumber
      else if exponentField x.toBits = 0#_ then
        if h : fractionField x.toBits = 0#_ then .zero (signField x.toBits)
        else .finite (signField x.toBits) (fractionField x.toBits).toNat
          (((exponentField x.toBits).toNat : ℤ) - 1075 + 1) (toNat_pos_of_ne_zero h)
      else .finite (signField x.toBits) (1#1 ++ fractionField x.toBits).toNat
        (((exponentField x.toBits).toNat : ℤ) - 1075) (implicit_pos _) := rfl

/-- The exponent field of a finite double is not that of the infinities. -/
theorem exponentField_ne {x : Float} (h : x.isFinite = true) : exponentField x.toBits ≠ -1#_ := by
  intro hall
  change x.toModel.unpack.isFinite = true at h
  rw [unpack_toModel, if_pos hall] at h
  split_ifs at h <;> cases h

theorem exponentField_lt {x : Float} (h : x.isFinite = true) :
    (exponentField x.toBits).toNat < 2047 := by
  have hlt := (exponentField x.toBits).isLt
  have hne : (exponentField x.toBits).toNat ≠ (-1#11).toNat :=
    fun he => exponentField_ne h (BitVec.eq_of_toNat_eq he)
  rw [show (-1#11).toNat = 2047 from rfl] at hne
  omega

/-- A finite double that is not zero has a canonical form. -/
theorem canonical_ofBits {x : Float} (h : x.isFinite = true)
    (hpos : (Binary.ofBits x.toBits).significand ≠ 0) : (Binary.ofBits x.toBits).Canonical := by
  have hlt := exponentField_lt h
  have hfraction := (fractionField x.toBits).isLt
  rw [ofBits_eq] at hpos ⊢
  by_cases hzero : (exponentField x.toBits).toNat = 0
  · rw [if_pos hzero] at hpos ⊢
    dsimp only at hpos
    refine ⟨Nat.pos_of_ne_zero hpos, ?_, ?_, ?_, Or.inl rfl, ?_⟩ <;> dsimp only
    · omega
    · omega
    · omega
    · simp
  · rw [if_neg hzero]
    refine ⟨by positivity, ?_, ?_, ?_, Or.inr ?_, ?_⟩ <;> dsimp only
    · omega
    · omega
    · omega
    · omega
    · rw [decide_eq_true_iff]
      omega

/-- **The canonical form of a finite double**, as arithmetic reads it from the bits. -/
theorem unpack_of_isFinite {x : Float} (h : x.isFinite = true) :
    x.toModel.unpack =
      if hpos : (Binary.ofBits x.toBits).significand = 0 then .zero (signField x.toBits)
      else .finite (signField x.toBits) (Binary.ofBits x.toBits).significand
        (Binary.ofBits x.toBits).exponent (Nat.pos_of_ne_zero hpos) := by
  have hzero : exponentField x.toBits = 0#_ ↔ (exponentField x.toBits).toNat = 0 :=
    BitVec.toNat_inj.symm
  have hfraction : fractionField x.toBits = 0#_ ↔ (fractionField x.toBits).toNat = 0 :=
    BitVec.toNat_inj.symm
  rw [unpack_toModel, if_neg (exponentField_ne h)]
  by_cases hz : exponentField x.toBits = 0#_
  · have hbits : Binary.ofBits x.toBits = ⟨(fractionField x.toBits).toNat, -1074, false⟩ := by
      rw [ofBits_eq, if_pos (hzero.1 hz)]
    simp only [hz, hbits, hfraction, if_true]
    rfl
  · have hbits := ofBits_eq x.toBits
    rw [if_neg (mt hzero.2 hz)] at hbits
    rw [if_neg hz, dif_neg (by rw [hbits]; simp)]
    simp only [hbits, append_implicit]

/-! ### Packing -/

theorem pack_finite (sign : Sign) (m : ℕ) (e : ℤ) (h : 0 < m) :
    UnpackedFloat.pack .binary64 (.finite sign m e h) =
      if 2 ^ 11 ≤ (e + 1075).toNat + 1 then packedInfinity .binary64 sign
      else if m.log2 + 1 = 53 then
        packComponents .binary64 sign (BitVec.ofNat 11 (e + 1075).toNat) (BitVec.ofNat 52 m)
      else packComponents .binary64 sign 0#11 (BitVec.ofNat 52 m) := by
  have hbias : e + Format.binary64.exponentBias + Format.binary64.mantissaBitsWithoutImplicit =
      e + 1075 := add_assoc e 1023 52
  unfold UnpackedFloat.pack
  dsimp only
  rw [hbias]
  rfl

/-- **A double is made of its canonical form and its sign.** -/
theorem eq_ofModel_pack (x : Float) : x = .ofModel (.pack x.toModel.unpack) := by
  apply Float.toBits_inj.1
  apply UInt64.toBitVec_inj.1
  exact (pack_unpack_of_valid x.toModel.valid).symm

/-- **Packing a canonical form and unpacking it** gives the canonical form. -/
theorem unpack_pack {x : Binary} (hx : x.Canonical) (sign : Sign) :
    (Float.Model.pack (.finite sign x.significand x.exponent hx.significand_pos)).unpack =
      .finite sign x.significand x.exponent hx.significand_pos := by
  have hpos := hx.significand_pos
  have hlt := hx.significand_lt
  have hge := hx.exponent_ge
  have hle := hx.exponent_le
  have hnormal := hx.normal
  obtain ⟨m, e, narrow⟩ := x
  dsimp only at hpos hlt hge hle hnormal ⊢
  change UnpackedFloat.unpack .binary64 (UnpackedFloat.pack .binary64 _) = _
  rw [pack_finite, if_neg (by omega)]
  by_cases hlarge : 2 ^ 52 ≤ m
  · have hlog : m.log2 = 52 := (Nat.log2_eq_iff hpos.ne').2 ⟨hlarge, hlt⟩
    have hexponent : (BitVec.ofNat 11 (e + 1075).toNat).toNat = (e + 1075).toNat := by
      rw [BitVec.toNat_ofNat]
      omega
    have hne : ∀ n : BitVec 11, n.toNat ≠ (e + 1075).toNat →
        BitVec.ofNat 11 (e + 1075).toNat ≠ n := fun n hn h => hn (by rw [← h, hexponent])
    have hfraction : (1#1 ++ BitVec.ofNat 52 m).toNat = m := by
      rw [append_implicit, BitVec.toNat_ofNat]
      omega
    rw [if_pos (by omega)]
    unfold UnpackedFloat.unpack
    simp only [unpackMantissa_packComponents, unpackExponent_packComponents,
      unpackSign_packComponents, Sign.ofBitVec_toBitVec,
      hne (-1#11) (by rw [show (-1#11).toNat = 2047 from rfl]; omega),
      hne 0#11 (by rw [show (0#11).toNat = 0 from rfl]; omega), if_false, hexponent, hfraction]
    congr 1
    change ((e + 1075).toNat : ℤ) - (1023 + 52) = e
    omega
  · have hlog := (Nat.log2_lt hpos.ne').2 (not_le.1 hlarge)
    obtain rfl : e = -1074 := hnormal.resolve_right hlarge
    have hfraction : (BitVec.ofNat 52 m).toNat = m := by
      rw [BitVec.toNat_ofNat]
      omega
    have hne : BitVec.ofNat 52 m ≠ 0#52 := fun h => by
      rw [h] at hfraction
      exact hpos.ne hfraction
    rw [if_neg (by omega)]
    unfold UnpackedFloat.unpack
    simp only [unpackMantissa_packComponents, unpackExponent_packComponents,
      unpackSign_packComponents, Sign.ofBitVec_toBitVec,
      show (0#11 : BitVec 11) ≠ -1#11 by decide, if_false, if_true, hne, dif_neg,
      not_false_eq_true, hfraction]
    rfl

end BehaviorTree.Decimal
