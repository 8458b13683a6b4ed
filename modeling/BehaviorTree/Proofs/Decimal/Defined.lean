import BehaviorTree.Lua.Literal
import Mathlib

/-! # Defined values

No decimal reads as the undefined value: the double nearest to a numeral has the positive sign, be it
a number or an infinity (`sign?_toFloat`), and with a sign in front it stays defined.  So a text that
reads as a number that is not infinite reads as a finite one (`isFinite_of_number?`).

A product or quotient of values with a sign has none only where an infinity meets zero or another
infinity; here the second operand is always an ordinary value, a power of ten. -/

namespace BehaviorTree.Decimal

open Float.Model

/-- The sign of a value; the undefined value has none. -/
def sign? : UnpackedFloat → Option UnpackedFloat.Sign
  | .notANumber => none
  | .infinity sign | .zero sign | .finite sign .. => some sign

theorem isNaN_of_sign? {f : UnpackedFloat} {sign : UnpackedFloat.Sign} (h : sign? f = some sign) :
    f.isNaN = false := by
  cases f with
  | notANumber => cases h
  | _ => rfl

theorem exists_sign?_of_isNaN {f : UnpackedFloat} (h : f.isNaN = false) :
    ∃ sign, sign? f = some sign := by
  cases f with
  | notANumber => cases h
  | _ => exact ⟨_, rfl⟩

/-! ### Packed values -/

theorem sign?_unpack {spec : Format} {bits : BitVec spec.numBits}
    (h : UnpackedFloat.unpackExponent bits ≠ -1#_ ∨ UnpackedFloat.unpackMantissa bits = 0#_) :
    sign? (UnpackedFloat.unpack spec bits) = some (.ofBitVec (UnpackedFloat.unpackSign bits)) := by
  unfold UnpackedFloat.unpack
  dsimp only
  split_ifs with hexponent hmantissa
  · rfl
  · exact absurd (h.resolve_left fun hne => hne hexponent) hmantissa
  · rfl
  · rfl
  · rfl

theorem sign?_unpack_packComponents (sign : UnpackedFloat.Sign) {exponent : BitVec 11}
    {mantissa : BitVec 52} (h : exponent ≠ -1#_ ∨ mantissa = 0#_) :
    sign? (UnpackedFloat.unpack .binary64
      (UnpackedFloat.packComponents .binary64 sign exponent mantissa)) = some sign := by
  rw [sign?_unpack, UnpackedFloat.unpackSign_packComponents, UnpackedFloat.Sign.ofBitVec_toBitVec]
  rw [UnpackedFloat.unpackExponent_packComponents, UnpackedFloat.unpackMantissa_packComponents]
  exact h

/-- A biased exponent that is packed as such is not that of the infinities. -/
theorem ofNat_ne_neg_one {biased : ℕ} (h : ¬ 2048 ≤ biased + 1) :
    BitVec.ofNat 11 biased ≠ -1#_ := by
  intro he
  have := congrArg BitVec.toNat he
  simp only [BitVec.toNat_ofNat] at this
  rw [Nat.mod_eq_of_lt (by omega)] at this
  simp at this
  omega

/-- Packing keeps the sign. -/
theorem sign?_pack {f : UnpackedFloat} {sign : UnpackedFloat.Sign} (h : sign? f = some sign) :
    sign? (Float.Model.pack f).unpack = some sign := by
  unfold Float.Model.unpack Float.Model.pack UnpackedFloat.pack
  cases f with
  | notANumber => cases h
  | infinity =>
      obtain rfl := Option.some.inj h
      exact sign?_unpack_packComponents _ (Or.inr rfl)
  | zero =>
      obtain rfl := Option.some.inj h
      exact sign?_unpack_packComponents _ (Or.inr rfl)
  | finite =>
      obtain rfl := Option.some.inj h
      dsimp only
      split_ifs with hlarge hnormal
      · exact sign?_unpack_packComponents _ (Or.inr rfl)
      · exact sign?_unpack_packComponents _ (Or.inl (ofNat_ne_neg_one hlarge))
      · exact sign?_unpack_packComponents _ (Or.inl (by decide))

/-! ### Operations -/

/-- A positive value that is neither infinite nor zero. -/
def isOrdinary : UnpackedFloat → Bool
  | .finite .positive .. => true
  | _ => false

theorem sign?_roundWithAccuracy (spec : Format) (sign : UnpackedFloat.Sign) (mantissa : ℕ)
    (exponent : ℤ) (accuracy : UnpackedFloat.Accuracy) :
    sign? (UnpackedFloat.roundWithAccuracy spec sign mantissa exponent accuracy) = some sign := by
  unfold UnpackedFloat.roundWithAccuracy
  dsimp only
  split_ifs
  · rfl
  · rfl

theorem sign?_mul {f f' : UnpackedFloat} (h : sign? f = some .positive) (h' : isOrdinary f' = true) :
    sign? (UnpackedFloat.mul .binary64 f f') = some .positive := by
  unfold isOrdinary at h'
  split at h'
  · cases f with
    | notANumber => cases h
    | infinity =>
        obtain rfl := Option.some.inj h
        rfl
    | zero =>
        obtain rfl := Option.some.inj h
        rfl
    | finite =>
        obtain rfl := Option.some.inj h
        exact sign?_roundWithAccuracy ..
  · cases h'

theorem sign?_div {f f' : UnpackedFloat} (h : sign? f = some .positive) (h' : isOrdinary f' = true) :
    sign? (UnpackedFloat.div .binary64 f f') = some .positive := by
  unfold isOrdinary at h'
  split at h'
  · cases f with
    | notANumber => cases h
    | infinity =>
        obtain rfl := Option.some.inj h
        rfl
    | zero =>
        obtain rfl := Option.some.inj h
        rfl
    | finite =>
        obtain rfl := Option.some.inj h
        exact sign?_roundWithAccuracy ..
  · cases h'

theorem sign?_ofScientific_model (digits : ℕ) (exponent : ℤ) :
    sign? (UnpackedFloat.ofScientific .binary64 digits exponent) = some .positive := by
  unfold UnpackedFloat.ofScientific
  split_ifs
  · rfl
  · rfl
  · rfl
  · exact sign?_mul rfl rfl
  · exact sign?_div rfl rfl

theorem sign?_ofNat_model (n : ℕ) : sign? (UnpackedFloat.ofNat .binary64 n) = some .positive := by
  unfold UnpackedFloat.ofNat UnpackedFloat.ofInt UnpackedFloat.normalize UnpackedFloat.round
  dsimp only
  split
  · rename_i hlt
    exact absurd (Int.compare_eq_lt.1 hlt) (by omega)
  · rfl
  · exact sign?_roundWithAccuracy ..

theorem isOrdinary_of_mem_powers {power : Float} (h : power ∈ Float.exactlyRepresentablePowersOfTen) :
    isOrdinary power.toModel.unpack = true := by
  have hall : Float.exactlyRepresentablePowersOfTen.all
      (fun power => isOrdinary power.toModel.unpack) = true := by
    decide +kernel
  exact Array.all_eq_true_iff_forall_mem.1 hall power h

theorem sign?_ofScientific (digits : ℕ) (negative : Bool) (places : ℕ) :
    sign? (Float.ofScientific digits negative places).toModel.unpack = some .positive := by
  unfold Float.ofScientific
  split
  · rename_i hsmall
    have hwhole : sign? digits.toUInt64.toFloat.toModel.unpack = some .positive :=
      sign?_pack (sign?_ofNat_model _)
    dsimp only
    split
    · exact sign?_pack (sign?_div hwhole (isOrdinary_of_mem_powers (Array.getElem_mem _)))
    · exact sign?_pack (sign?_mul hwhole (isOrdinary_of_mem_powers (Array.getElem_mem _)))
  · exact sign?_pack (sign?_ofScientific_model ..)

theorem sign?_neg {f : UnpackedFloat} {sign : UnpackedFloat.Sign} (h : sign? f = some sign) :
    sign? f.neg = some (-sign) := by
  cases f with
  | notANumber => cases h
  | _ =>
      obtain rfl := Option.some.inj h
      rfl

/-! ### Numerals -/

/-- **A numeral is a number or an infinity, with the positive sign.** -/
theorem sign?_toFloat (w : Written) : sign? w.toFloat.toModel.unpack = some .positive := by
  unfold Written.toFloat
  dsimp only
  split_ifs
  · rfl
  · rfl
  · exact sign?_ofScientific ..

theorem isNaN_signed {x : Float} (h : x.isNaN = false) (negative : Bool) :
    (signed negative x).isNaN = false := by
  obtain ⟨sign, hsign⟩ := exists_sign?_of_isNaN h
  cases negative with
  | false => exact h
  | true => exact isNaN_of_sign? (sign?_pack (sign?_neg hsign))

theorem isFinite_of_not {x : Float} (hnan : x.isNaN = false) (hinf : x.isInf = false) :
    x.isFinite = true := by
  have hcases : ∀ {f : UnpackedFloat}, f.isNaN = false → f.isInf = false → f.isFinite = true := by
    intro f hn hi
    cases f with
    | notANumber => cases hn
    | infinity => cases hi
    | zero => rfl
    | finite => rfl
  exact hcases hnan hinf

theorem isNaN_of_isFinite {x : Float} (h : x.isFinite = true) : x.isNaN = false := by
  have hcases : ∀ {f : UnpackedFloat}, f.isFinite = true → f.isNaN = false := by
    intro f hf
    cases f with
    | notANumber => cases hf
    | _ => rfl
  exact hcases h

theorem isInf_of_isFinite {x : Float} (h : x.isFinite = true) : x.isInf = false := by
  have hcases : ∀ {f : UnpackedFloat}, f.isFinite = true → f.isInf = false := by
    intro f hf
    cases f with
    | infinity => cases hf
    | _ => rfl
  exact hcases h

/-- What equals zero is finite. -/
theorem isFinite_of_beq_zero {x : Float} (h : (x == 0.0) = true) : x.isFinite = true := by
  have hcases : ∀ {f : UnpackedFloat} {sign : UnpackedFloat.Sign},
      UnpackedFloat.beq f (.zero sign) = true → f.isFinite = true := by
    intro f sign hf
    cases f with
    | notANumber => cases hf
    | infinity s => cases s <;> cases hf
    | zero => rfl
    | finite => rfl
  have hzero : (0.0 : Float).toModel.unpack = .zero .positive := rfl
  have hbeq : UnpackedFloat.beq x.toModel.unpack (0.0 : Float).toModel.unpack = true := h
  rw [hzero] at hbeq
  exact hcases hbeq

/-- A number equals itself. -/
theorem beq_self_of_isNaN {x : Float} (h : x.isNaN = false) : (x == x) = true := by
  have hcases : ∀ {f : UnpackedFloat}, f.isNaN = false → UnpackedFloat.beq f f = true := by
    intro f hf
    cases f with
    | notANumber => cases hf
    | infinity sign => cases sign <;> rfl
    | zero => rfl
    | finite sign mantissa exponent =>
        have hsame : (compare exponent exponent).then (compare mantissa mantissa) = .eq := by
          rw [Std.compare_self, Std.compare_self]
          rfl
        cases sign with
        | positive => exact (congrArg (fun o => some o == some Ordering.eq) hsame).trans rfl
        | negative => exact (congrArg (fun o => some o.swap == some Ordering.eq) hsame).trans rfl
  exact hcases h

/-- **The number of a text is finite.** -/
theorem isFinite_of_number? {s : String} {x : Float} (h : Lua.number? s = .ok (some x)) :
    x.isFinite = true := by
  unfold Lua.number? at h
  dsimp only at h
  split at h
  · cases h
  · rename_i written hw
    split_ifs at h with hblank hinf
    · cases h
    · obtain rfl := Option.some.inj (Except.ok.inj h)
      exact isFinite_of_not (isNaN_signed (isNaN_of_sign? (sign?_toFloat written)) _)
        (by simpa using hinf)

end BehaviorTree.Decimal
