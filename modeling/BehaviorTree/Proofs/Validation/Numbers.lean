import BehaviorTree.Proofs.Decimal.Bounds
import BehaviorTree.Proofs.Decimal.Reading
import BehaviorTree.Proofs.Validation.Warnings

/-! # Numbers in range

What a validation accepts as the number of a detail is a numeral of digits with an optional fraction,
and for a count of repeats a minus may stand in front (`SignedNumeral`).  The double nearest to it is
within the bound of the detail (`exists_signed_of_isInRange`), also where the range is checked on an
integer, and all ways of reading numbers agree on it (`SignedNumeral.readSigned?_eq`). -/

namespace BehaviorTree

open BehaviorTree.Text BehaviorTree.Decimal

/-- The bound of the number of a detail. -/
def Detail.Admits : Detail → Float → Prop
  | .repeaterCount, x => -1.0 ≤ x
  | .timeoutDuration, x => 0.0 < x
  | .retryCount, x => 1.0 ≤ x
  | .cooldownDuration, x | .waitDuration, x => 0.0 ≤ x
  | .subtree, _ => True

namespace Text

/-! ### Letters -/

theorem toNat_lt_of_isAlpha {c : Char} (h : c.isAlpha = true) : c.toNat < 128 := by
  simp [Char.isAlpha, Char.isUpper, Char.isLower, UInt32.le_iff_toNat_le] at h
  have hval : c.val.toNat = c.toNat := rfl
  omega

/-- A letter of the ASCII range is neither blank nor a digit of any script. -/
theorem isBlank_isDigit_of_isAlpha {c : Char} (h : c.isAlpha = true) :
    isBlank c = false ∧ isDigit c = false := by
  have hall : ∀ n < 128, (Char.ofNat n).isAlpha = true →
      isBlank (Char.ofNat n) = false ∧ isDigit (Char.ofNat n) = false := by
    decide
  have hc := hall c.toNat (toNat_lt_of_isAlpha h)
  rw [Char.ofNat_toNat] at hc
  exact hc h

end Text

namespace Validation

/-! ### Plain numerals -/

/-- A text is the digits of a numeral with an optional fraction. -/
structure PlainNumeral (cs : List Char) (w : Written) : Prop where
  /-- It starts with a digit. -/
  head : ∃ c rest, cs = c :: rest ∧ isDigit c = true
  /-- It holds digits and points. -/
  chars : ∀ c ∈ cs, isDigit c = true ∨ c = '.'
  /-- It is read as the numeral. -/
  read : readUnsigned? digit? cs = some w

theorem digitsOnly?_eq_some_iff {cs : List Char} {digits : List ℕ} :
    digitsOnly? cs = some digits ↔ cs ≠ [] ∧ allDigits? digit? cs = some digits := by
  cases cs <;> simp [digitsOnly?]

theorem lt_of_digitsOnly? {cs : List Char} {digits : List ℕ} (h : digitsOnly? cs = some digits) :
    ∀ d ∈ digits, d < 10 := by
  intro d hd
  obtain ⟨c, hc⟩ := (value_of_allDigits? (digitsOnly?_eq_some_iff.1 h).2).2 d hd
  exact digit?_lt c d hc

theorem plainNumeral_of_digitsOnly? {cs : List Char} {digits : List ℕ}
    (h : digitsOnly? cs = some digits) : PlainNumeral cs ⟨digits, 0, 0⟩ := by
  obtain ⟨hne, hdigits⟩ := digitsOnly?_eq_some_iff.1 h
  have hchars := (value_of_allDigits? hdigits).1
  have hspan := spanDigits_of_allDigits? hdigits
  cases cs with
  | nil => exact absurd rfl hne
  | cons c rest =>
      refine ⟨⟨c, rest, rfl, hchars c List.mem_cons_self⟩, fun d hd => Or.inl (hchars d hd), ?_⟩
      obtain ⟨_, _, -, -, rfl⟩ := allDigits?_cons_eq_some_iff.1 hdigits
      simp [readUnsigned?, hspan]

/-- Digits are read in front of a text. -/
theorem exists_head_of_spanDigits {cs rest : List Char} {digits : List ℕ}
    (h : spanDigits digit? cs = (digits, rest)) (hne : digits ≠ []) :
    (∃ c more, cs = c :: more ∧ isDigit c = true) ∧ ∃ front, cs = front ++ rest ∧
      allDigits? digit? front = some digits := by
  obtain ⟨front, rfl, hdigits⟩ := exists_of_spanDigits h
  refine ⟨?_, front, rfl, hdigits⟩
  cases front with
  | nil => exact absurd (Option.some.inj hdigits).symm hne
  | cons c more =>
      exact ⟨c, more ++ rest, rfl, (value_of_allDigits? hdigits).1 c List.mem_cons_self⟩

theorem plainNumeral_of_plainNumber? {cs : List Char} {x : Float} (h : plainNumber? cs = some x) :
    ∃ w, PlainNumeral cs w ∧ w.toFloat = x := by
  unfold plainNumber? at h
  split at h
  · cases h
  · rename_i whole hne hspan
    obtain rfl := Option.some.inj h
    obtain ⟨⟨c, more, rfl, -⟩, front, hfront, hdigits⟩ := exists_head_of_spanDigits hspan hne
    rw [List.append_nil] at hfront
    rw [← hfront] at hdigits
    exact ⟨_, plainNumeral_of_digitsOnly? (digitsOnly?_eq_some_iff.2 ⟨nofun, hdigits⟩), rfl⟩
  · rename_i whole rest hne hspan
    obtain ⟨fraction, hfraction, rfl⟩ := Option.map_eq_some_iff.1 h
    have hafter := (digitsOnly?_eq_some_iff.1 hfraction).2
    obtain ⟨hhead, front, hfront, hdigits⟩ := exists_head_of_spanDigits hspan hne
    refine ⟨_, ⟨hhead, ?_, ?_⟩, rfl⟩
    · intro c hc
      rw [hfront, List.mem_append, List.mem_cons] at hc
      rcases hc with hc | rfl | hc
      · exact Or.inl ((value_of_allDigits? hdigits).1 c hc)
      · exact Or.inr rfl
      · exact Or.inl ((value_of_allDigits? hafter).1 c hc)
    · simp [readUnsigned?, hspan, spanDigits_of_allDigits? hafter, show whole ≠ [] from hne]
  · cases h

/-! ### Signed numerals -/

theorem takeSign_plain {cs : List Char} {w : Written} (h : PlainNumeral cs w) :
    takeSign cs = (false, cs) := by
  obtain ⟨c, rest, rfl, hc⟩ := h.head
  refine takeSign_of_head ?_ ?_
  · rintro rfl
    exact absurd hc (by decide)
  · rintro rfl
    exact absurd hc (by decide)

/-- A text is a numeral that may have a minus in front. -/
inductive SignedNumeral : List Char → Float → Prop
  | plain {cs : List Char} {w : Written} (h : PlainNumeral cs w) : SignedNumeral cs w.toFloat
  | minus {cs : List Char} {w : Written} (h : PlainNumeral cs w) :
      SignedNumeral ('-' :: cs) (-w.toFloat)

namespace SignedNumeral

variable {cs : List Char} {x : Float}

/-- It starts with a digit or a minus. -/
theorem head (h : SignedNumeral cs x) : ∃ c rest, cs = c :: rest ∧ (isDigit c = true ∨ c = '-') := by
  cases h with
  | plain h =>
      obtain ⟨c, rest, rfl, hc⟩ := h.head
      exact ⟨c, rest, rfl, Or.inl hc⟩
  | minus => exact ⟨_, _, rfl, Or.inr rfl⟩

/-- Behind its sign it is read as a numeral. -/
theorem read (h : SignedNumeral cs x) : ∃ w, PlainNumeral (takeSign cs).2 w ∧
    signed (takeSign cs).1 w.toFloat = x := by
  cases h with
  | plain h =>
      rw [takeSign_plain h]
      exact ⟨_, h, rfl⟩
  | minus h => exact ⟨_, h, rfl⟩

theorem ne_underscore (h : SignedNumeral cs x) : ∀ c ∈ cs, c ≠ '_' := by
  have hplain : ∀ {ds : List Char} {w : Written}, PlainNumeral ds w → ∀ c ∈ ds, c ≠ '_' := by
    rintro ds w hds c hc rfl
    rcases hds.chars _ hc with h | h
    · exact absurd h (by decide)
    · exact absurd h (by decide)
  cases h with
  | plain h => exact hplain h
  | minus h => exact List.forall_mem_cons.2 ⟨by decide, hplain h⟩

/-- It is read as the double nearest to its numeral. -/
theorem readSigned?_eq (h : SignedNumeral cs x) : readSigned? digit? cs = some x := by
  obtain ⟨w, hw, hx⟩ := h.read
  obtain ⟨c, rest, hcs, hc⟩ := hw.head
  have hletter : c.isAlpha = false := by
    by_contra hcon
    rw [(isBlank_isDigit_of_isAlpha (by simpa using hcon)).2] at hc
    cases hc
  have hname : named? (takeSign cs).2 = none := by
    rw [hcs]
    exact named?_of_head hletter
  simp only [readSigned?, hname, hw.read, Option.map_some, hx]

/-- Without white space around it, it is read so as the text of a double too. -/
theorem toFloat?_eq {text : String} (htrim : trimChars isSpace text.toList = text.toList)
    (h : SignedNumeral text.toList x) : toFloat? text = some x := by
  have hgroup : ungroup? false text.toList = some text.toList :=
    ungroup?_of_all_digits false _ h.ne_underscore
  simp [toFloat?, htrim, hgroup, h.readSigned?_eq]

end SignedNumeral

/-! ### Ranges -/

theorem digitsInteger_eq_ok {digits : List ℕ} {n : ℕ} (h : digitsInteger digits = .ok n) :
    n = ofDigits digits := by
  unfold digitsInteger natOfDigits at h
  by_cases hempty : digits.isEmpty = true
  · rw [if_pos hempty] at h
    rw [List.isEmpty_iff.1 hempty]
    exact (Except.ok.inj h).symm
  · by_cases hlong : numeralLimit < digits.length
    · rw [if_neg hempty, if_pos hlong] at h
      cases h
    · rw [if_neg hempty, if_neg hlong] at h
      exact (Except.ok.inj h).symm

/-- **A text in range is a numeral, and its double is within the bound** of the detail. -/
theorem exists_signed_of_isInRange {detail : Detail} (hd : detail ∈ numericDetails) {cs : List Char}
    (h : isInRange detail cs = .ok true) : ∃ x, SignedNumeral cs x ∧ detail.Admits x := by
  cases detail with
  | repeaterCount =>
      change isRepeatCount cs = .ok true at h
      unfold isRepeatCount at h
      split at h
      · rename_i body
        split at h
        · rename_i digits hdigits
          obtain ⟨n, hn, h⟩ := bind_eq_ok_iff.1 h
          obtain rfl := digitsInteger_eq_ok hn
          have hle : ofDigits digits ≤ 1 := of_decide_eq_true (Except.ok.inj h)
          exact ⟨_, .minus (plainNumeral_of_digitsOnly? hdigits),
            neg_one_le_neg_toFloat (lt_of_digitsOnly? hdigits) hle⟩
        · cases h
      · split at h
        · rename_i digits hdigits
          exact ⟨_, .plain (plainNumeral_of_digitsOnly? hdigits), neg_one_le_toFloat _⟩
        · cases h
  | timeoutDuration =>
      have hpositive := Except.ok.inj h
      obtain ⟨x, hx, hpos⟩ := (Option.any_eq_true _ _).1 hpositive
      obtain ⟨w, hw, rfl⟩ := plainNumeral_of_plainNumber? hx
      have hpos : 0.0 < w.toFloat := of_decide_eq_true hpos
      exact ⟨_, .plain hw, hpos⟩
  | retryCount =>
      change isRetryCount cs = .ok true at h
      unfold isRetryCount at h
      split at h
      · rename_i digits hdigits
        obtain ⟨n, hn, h⟩ := bind_eq_ok_iff.1 h
        obtain rfl := digitsInteger_eq_ok hn
        have hle : 1 ≤ ofDigits digits := of_decide_eq_true (Except.ok.inj h)
        exact ⟨_, .plain (plainNumeral_of_digitsOnly? hdigits),
          one_le_toFloat (lt_of_digitsOnly? hdigits) hle⟩
      · cases h
  | cooldownDuration | waitDuration =>
      obtain ⟨x, hx⟩ := Option.isSome_iff_exists.1 (Except.ok.inj h)
      obtain ⟨w, hw, rfl⟩ := plainNumeral_of_plainNumber? hx
      exact ⟨_, .plain hw, zero_le_toFloat w⟩
  | subtree => exact absurd hd (by decide)

end Validation

end BehaviorTree
