import BehaviorTree.Proofs.Decimal.Numeral

/-! # Reading the text of a double

The text of a double that is not undefined is read as the double again (`Layout.readSigned?_chars`):
that of a finite one is a numeral that denotes it, and those of the infinities are names.  So
different doubles have different texts (`Layout.text_injective`). -/

namespace BehaviorTree

namespace Text

theorem isAlpha_of_toLower {c : Char} (h : c.toLower.isAlpha = true) : c.isAlpha = true := by
  unfold Char.toLower at h
  split at h
  · rename_i hupper
    rw [Char.isAlpha, Bool.or_eq_true]
    exact Or.inl (by simpa [Char.isUpper] using hupper)
  · exact h

theorem isAlpha_of_isDigit {c : Char} (h : c.isDigit = true) : c.isAlpha = false := by
  simp [Char.isDigit, UInt32.le_iff_toNat_le] at h
  simp [Char.isAlpha, Char.isUpper, Char.isLower, UInt32.le_iff_toNat_le]
  omega

theorem takeSign_of_head {c : Char} {rest : List Char} (hminus : c ≠ '-') (hplus : c ≠ '+') :
    takeSign (c :: rest) = (false, c :: rest) := by
  unfold takeSign
  split
  · rename_i heq
    exact absurd (List.cons.inj heq).1 hminus
  · rename_i heq
    exact absurd (List.cons.inj heq).1 hplus
  · rfl

end Text

namespace Decimal

open Float.Model BehaviorTree.Text

/-- What does not start with a letter is no name of a value. -/
theorem named?_of_head {c : Char} {rest : List Char} (h : c.isAlpha = false) :
    named? (c :: rest) = none := by
  have hne : ∀ name d letters, name = String.ofList (d :: letters) → d.isAlpha = true →
      String.ofList ((c :: rest).map Char.toLower) ≠ name := by
    rintro _ d letters rfl hd he
    obtain ⟨rfl, -⟩ := List.cons.inj (String.ofList_injective he)
    rw [isAlpha_of_toLower hd] at h
    cases h
  unfold named?
  rw [if_neg, if_neg]
  · exact hne "nan" _ _ rfl (by decide)
  · rw [not_or]
    exact ⟨hne "inf" _ _ rfl (by decide), hne "infinity" _ _ rfl (by decide)⟩

/-! ### Infinities -/

theorem eq_signed_of_isInf {x : Float} (h : x.isInf = true) :
    ∃ negative, x = signed negative (1.0 / 0.0) := by
  have hcases : ∀ {f : UnpackedFloat}, f.isInf = true → ∃ sign, f = .infinity sign := by
    intro f hf
    cases f with
    | infinity sign => exact ⟨sign, rfl⟩
    | _ => cases hf
  obtain ⟨sign, hsign⟩ := hcases h
  have hx : x = .ofModel (.pack (.infinity sign)) := (eq_ofModel_pack x).trans (by rw [hsign])
  cases sign with
  | positive => exact ⟨false, hx.trans (by decide)⟩
  | negative => exact ⟨true, hx.trans (by decide)⟩

namespace Layout

variable (layout : Layout)

theorem chars_infinity (negative : Bool) : layout.chars (signed negative (1.0 / 0.0)) =
    (if negative then ['-'] else []) ++ ['i', 'n', 'f'] := by
  have hnan : (signed negative (1.0 / 0.0)).isNaN = false := by cases negative <;> decide
  have hinf : (signed negative (1.0 / 0.0)).isInf = true := by cases negative <;> decide
  simp only [chars, hnan, hinf, Bool.false_eq_true, if_false, if_true]
  cases negative <;> decide

/-! ### All doubles -/

/-- **The text of a double is read as the double.** -/
theorem readSigned?_chars {x : Float} (h : x.isNaN = false) :
    readSigned? asciiDigit? (layout.chars x) = some x := by
  by_cases hinf : x.isInf = true
  · obtain ⟨negative, rfl⟩ := eq_signed_of_isInf hinf
    rw [chars_infinity]
    cases negative <;> decide
  · have hfinite := isFinite_of_not h (Bool.not_eq_true _ ▸ hinf)
    obtain ⟨n, hn, hchars, hvalue⟩ := layout.exists_numeral hfinite
    obtain ⟨d, rest, hhead, hdigit⟩ := hn.exists_head
    have hsign : takeSign (layout.chars x) = (decide (x.toBits >>> 63 = 1), n.chars) := by
      rw [hchars]
      split_ifs with hnegative
      · rw [decide_eq_true hnegative]
        rfl
      · rw [decide_eq_false hnegative, hhead]
        exact takeSign_of_head (ne_of_isDigit hdigit (by decide)) (ne_of_isDigit hdigit (by decide))
    have hname : named? n.chars = none := by
      rw [hhead]
      exact named?_of_head (isAlpha_of_isDigit hdigit)
    simp only [readSigned?, hsign, hname, hn.readUnsigned?_chars, Option.map_some, hvalue]

/-- **Different doubles have different texts.** -/
theorem text_injective {x y : Float} (hx : x.isNaN = false) (hy : y.isNaN = false)
    (h : layout.text x = layout.text y) : x = y := by
  have hread := layout.readSigned?_chars hx
  rw [String.ofList_injective h, layout.readSigned?_chars hy] at hread
  exact (Option.some.inj hread).symm

/-- The text of a double has a character that is in no integer. -/
theorem exists_mark (x : Float) : ∃ c ∈ layout.chars x, c = '.' ∨ c = 'e' ∨ c = 'n' := by
  by_cases hnan : x.isNaN = true
  · exact ⟨'n', by rw [chars, if_pos hnan]; exact List.mem_cons_self, Or.inr (Or.inr rfl)⟩
  by_cases hinf : x.isInf = true
  · obtain ⟨negative, rfl⟩ := eq_signed_of_isInf hinf
    exact ⟨'n', by simp [chars_infinity], Or.inr (Or.inr rfl)⟩
  obtain ⟨n, hn, hchars, -⟩ := layout.exists_numeral
    (isFinite_of_not (Bool.not_eq_true _ ▸ hnan) (Bool.not_eq_true _ ▸ hinf))
  obtain ⟨c, hc, hmark⟩ := hn.exists_mark
  exact ⟨c, hchars ▸ List.mem_append_right _ hc, hmark.imp_right Or.inl⟩

theorem chars_ne_ofInt (x : Float) (n : ℤ) : layout.chars x ≠ (Text.ofInt n).toList := by
  intro h
  obtain ⟨c, hc, hmark⟩ := layout.exists_mark x
  rw [h] at hc
  rcases hmark with rfl | rfl | rfl <;> exact absurd (mem_toList_ofInt hc) (by decide)

end Layout
end Decimal
end BehaviorTree
