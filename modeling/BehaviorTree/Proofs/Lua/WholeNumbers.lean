import BehaviorTree.Proofs.Decimal.Integers
import BehaviorTree.Proofs.Decimal.Reading
import BehaviorTree.Proofs.Lua.NumeralValue
import BehaviorTree.Proofs.Success
import BehaviorTree.Proofs.Text.Trimming

/-! # Whole numbers in scripts

A text of digits with an optional sign is written as a numeral without a point, and far beyond the
whole numbers that a double tells apart: up to 10^21.  But the number passes through a double on its
way.  A double has 53 bits (`FitsDouble`), so of the integers in that range exactly those that are
doubles are written as they stand; any other one becomes a neighbour, and nothing in the script
shows it (`writes_whole_iff`).

Of all that can be written only a whole double looks like an integer (`truncate?_of_write`), so a
text that is written as one has gone through the double of that integer, whatever the text is. -/

namespace BehaviorTree

namespace Text

/-! ### Texts of digits -/

/-- The integer of a text that is an optional sign and digits of any script, at least one. -/
def wholeNumber? (s : String) : Option ℤ :=
  let (negative, body) := takeSign s.toList
  match allDigits? digit? body with
  | some (d :: rest) =>
    some (if negative then -(ofDigits (d :: rest) : ℤ) else ofDigits (d :: rest))
  | _ => none

/-- A digit of any script is not blank. -/
theorem isBlank_of_digit? {c : Char} (h : (digit? c).isSome = true) : isBlank c = false := by
  have hall : ∀ first ∈ zeros, ∀ d < 10,
      (inRanges spaceRanges (first + d) || 0x1C ≤ first + d && first + d ≤ 0x1F) = false := by
    decide +kernel
  obtain ⟨d, hd⟩ := Option.isSome_iff_exists.1 h
  simp only [digit?, Option.map_eq_some_iff] at hd
  obtain ⟨first, hfirst, -⟩ := hd
  have hrange := List.find?_some hfirst
  simp only [Bool.and_eq_true, decide_eq_true_eq] at hrange
  have hcode := hall first (List.mem_of_find?_eq_some hfirst) (c.toNat - first) (by omega)
  rw [Nat.add_sub_cancel' hrange.1] at hcode
  exact hcode

/-- A text is a sign, if it has one, and what is left without it. -/
theorem mem_takeSign {cs : List Char} {c : Char} (h : c ∈ cs) :
    c = '-' ∨ c = '+' ∨ c ∈ (takeSign cs).2 := by
  unfold takeSign
  split
  · exact (List.mem_cons.1 h).imp_right Or.inr
  · exact Or.inr (List.mem_cons.1 h)
  · exact Or.inr (Or.inr h)

/-- A text of digits says its sign and its digits, and has no blanks. -/
theorem exists_of_wholeNumber? {s : String} {n : ℤ} (h : wholeNumber? s = some n) :
    ∃ ds, ds ≠ [] ∧ allDigits? digit? (takeSign s.toList).2 = some ds ∧
      n = (if (takeSign s.toList).1 then -(ofDigits ds : ℤ) else ofDigits ds) ∧
      ∀ c ∈ s.toList, isBlank c = false := by
  unfold wholeNumber? at h
  dsimp only at h
  split at h
  · rename_i d rest hdigits
    refine ⟨d :: rest, List.cons_ne_nil d rest, hdigits, (Option.some.inj h).symm, ?_⟩
    have hbody : ∀ c ∈ (takeSign s.toList).2, isBlank c = false :=
      fun c hc => isBlank_of_digit? ((value_of_allDigits? hdigits).1 c hc)
    intro c hc
    rcases mem_takeSign hc with rfl | rfl | hc
    · decide
    · decide
    · exact hbody c hc
  · cases h

end Text

namespace Lua

open BehaviorTree.Text BehaviorTree.Decimal

/-! ### What is written -/

theorem isFinite_of_ofText {s : String} {x : Float} (h : Scalar.ofText s = .ok (.number x)) :
    x.isFinite = true := by
  obtain ⟨x?, hnumber, h⟩ := bind_eq_ok_iff.1 h
  cases x? with
  | some y =>
      obtain rfl := Scalar.number.inj (Except.ok.inj h)
      exact isFinite_of_number? hnumber
  | none =>
      dsimp only at h
      split at h <;> cases h

/-- **Of all that is written**, only a double with this whole part is the numeral of an integer: a
text has quotes, a truth value letters, and any other double a point or an exponent. -/
theorem truncate?_of_write {scalar : Scalar}
    (hfinite : ∀ x, scalar = .number x → x.isFinite = true) {n : ℤ}
    (h : scalar.write = (ofInt n).toList) :
    ∃ x, scalar = .number x ∧ truncate? x = some n := by
  have hforeign : ∀ c ∈ scalar.write, c = '-' ∨ c.isDigit = true := by
    rw [h]
    exact fun c hc => mem_toList_ofInt hc
  cases scalar with
  | text s => exact absurd (hforeign '"' List.mem_cons_self) (by decide)
  | boolean b =>
      have hletter : 'e' ∈ (Scalar.boolean b).write := by cases b <;> decide
      exact absurd (hforeign 'e' hletter) (by decide)
  | number x =>
      refine ⟨x, rfl, ?_⟩
      have hlayout := Layout.script.chars_ne_ofInt x n
      change numeral x = _ at h
      unfold numeral at h
      split at h
      · rename_i k hk
        split_ifs at h
        · rw [hk, ofInt_injective (String.toList_injective h)]
        · exact absurd h hlayout
      · exact absurd h hlayout

/-- A text of digits is a number as it stands. -/
theorem number?_of_digits {s : String} {ds : List ℕ} (hne : ds ≠ [])
    (hdigits : allDigits? digit? (takeSign s.toList).2 = some ds)
    (hblank : ∀ c ∈ s.toList, isBlank c = false) :
    number? s = .ok (if (signed (takeSign s.toList).1 (Written.toFloat ⟨ds, 0, 0⟩)).isInf then none
      else some (signed (takeSign s.toList).1 (Written.toFloat ⟨ds, 0, 0⟩))) := by
  have hspace : ∀ c ∈ s.toList, isSpace c = false :=
    fun c hc => (Bool.or_eq_false_iff.1 (hblank c hc)).1
  have hread : readUnsigned? digit? (takeSign s.toList).2 = some ⟨ds, 0, 0⟩ := by
    simp [readUnsigned?, spanDigits_of_allDigits? hdigits, hne]
  simp [number?, trimChars_of_forall hblank, trimChars_of_forall hspace, hread]

/-- A text that is written as the numeral of an integer has gone through a double, and the integer
is its whole part. -/
theorem fitsDouble_of_writes {s : String} {n : ℤ}
    (h : (Scalar.ofText s).map Scalar.write = .ok (ofInt n).toList) : FitsDouble n := by
  obtain ⟨scalar, hscalar, hwrite⟩ := map_eq_ok_iff.1 h
  obtain ⟨x, rfl, hwhole⟩ := truncate?_of_write
    (fun x hx => isFinite_of_ofText (hx ▸ hscalar)) hwrite
  exact fitsDouble_of_truncate? hwhole

/-- A text of digits whose integer is a double is written as the numeral of that integer. -/
theorem writes_of_fitsDouble {s : String} {n : ℤ} (h : wholeNumber? s = some n)
    (hlt : n.natAbs < 10 ^ 21) (hfits : FitsDouble n) :
    (Scalar.ofText s).map Scalar.write = .ok (ofInt n).toList := by
  obtain ⟨ds, hne, hdigits, hn, hblank⟩ := exists_of_wholeNumber? h
  have hds : ∀ d ∈ ds, d < 10 := by
    intro d hd
    obtain ⟨c, hc⟩ := (value_of_allDigits? hdigits).2 d hd
    exact digit?_lt c d hc
  have habs : n.natAbs = ofDigits ds := by
    rw [hn]
    split_ifs <;> simp
  have hnat : FitsDouble (ofDigits ds) := by
    rwa [FitsDouble, Int.natAbs_natCast, ← habs]
  obtain ⟨hwhole, htruncate⟩ := truncate?_toFloat hds (habs ▸ hlt) hnat (takeSign s.toList).1
  rw [← hn] at htruncate
  have hnumber := number?_of_digits hne hdigits hblank
  rw [isInf_of_isFinite (isFinite_of_isWhole hwhole)] at hnumber
  refine map_eq_ok_iff.2 ⟨_, bind_eq_ok_iff.2 ⟨_, hnumber, rfl⟩, ?_⟩
  change numeral _ = _
  rw [numeral, htruncate]
  exact if_pos ⟨hwhole, hlt⟩

/-- Whole numbers up to 2^53 are written as they stand. -/
theorem writes_of_natAbs_le {s : String} {n : ℤ} (h : wholeNumber? s = some n)
    (hle : n.natAbs ≤ 2 ^ 53) : (Scalar.ofText s).map Scalar.write = .ok (ofInt n).toList :=
  writes_of_fitsDouble h (hle.trans_lt (by norm_num)) (fitsDouble_of_natAbs_le hle)

/-- **Whole numbers in a script.**  A text of digits below 10^21 is written as the numeral of its
integer exactly if the integer is a double. -/
theorem writes_whole_iff {s : String} {n : ℤ} (h : wholeNumber? s = some n)
    (hlt : n.natAbs < 10 ^ 21) :
    (Scalar.ofText s).map Scalar.write = .ok (ofInt n).toList ↔ FitsDouble n :=
  ⟨fitsDouble_of_writes, writes_of_fitsDouble h hlt⟩

/-- The last integer up to which all are doubles. -/
theorem writes_whole_iff_last :
    wholeNumber? "9007199254740992" = some 9007199254740992 ∧
      (9007199254740992 : ℤ).natAbs < 10 ^ 21 ∧
      ((Scalar.ofText "9007199254740992").map Scalar.write =
        .ok (ofInt 9007199254740992).toList ↔ FitsDouble 9007199254740992) := by
  have hwhole : wholeNumber? "9007199254740992" = some 9007199254740992 := by decide
  exact ⟨hwhole, by decide, writes_whole_iff hwhole (by decide)⟩

/-- **The integer behind it** is written as a different one. -/
theorem writes_neighbour :
    wholeNumber? "9007199254740993" = some 9007199254740993 ∧
      (9007199254740993 : ℤ).natAbs < 10 ^ 21 ∧
      ((Scalar.ofText "9007199254740993").map Scalar.write).toOption =
        some (ofInt 9007199254740992).toList ∧
      (ofInt 9007199254740992).toList ≠ (ofInt 9007199254740993).toList := by
  decide

end Lua
end BehaviorTree
