import BehaviorTree.Lua.Lexeme
import BehaviorTree.Proofs.Decimal.Defined
import BehaviorTree.Proofs.Text.Digits

/-! # Numerals in scripts

The numeral of a finite double is an unsigned numeral, perhaps behind a minus (`exists_isNumeral`):
digits, then perhaps a point with digits, then perhaps an exponent with a sign.  A reader takes
exactly such a numeral and finds a number in it (`numeralChars_append`, `numberOf?_isSome`). -/

namespace BehaviorTree.Lua

open BehaviorTree.Text BehaviorTree.Decimal

/-- Nothing, or a point and digits. -/
def IsFraction (cs : List Char) : Prop := cs = [] ∨ ∃ ds, Digits ds ∧ cs = '.' :: ds

/-- Nothing, or an exponent with a sign. -/
def IsExponent (cs : List Char) : Prop :=
  cs = [] ∨ ∃ sign ds, (sign = '+' ∨ sign = '-') ∧ Digits ds ∧ ds ≠ [] ∧ cs = 'e' :: sign :: ds

/-- A numeral without a sign in front. -/
inductive IsNumeral : List Char → Prop
  | intro (whole fraction exponent : List Char) (hw : Digits whole) (hne : whole ≠ [])
      (hf : IsFraction fraction) (he : IsExponent exponent) :
      IsNumeral (whole ++ (fraction ++ exponent))

theorem IsNumeral.exists_digit {cs : List Char} (h : IsNumeral cs) :
    ∃ c rest, cs = c :: rest ∧ c.isDigit = true := by
  obtain ⟨whole, fraction, exponent, hw, hne, -, -⟩ := h
  cases whole with
  | nil => exact absurd rfl hne
  | cons c whole => exact ⟨c, _, rfl, hw c List.mem_cons_self⟩

/-! ### Reading a numeral -/

theorem IsExponent.head {cs : List Char} (h : IsExponent cs) :
    ∀ c ∈ cs.head?, c.isDigit = false ∧ c ≠ '.' := by
  rintro c hc
  rcases h with rfl | ⟨sign, ds, -, -, -, rfl⟩
  · cases hc
  · obtain rfl := Option.some.inj hc
    decide

theorem IsFraction.head_append {fraction exponent : List Char} (hf : IsFraction fraction)
    (he : IsExponent exponent) : ∀ c ∈ (fraction ++ exponent).head?, c.isDigit = false := by
  intro c hc
  rcases hf with rfl | ⟨ds, -, rfl⟩
  · exact (he.head c hc).1
  · obtain rfl := Option.some.inj hc
    decide

theorem readExponent?_isSome {sign : Char} {ds : List Char} (hs : sign = '+' ∨ sign = '-')
    (hd : Digits ds) (hne : ds ≠ []) : (readExponent? asciiDigit? (sign :: ds)).isSome := by
  rcases hs with rfl | rfl
  · simpa [readExponent?, takeSign, allDigits?_digits hd] using hne
  · simpa [readExponent?, takeSign, allDigits?_digits hd] using hne

/-- A numeral is read. -/
theorem readUnsigned?_isSome {cs : List Char} (h : IsNumeral cs) :
    (readUnsigned? asciiDigit? cs).isSome := by
  obtain ⟨whole, fraction, exponent, hw, hne, hf, he⟩ := h
  have hwhole := spanDigits_append hw (hf.head_append he)
  rcases hf with rfl | ⟨fs, hfs, rfl⟩
  · rcases he with rfl | ⟨sign, ds, hs, hd, hdne, rfl⟩
    · simp only [List.append_nil] at hwhole
      simp [readUnsigned?, hwhole, hne]
    · have hread := readExponent?_isSome hs hd hdne
      rw [List.nil_append] at hwhole
      simpa [readUnsigned?, hwhole, hne] using hread
  · have hfraction := spanDigits_append hfs fun c hc => (he.head c hc).1
    rw [List.cons_append] at hwhole
    rcases he with rfl | ⟨sign, ds, hs, hd, hdne, rfl⟩
    · rw [List.append_nil] at hwhole hfraction
      simp [readUnsigned?, hwhole, hfraction, hne]
    · have hread := readExponent?_isSome hs hd hdne
      simpa [readUnsigned?, hwhole, hfraction, hne] using hread

/-- **A numeral denotes a number.** -/
theorem numberOf?_isSome {cs : List Char} (h : IsNumeral cs) : (numberOf? cs).isSome := by
  obtain ⟨written, hw⟩ := Option.isSome_iff_exists.1 (readUnsigned?_isSome h)
  simp only [numberOf?, hw]
  change (if _ then some (Number.int _) else some (Number.float _)).isSome = true
  split <;> rfl

/-! ### Where a numeral ends -/

/-- A character that cannot go on a numeral that ends in a digit or point. -/
def endsNumeral (c : Char) : Bool := !isNameChar c && c ≠ '.'

theorem isNameChar_of_isDigit {c : Char} (h : c.isDigit = true) : isNameChar c = true := by
  simp [isNameChar, Char.isAlphanum, h]

theorem numeralChars_end {rest : List Char} (h : rest.head?.all endsNumeral = true) :
    numeralChars false rest = [] := by
  cases rest with
  | nil => rfl
  | cons c rest =>
      simp only [List.head?_cons, Option.all_some, endsNumeral, Bool.and_eq_true,
        Bool.not_eq_true', decide_eq_true_eq] at h
      simp [numeralChars, h.1, h.2]

theorem numeralChars_digits (afterMark : Bool) {ds rest : List Char} (h : Digits ds)
    (hne : ds ≠ []) : numeralChars afterMark (ds ++ rest) = ds ++ numeralChars false rest := by
  induction ds generalizing afterMark with
  | nil => exact absurd rfl hne
  | cons c ds ih =>
      have hc := h c List.mem_cons_self
      have hmark : (decide (c = 'e') || decide (c = 'E')) = false := by
        refine Bool.eq_false_iff.2 fun hm => ?_
        rcases Bool.or_eq_true_iff.1 hm with hm | hm
        · exact absurd (of_decide_eq_true hm ▸ hc) (by decide)
        · exact absurd (of_decide_eq_true hm ▸ hc) (by decide)
      rw [List.cons_append, numeralChars, isNameChar_of_isDigit hc, hmark]
      cases ds with
      | nil => rfl
      | cons d ds =>
          rw [ih _ (fun e he => h e (List.mem_cons_of_mem c he)) (by simp)]
          rfl

theorem numeralChars_exponent {cs rest : List Char} (h : IsExponent cs)
    (hr : rest.head?.all endsNumeral = true) : numeralChars false (cs ++ rest) = cs := by
  rcases h with rfl | ⟨sign, ds, hs, hd, hne, rfl⟩
  · exact numeralChars_end hr
  · have hsign : numeralChars true (sign :: (ds ++ rest)) =
        sign :: numeralChars false (ds ++ rest) := by
      rcases hs with rfl | rfl <;> rfl
    calc numeralChars false ('e' :: sign :: ds ++ rest)
        = 'e' :: numeralChars true (sign :: (ds ++ rest)) := rfl
      _ = 'e' :: sign :: (ds ++ numeralChars false rest) := by
          rw [hsign, numeralChars_digits false hd hne]
      _ = 'e' :: sign :: ds := by rw [numeralChars_end hr, List.append_nil]

/-- **A numeral ends where it was written to end.** -/
theorem numeralChars_append {cs rest : List Char} (h : IsNumeral cs)
    (hr : rest.head?.all endsNumeral = true) : numeralChars false (cs ++ rest) = cs := by
  obtain ⟨whole, fraction, exponent, hw, hne, hf, he⟩ := h
  rw [List.append_assoc, numeralChars_digits false hw hne]
  congr 1
  rcases hf with rfl | ⟨ds, hd, rfl⟩
  · exact numeralChars_exponent he hr
  · have hbehind : numeralChars false (ds ++ (exponent ++ rest)) = ds ++ exponent := by
      cases ds with
      | nil => exact numeralChars_exponent he hr
      | cons d ds => rw [numeralChars_digits false hd (by simp), numeralChars_exponent he hr]
    calc numeralChars false ('.' :: ds ++ exponent ++ rest)
        = '.' :: numeralChars false (ds ++ (exponent ++ rest)) := by
          rw [List.cons_append, List.cons_append, List.append_assoc]
          rfl
      _ = '.' :: ds ++ exponent := by rw [hbehind, List.cons_append]

/-! ### The numeral of a double -/

theorem isNumeral_digits {ds : List Char} (h : Digits ds) (hne : ds ≠ []) : IsNumeral ds := by
  have := IsNumeral.intro ds [] [] h hne (Or.inl rfl) (Or.inl rfl)
  rwa [List.append_nil, List.append_nil] at this

theorem isNumeral_point {whole ds : List Char} (hw : Digits whole) (hne : whole ≠ [])
    (hd : Digits ds) : IsNumeral (whole ++ '.' :: ds) := by
  have := IsNumeral.intro whole ('.' :: ds) [] hw hne (Or.inr ⟨ds, hd, rfl⟩) (Or.inl rfl)
  rwa [List.append_nil] at this

theorem isNumeral_positional {ds : List Char} (h : Digits ds) (hne : ds ≠ []) (before : ℤ) :
    IsNumeral (positional ds before) := by
  unfold positional
  split_ifs with hzero hlong
  · exact isNumeral_point (digits_replicate_zero 1) (by simp)
      ((digits_replicate_zero _).append h)
  · refine isNumeral_point (h.append (digits_replicate_zero _)) ?_ (by simp [Digits])
    simp [hne]
  · refine isNumeral_point (fun c hc => h c (List.mem_of_mem_take hc)) ?_
      fun c hc => h c (List.mem_of_mem_drop hc)
    simp only [ne_eq, List.take_eq_nil_iff, hne, or_false]
    omega

theorem isExponent_scientific (width : ℕ) (exponent : ℤ) :
    IsExponent ('e' :: (if exponent < 0 then '-' else '+') ::
      (padded width exponent.natAbs).toList) := by
  refine Or.inr ⟨_, _, ?_, ?_, ?_, rfl⟩
  · split_ifs
    · exact Or.inr rfl
    · exact Or.inl rfl
  · exact digits_padded _ _
  · exact padded_ne_nil _ _

theorem isNumeral_scientific (width : ℕ) {ds : List Char} (h : Digits ds) (hne : ds ≠ [])
    (exponent : ℤ) : IsNumeral (scientific width ds exponent) := by
  have hexponent := isExponent_scientific width exponent
  match ds, h, hne with
  | [first], h, _ => exact .intro [first] [] _ h (by simp) (Or.inl rfl) hexponent
  | first :: second :: rest, h, _ =>
      refine .intro [first] ('.' :: second :: rest) _ ?_ (by simp) (Or.inr ⟨_, ?_, rfl⟩) hexponent
      · exact fun c hc => h c (by rw [List.mem_singleton.1 hc]; simp)
      · exact fun c hc => h c (List.mem_cons_of_mem first hc)

theorem isNumeral_arrange (layout : Layout) (d : Decimal) : IsNumeral (layout.arrange d) := by
  unfold Layout.arrange
  dsimp only
  split_ifs
  · exact isNumeral_point (digits_replicate_zero 1) (by simp) (by simp [Digits])
  · exact isNumeral_positional (digits_toDigits _) Nat.toDigits_ne_nil _
  · exact isNumeral_scientific _ (digits_toDigits _) Nat.toDigits_ne_nil _

/-- A numeral, perhaps with a minus in front. -/
def IsSigned (cs : List Char) : Prop := IsNumeral cs ∨ ∃ ds, IsNumeral ds ∧ cs = '-' :: ds

theorem isSigned_layout (layout : Layout) {x : Float} (h : x.isFinite = true) :
    IsSigned (layout.chars x) := by
  have hnan := isNaN_of_isFinite h
  have hinf := isInf_of_isFinite h
  simp only [Layout.chars, hnan, hinf, Bool.false_eq_true, if_false]
  split_ifs
  · exact Or.inr ⟨_, isNumeral_arrange _ _, rfl⟩
  · exact Or.inl (isNumeral_arrange _ _)

theorem isSigned_ofInt (n : ℤ) : IsSigned (ofInt n).toList := by
  cases n with
  | ofNat n =>
      refine Or.inl ?_
      rw [ofInt, ofNat, String.toList_ofList]
      exact isNumeral_digits (digits_toDigits _) Nat.toDigits_ne_nil
  | negSucc n =>
      refine Or.inr ⟨_, isNumeral_digits (digits_toDigits (n + 1)) Nat.toDigits_ne_nil, ?_⟩
      rw [ofInt, ofNat, String.toList_append, String.toList_ofList, String.toList_ofList]
      rfl

/-- **The numeral of a finite double** has the form of a numeral. -/
theorem isSigned_numeral {x : Float} (h : x.isFinite = true) : IsSigned (numeral x) := by
  unfold numeral
  split
  · split_ifs
    · exact isSigned_ofInt _
    · exact isSigned_layout _ h
  · exact isSigned_layout _ h

end BehaviorTree.Lua
