import BehaviorTree.Text.Numeral
import Mathlib.Data.List.Induction
import Mathlib.Data.Nat.Notation
import Mathlib.Algebra.Order.Ring.Nat
import Mathlib.Tactic.Ring

/-! # Numbers of digits

The number of a list of digits against the list: appending, leading zeros, and the bounds that the
number of digits gives.  The digits that a number is written in are read back as the number
(`ofDigits_toDigits`).  A text of digits is read up to where it ends (`spanDigits_append`). -/

namespace BehaviorTree.Text

/-- The value of an ASCII digit, whatever the character. -/
def digitValue (c : Char) : ℕ := c.toNat - 48

theorem ofDigits_map_digitValue (cs : List Char) :
    ofDigits (cs.map digitValue) = Nat.ofDigitChars 10 cs 0 := by
  rw [ofDigits, Nat.ofDigitChars_eq_foldl, List.foldl_map]
  rfl

/-- **The digits of a number are read back as the number.** -/
theorem ofDigits_toDigits (n : ℕ) : ofDigits ((Nat.toDigits 10 n).map digitValue) = n := by
  rw [ofDigits_map_digitValue, Nat.ofDigitChars_ten_toDigits]

theorem ofDigits_append (first second : List ℕ) :
    ofDigits (first ++ second) = ofDigits first * 10 ^ second.length + ofDigits second := by
  induction second using List.reverseRecOn with
  | nil => simp [ofDigits]
  | append_singleton second d ih =>
      rw [← List.append_assoc, ofDigits_append_one, ofDigits_append_one, ih, List.length_append,
        List.length_singleton, pow_succ]
      ring

theorem ofDigits_replicate_zero (n : ℕ) : ofDigits (List.replicate n 0) = 0 := by
  induction n with
  | zero => rfl
  | succ n ih => rw [List.replicate_succ', ofDigits_append_one, ih]

theorem ofDigits_cons (d : ℕ) (rest : List ℕ) :
    ofDigits (d :: rest) = d * 10 ^ rest.length + ofDigits rest := by
  simpa [ofDigits] using ofDigits_append [d] rest

/-- Leading zeros do not count. -/
theorem ofDigits_dropWhile_zero (digits : List ℕ) :
    ofDigits (digits.dropWhile (· = 0)) = ofDigits digits := by
  induction digits with
  | nil => rfl
  | cons d rest ih =>
      by_cases hd : d = 0
      · rw [List.dropWhile_cons_of_pos (by simpa using hd), ih, ofDigits_cons, hd, zero_mul, zero_add]
      · rw [List.dropWhile_cons_of_neg (by simpa using hd)]

theorem ofDigits_lt {digits : List ℕ} (h : ∀ d ∈ digits, d < 10) :
    ofDigits digits < 10 ^ digits.length := by
  induction digits with
  | nil => decide
  | cons d rest ih =>
      have hrest := ih fun e he => h e (List.mem_cons_of_mem d he)
      have hd : d ≤ 9 := Nat.lt_succ_iff.1 (h d List.mem_cons_self)
      rw [ofDigits_cons, List.length_cons, pow_succ]
      have := Nat.mul_le_mul_right (10 ^ rest.length) hd
      omega

/-- A number whose first digit is not zero has as many digits as it is written in. -/
theorem le_ofDigits {d : ℕ} (hd : d ≠ 0) (rest : List ℕ) :
    10 ^ rest.length ≤ ofDigits (d :: rest) := by
  rw [ofDigits_cons]
  exact le_add_right (Nat.le_mul_of_pos_left _ (Nat.pos_of_ne_zero hd))

/-! ### Texts of digits -/

/-- Digits and nothing else. -/
def Digits (cs : List Char) : Prop := ∀ c ∈ cs, c.isDigit = true

theorem Digits.append {cs ds : List Char} (h : Digits cs) (h' : Digits ds) : Digits (cs ++ ds) := by
  intro c hc
  rcases List.mem_append.1 hc with hc | hc
  · exact h c hc
  · exact h' c hc

theorem digits_replicate_zero (n : ℕ) : Digits (List.replicate n '0') := by
  intro c hc
  rw [List.eq_of_mem_replicate hc]
  decide

theorem digits_toDigits (n : ℕ) : Digits (Nat.toDigits 10 n) :=
  fun _ hc => Nat.isDigit_of_mem_toDigits (by decide) (by decide) hc

/-- The numeral of an integer: a minus if it is negative, then digits. -/
theorem toList_ofInt (n : ℤ) :
    (ofInt n).toList = (if decide (n < 0) then ['-'] else []) ++ Nat.toDigits 10 n.natAbs := by
  cases n with
  | ofNat n => simp [ofInt, ofNat]
  | negSucc n => simp [ofInt, ofNat]

/-- The numeral of an integer has a minus and digits only. -/
theorem mem_toList_ofInt {n : ℤ} {c : Char} (h : c ∈ (ofInt n).toList) :
    c = '-' ∨ c.isDigit = true := by
  rw [toList_ofInt, List.mem_append] at h
  rcases h with h | h
  · split_ifs at h
    · exact Or.inl (List.mem_singleton.1 h)
    · cases h
  · exact Or.inr (digits_toDigits _ c h)

theorem toDigits_injective : Function.Injective (Nat.toDigits 10) := by
  intro m n h
  rw [← ofDigits_toDigits m, h, ofDigits_toDigits]

/-- **Different integers have different numerals.** -/
theorem ofInt_injective : Function.Injective ofInt := by
  intro m n h
  have hlist := congrArg String.toList h
  rw [toList_ofInt, toList_ofInt] at hlist
  have hhead : ∀ k : ℕ, (Nat.toDigits 10 k).head? ≠ some '-' := by
    intro k hk
    exact absurd (digits_toDigits k _ (List.mem_of_mem_head? hk)) (by decide)
  by_cases hm : m < 0 <;> by_cases hn : n < 0 <;> simp only [hm, hn, decide_true, decide_false,
    if_true, Bool.false_eq_true, if_false, List.nil_append, List.singleton_append] at hlist
  · have habs := toDigits_injective (List.cons.inj hlist).2
    omega
  · exact absurd (by rw [← hlist]; rfl) (hhead n.natAbs)
  · exact absurd (by rw [hlist]; rfl) (hhead m.natAbs)
  · have habs := toDigits_injective hlist
    omega

theorem isDigit_iff (c : Char) : c.isDigit = true ↔ '0' ≤ c ∧ c ≤ '9' := by
  rw [Char.isDigit, Bool.and_eq_true, decide_eq_true_eq, decide_eq_true_eq]
  exact Iff.rfl

theorem ne_of_isDigit {c d : Char} (h : c.isDigit = true) (hd : d.isDigit = false) : c ≠ d := by
  rintro rfl
  rw [h] at hd
  cases hd

theorem asciiDigit?_of_isDigit {c : Char} (h : c.isDigit = true) :
    asciiDigit? c = some (digitValue c) := by
  rw [asciiDigit?, if_pos ((isDigit_iff c).1 h)]
  rfl

theorem asciiDigit?_of_not_isDigit {c : Char} (h : c.isDigit = false) : asciiDigit? c = none := by
  rw [asciiDigit?, if_neg]
  rw [← isDigit_iff, h]
  exact Bool.false_ne_true

theorem asciiDigit?_lt {c : Char} {d : ℕ} (h : asciiDigit? c = some d) : d < 10 := by
  unfold asciiDigit? at h
  split_ifs at h with hc
  obtain rfl := Option.some.inj h
  have : c.toNat ≤ 57 := hc.2
  omega

theorem spanDigits_lt (cs : List Char) : ∀ d ∈ (spanDigits asciiDigit? cs).1, d < 10 := by
  induction cs with
  | nil => nofun
  | cons c cs ih =>
      intro d hd
      unfold spanDigits at hd
      split at hd
      · rename_i e he
        rcases List.mem_cons.1 hd with rfl | hd
        · exact asciiDigit?_lt he
        · exact ih d hd
      · cases hd

theorem spanDigits_append {ds rest : List Char} (hd : Digits ds)
    (hr : ∀ c ∈ rest.head?, c.isDigit = false) :
    spanDigits asciiDigit? (ds ++ rest) = (ds.map digitValue, rest) := by
  induction ds with
  | nil =>
      cases rest with
      | nil => rfl
      | cons c rest =>
          have hc := asciiDigit?_of_not_isDigit (hr c rfl)
          simp [spanDigits, hc]
  | cons c ds ih =>
      have hc := asciiDigit?_of_isDigit (hd c List.mem_cons_self)
      have := ih fun d hm => hd d (List.mem_cons_of_mem c hm)
      simp [spanDigits, hc, this]

theorem allDigits?_digits {ds : List Char} (h : Digits ds) :
    allDigits? asciiDigit? ds = some (ds.map digitValue) := by
  induction ds with
  | nil => rfl
  | cons c ds ih =>
      have hc := asciiDigit?_of_isDigit (h c List.mem_cons_self)
      have := ih fun d hm => h d (List.mem_cons_of_mem c hm)
      unfold allDigits? at this ⊢
      rw [List.mapM_cons, hc, this]
      rfl

theorem map_digitValue_zeros (n : ℕ) :
    (List.replicate n '0').map digitValue = List.replicate n 0 := by
  rw [List.map_replicate]
  rfl

/-- Zeros in front of digits do not count. -/
theorem ofDigits_zeros_append (n : ℕ) (ds : List Char) :
    ofDigits ((List.replicate n '0' ++ ds).map digitValue) = ofDigits (ds.map digitValue) := by
  rw [List.map_append, ofDigits_append, map_digitValue_zeros, ofDigits_replicate_zero, zero_mul,
    zero_add]

/-- Zeros behind digits multiply their number by powers of ten. -/
theorem ofDigits_append_zeros (n : ℕ) (ds : List Char) :
    ofDigits ((ds ++ List.replicate n '0').map digitValue) =
      ofDigits (ds.map digitValue) * 10 ^ n := by
  rw [List.map_append, ofDigits_append, map_digitValue_zeros, ofDigits_replicate_zero,
    List.length_replicate, add_zero]

theorem digits_padded (width n : ℕ) : Digits (padded width n).toList := by
  rw [padded, String.toList_ofList]
  exact (digits_replicate_zero _).append (digits_toDigits _)

theorem padded_ne_nil (width n : ℕ) : (padded width n).toList ≠ [] := by
  rw [padded, String.toList_ofList]
  simp [Nat.toDigits_ne_nil]

theorem ofDigits_padded (width n : ℕ) : ofDigits ((padded width n).toList.map digitValue) = n := by
  rw [padded, String.toList_ofList, ofDigits_zeros_append, ofDigits_toDigits]

theorem digitValue_lt {cs : List Char} (h : Digits cs) : ∀ d ∈ cs.map digitValue, d < 10 := by
  intro d hd
  obtain ⟨c, hc, rfl⟩ := List.mem_map.1 hd
  obtain ⟨-, hle⟩ := (isDigit_iff c).1 (h c hc)
  have : c.toNat ≤ 57 := hle
  unfold digitValue
  omega

/-! ### Integers that can be written -/

theorem isWritable_iff (n : ℤ) :
    isWritable n = true ↔ (Nat.toDigits 10 n.natAbs).length ≤ numeralLimit := by
  unfold isWritable ofNat?
  dsimp only
  split_ifs with h <;> simp [h]

theorem isWritable_iff_lt (n : ℤ) : isWritable n = true ↔ n.natAbs < 10 ^ numeralLimit := by
  rw [isWritable_iff]
  exact Nat.length_toDigits_le_iff (by decide) (by decide)

theorem isWritable_of_natAbs_le {m n : ℤ} (h : isWritable n = true) (hle : m.natAbs ≤ n.natAbs) :
    isWritable m = true :=
  (isWritable_iff_lt m).2 (hle.trans_lt ((isWritable_iff_lt n).1 h))

/-- A number with few enough digits can be written. -/
theorem isWritable_ofDigits {digits : List ℕ} (h : ∀ d ∈ digits, d < 10)
    (hlength : digits.length ≤ numeralLimit) : isWritable (ofDigits digits) = true :=
  (isWritable_iff_lt _).2 ((ofDigits_lt h).trans_le (Nat.pow_le_pow_right (by decide) hlength))

theorem isWritable_neg (n : ℤ) : isWritable (-n) = isWritable n := by
  rw [isWritable, isWritable, Int.natAbs_neg]

theorem natOfDigits_eq {digits : List ℕ} (hne : digits ≠ []) : natOfDigits digits =
    if numeralLimit < digits.length then .error (.tooLong digits.length)
    else .ok (ofDigits digits) := by
  rw [natOfDigits, if_neg (by simpa using hne)]

/-! ### Reading digits -/

section reading

variable {value? : Char → Option ℕ} {cs : List Char} {ds : List ℕ}

theorem allDigits?_cons_eq_some_iff {c : Char} : allDigits? value? (c :: cs) = some ds ↔
    ∃ d rest, value? c = some d ∧ allDigits? value? cs = some rest ∧ d :: rest = ds := by
  simp only [allDigits?, List.mapM_cons, Option.bind_eq_bind, Option.bind_eq_some_iff,
    Option.pure_def, Option.some.injEq, exists_and_left]

/-- The digits of a text are the values of its characters. -/
theorem value_of_allDigits? (h : allDigits? value? cs = some ds) :
    (∀ c ∈ cs, (value? c).isSome = true) ∧ ∀ d ∈ ds, ∃ c, value? c = some d := by
  induction cs generalizing ds with
  | nil =>
      obtain rfl := Option.some.inj h
      exact ⟨nofun, nofun⟩
  | cons c cs ih =>
      obtain ⟨d, rest, hd, hrest, rfl⟩ := allDigits?_cons_eq_some_iff.1 h
      obtain ⟨hchars, hdigits⟩ := ih hrest
      exact ⟨List.forall_mem_cons.2 ⟨by rw [hd]; rfl, hchars⟩,
        List.forall_mem_cons.2 ⟨⟨c, hd⟩, hdigits⟩⟩

/-- A text of digits is read to its end. -/
theorem spanDigits_of_allDigits? (h : allDigits? value? cs = some ds) :
    spanDigits value? cs = (ds, []) := by
  induction cs generalizing ds with
  | nil =>
      obtain rfl := Option.some.inj h
      rfl
  | cons c cs ih =>
      obtain ⟨d, rest, hd, hrest, rfl⟩ := allDigits?_cons_eq_some_iff.1 h
      simp [spanDigits, hd, ih hrest]

/-- What is read of a text are the digits in front. -/
theorem exists_of_spanDigits {rest : List Char} (h : spanDigits value? cs = (ds, rest)) :
    ∃ front, cs = front ++ rest ∧ allDigits? value? front = some ds := by
  induction cs generalizing ds with
  | nil =>
      cases h
      exact ⟨[], rfl, rfl⟩
  | cons c cs ih =>
      unfold spanDigits at h
      split at h
      · rename_i d hd
        obtain ⟨rfl, rfl⟩ := Prod.mk.inj h
        obtain ⟨front, hfront, hdigits⟩ := ih rfl
        exact ⟨c :: front, congrArg (c :: ·) hfront,
          allDigits?_cons_eq_some_iff.2 ⟨d, _, hd, hdigits, rfl⟩⟩
      · cases h
        exact ⟨[], rfl, rfl⟩

/-- What is read of ASCII digits are all the digits in front. -/
theorem exists_digits_of_spanDigits {rest : List Char}
    (h : spanDigits asciiDigit? cs = (ds, rest)) :
    ∃ front, cs = front ++ rest ∧ Digits front ∧ front.map digitValue = ds ∧
      ∀ c ∈ rest.head?, c.isDigit = false := by
  induction cs generalizing ds with
  | nil =>
      cases h
      exact ⟨[], rfl, nofun, rfl, nofun⟩
  | cons c cs ih =>
      cases hc : c.isDigit with
      | true =>
          rw [spanDigits, asciiDigit?_of_isDigit hc] at h
          obtain ⟨rfl, rfl⟩ := Prod.mk.inj h
          obtain ⟨front, hfront, hdigits, hvalue, hrest⟩ := ih rfl
          exact ⟨c :: front, congrArg (c :: ·) hfront, List.forall_mem_cons.2 ⟨hc, hdigits⟩,
            congrArg (digitValue c :: ·) hvalue, hrest⟩
      | false =>
          rw [spanDigits, asciiDigit?_of_not_isDigit hc] at h
          cases h
          refine ⟨[], rfl, nofun, rfl, fun d hd => ?_⟩
          rw [← Option.some.inj hd]
          exact hc

end reading

end BehaviorTree.Text
