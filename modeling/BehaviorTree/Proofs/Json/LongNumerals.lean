import BehaviorTree.Json.Reader
import BehaviorTree.Proofs.Json.Scanning
import BehaviorTree.Proofs.Success

/-! # Integers that are too long to be read

A text breaks the grammar, or it holds an integer with more digits than are read.  The second is no
fault of the grammar.  The reader answers it exactly where it comes to such an integer before any
other fault of the text (`parse_eq_longNumeral_iff`): all lexemes before it are accepted, a value
may start there, and the integer goes on as no fraction and no exponent, for with these it would be
read as a double, however long it is. -/

namespace BehaviorTree.Json

open BehaviorTree.Text BehaviorTree.Decimal

variable {half : Char}

/-! ### What the scanner takes for such an integer -/

/-- Digits that are an integer of more digits than are read, and what follows them in the text. -/
structure LongInteger (digits rest : List Char) : Prop where
  written : Digits digits
  head : digits.head? ≠ some '0'
  long : numeralLimit < digits.length
  /-- All the digits are there. -/
  ends : ∀ c ∈ rest.head?, c.isDigit = false
  fraction : fraction? rest = none
  exponent : exponent? rest = none

/-- A text starts with an integer of so many digits, which are more than are read. -/
def StartsLong (cs : List Char) (n : ℕ) : Prop :=
  ∃ (negative : Bool) (digits rest : List Char),
    cs = (if negative then ['-'] else []) ++ (digits ++ rest) ∧ LongInteger digits rest ∧
      digits.length = n

theorem fraction?_ne_nil {cs rest : List Char} {digits : List ℕ}
    (h : fraction? cs = some (digits, rest)) : digits ≠ [] := by
  unfold fraction? at h
  split at h
  · split at h
    · cases h
    · rename_i hne
      rintro rfl
      exact hne _ (Option.some.inj h)
  · cases h

/-- Digits of which the first is no zero are read up to the first character that is none. -/
theorem exists_of_wholeDigits {cs rest : List Char} {whole : List ℕ}
    (h : wholeDigits cs = (whole, rest)) (hlong : 1 < whole.length) :
    ∃ digits, cs = digits ++ rest ∧ Digits digits ∧ digits.head? ≠ some '0' ∧
      digits.length = whole.length ∧ ∀ c ∈ rest.head?, c.isDigit = false := by
  unfold wholeDigits at h
  split at h
  · obtain ⟨rfl, -⟩ := Prod.mk.inj h
    exact absurd hlong (by decide)
  · rename_i hzero
    obtain ⟨digits, rfl, hdigits, rfl, hrest⟩ := exists_digits_of_spanDigits h
    refine ⟨digits, rfl, hdigits, fun hhead => ?_, (List.length_map _).symm, hrest⟩
    obtain ⟨more, rfl⟩ := List.head?_eq_some_iff.1 hhead
    exact hzero _ rfl

theorem integerToken_eq_longNumeral_iff {negative : Bool} {digits : List ℕ} (hne : digits ≠ [])
    {n : ℕ} : integerToken negative digits = .longNumeral n ↔
      numeralLimit < digits.length ∧ digits.length = n := by
  rw [integerToken, natOfDigits_eq hne]
  by_cases hlong : numeralLimit < digits.length
  · simp [hlong]
  · rw [if_neg hlong]
    constructor
    · intro h
      cases h
    · intro h
      exact absurd h.1 hlong

theorem exists_of_scanUnsigned? {negative : Bool} {cs : List Char} {n length : ℕ}
    (h : scanUnsigned? negative cs = some (.longNumeral n, length)) :
    ∃ digits rest, cs = digits ++ rest ∧ LongInteger digits rest ∧ digits.length = n := by
  unfold scanUnsigned? at h
  split at h
  · cases h
  rename_i whole rest hne hwhole
  dsimp only at h
  split at h
  case h_2 => cases Option.some.inj h
  rename_i hexponent
  split_ifs at h with hfraction
  case neg => cases (Prod.mk.inj (Option.some.inj h)).1
  obtain ⟨htoken, -⟩ := Prod.mk.inj (Option.some.inj h)
  obtain ⟨hlong, hlength⟩ := (integerToken_eq_longNumeral_iff hne).1 htoken
  have hone : 1 < whole.length := lt_of_le_of_lt (by decide) hlong
  obtain ⟨digits, rfl, hdigits, hhead, hsame, hends⟩ := exists_of_wholeDigits hwhole hone
  have hnone : fraction? rest = none := by
    cases hfound : fraction? rest with
    | none => rfl
    | some found =>
        rw [hfound] at hfraction
        exact absurd (List.isEmpty_iff.1 hfraction) (fraction?_ne_nil hfound)
  rw [hnone] at hexponent
  refine ⟨digits, rest, rfl, ⟨hdigits, hhead, ?_, hends, hnone, hexponent⟩, ?_⟩
  · rw [hsame]
    exact hlong
  · rw [hsame]
    exact hlength

theorem LongInteger.ne_nil {digits rest : List Char} (h : LongInteger digits rest) :
    digits ≠ [] :=
  List.ne_nil_of_length_pos (Nat.zero_lt_of_lt h.long)

theorem scanUnsigned?_longInteger (negative : Bool) {digits rest : List Char}
    (h : LongInteger digits rest) : scanUnsigned? negative (digits ++ rest) =
      some (.longNumeral digits.length, digits.length) := by
  have hwhole := wholeDigits_append h.written (Or.inr h.head) h.ne_nil h.ends
  have htoken : integerToken negative (digits.map digitValue) = .longNumeral digits.length := by
    refine (integerToken_eq_longNumeral_iff (by simpa using h.ne_nil)).2 ?_
    rw [List.length_map]
    exact ⟨h.long, rfl⟩
  obtain ⟨d, ds, hds⟩ := List.exists_cons_of_ne_nil h.ne_nil
  unfold scanUnsigned?
  rw [hwhole]
  rw [hds, List.map_cons] at htoken
  rw [hds]
  simp [h.fraction, h.exponent, htoken]

theorem scanText_ne_longNumeral (length : ℕ) (reversed cs : List Char) (n : ℕ) :
    (scanText half length reversed cs).1 ≠ .longNumeral n := by
  fun_induction scanText half length reversed cs <;> simp_all [endText]

/-- **The scanner answers an integer that is too long exactly where one starts.** -/
theorem scan_eq_longNumeral_iff {cs : List Char} {n : ℕ} :
    (scan half cs).1 = .longNumeral n ↔ StartsLong cs n := by
  constructor
  · intro htoken
    rcases scan_cases cs with ⟨rest, h⟩ | h | h | h
    · rw [h] at htoken
      exact absurd htoken (scanText_ne_longNumeral _ _ rest n)
    · obtain ⟨negative, body, length, rfl, h⟩ := exists_of_scanNumber? h
      rw [htoken] at h
      obtain ⟨digits, rest, rfl, hlong, hlength⟩ := exists_of_scanUnsigned? h
      exact ⟨negative, digits, rest, rfl, hlong, hlength⟩
    · obtain ⟨word, -, h⟩ := exists_of_scanWord? h
      rw [htoken] at h
      cases h
    · rw [htoken] at h
      simp at h
  · rintro ⟨negative, digits, rest, rfl, hlong, rfl⟩
    rw [scan_signed half negative (exists_digit hlong.written hlong.ne_nil)
      (scanUnsigned?_longInteger negative hlong)]

/-! ### What the machine does with it -/

/-- A value may start in a state. -/
def State.AwaitsValue : State → Prop
  | .awaitValue _ | .arrayStart _ => True
  | _ => False

theorem begin_eq_longNumeral_iff {l : Lexeme} {stack : List Frame} {n : ℕ} :
    State.begin l stack = .error (.longNumeral n) ↔ l.token = .longNumeral n := by
  unfold State.begin
  cases l.token <;> simp [Lexeme.refuse]

theorem beginKey_ne_longNumeral (l : Lexeme) (fields : List (String × Json)) (stack : List Frame)
    (n : ℕ) : State.beginKey l fields stack ≠ .error (.longNumeral n) := by
  unfold State.beginKey
  cases l.token <;> simp [Lexeme.refuse]

/-- **A step breaks off at an integer that is too long exactly where a value may start.** -/
theorem step_eq_longNumeral_iff {state : State} {l : Lexeme} {n : ℕ} :
    state.step l = .error (.longNumeral n) ↔ state.AwaitsValue ∧ l.token = .longNumeral n := by
  cases state with
  | awaitValue stack => simp [State.step, State.AwaitsValue, begin_eq_longNumeral_iff]
  | arrayStart stack =>
      have hbegin : State.begin l (.array [] :: stack) = .error (.longNumeral n) ↔
          l.token = .longNumeral n := begin_eq_longNumeral_iff
      unfold State.step
      split <;> simp_all [State.AwaitsValue]
  | objectStart stack =>
      have hkey := beginKey_ne_longNumeral l [] stack n
      unfold State.step
      split <;> simp_all [State.AwaitsValue]
  | awaitKey fields stack =>
      have hkey := beginKey_ne_longNumeral l fields stack n
      simpa [State.step, State.AwaitsValue] using hkey
  | arrayNext | awaitColon | objectNext =>
      unfold State.step
      split <;> simp_all [State.AwaitsValue, Lexeme.refuse]
  | done value => simp [State.step, State.AwaitsValue, Lexeme.refuse]

/-- A run breaks off there if it accepts all that stands before. -/
theorem run_eq_longNumeral_iff {state : State} {ls : List Lexeme} {n : ℕ} :
    state.run ls = .error (.longNumeral n) ↔
      ∃ before l after reached, ls = before ++ l :: after ∧ state.run before = .ok reached ∧
        reached.AwaitsValue ∧ l.token = .longNumeral n := by
  constructor
  · intro h
    induction ls generalizing state with
    | nil => cases h
    | cons l ls ih =>
        rw [run_cons] at h
        rcases bind_eq_error_iff.1 h with h | ⟨next, hnext, h⟩
        · obtain ⟨hawaits, htoken⟩ := step_eq_longNumeral_iff.1 h
          exact ⟨[], l, ls, state, rfl, rfl, hawaits, htoken⟩
        · obtain ⟨before, found, after, reached, rfl, hrun, hfound⟩ := ih h
          refine ⟨l :: before, found, after, reached, rfl, ?_, hfound⟩
          rw [run_cons, hnext]
          exact hrun
  · rintro ⟨before, l, after, reached, rfl, hrun, hfound⟩
    have hstep : reached.step l = .error (.longNumeral n) := step_eq_longNumeral_iff.2 hfound
    rw [run_append, hrun]
    exact bind_eq_error_iff.2 (Or.inr ⟨reached, rfl, bind_eq_error_iff.2 (Or.inl hstep)⟩)

/-- A text is accepted up to an integer of so many digits, more than are read, where a value may
start. -/
def ReachesLong (half : Char) (cs : List Char) (n : ℕ) : Prop :=
  ∃ before l after state, lex half 0 0 cs = before ++ l :: after ∧
    (State.awaitValue []).run before = .ok state ∧ state.AwaitsValue ∧
      StartsLong (cs.drop l.offset) n

/-- A text that starts with such an integer is accepted up to it. -/
theorem reachesLong_of_startsLong {cs : List Char} {n : ℕ} (h : StartsLong cs n) :
    ReachesLong half cs n := by
  obtain ⟨c, rest, rfl, hgap⟩ : ∃ c rest, cs = c :: rest ∧ isGap c = false := by
    obtain ⟨negative, digits, after, rfl, hlong, -⟩ := h
    obtain ⟨d, ds, rfl⟩ := List.exists_cons_of_ne_nil hlong.ne_nil
    cases negative with
    | true => exact ⟨'-', _, rfl, rfl⟩
    | false =>
        have hdigit := hlong.written d List.mem_cons_self
        refine ⟨d, _, rfl, ?_⟩
        simp [isGap, ne_of_isDigit hdigit]
  have hlex : ∃ after, lex half 0 0 (c :: rest) = ⟨(scan half (c :: rest)).1, 0⟩ :: after := by
    rw [lex, hgap]
    exact ⟨_, rfl⟩
  obtain ⟨after, hlex⟩ := hlex
  exact ⟨[], _, after, .awaitValue [], hlex, rfl, trivial, h⟩

theorem finish_ne_longNumeral (offset : ℕ) (state : State) (n : ℕ) :
    state.finish offset ≠ .error (.longNumeral n) := by
  cases state <;> simp [State.finish]

/-- **Reading breaks off at an integer that is too long exactly if it comes to one.** -/
theorem parseChars_eq_longNumeral_iff {cs : List Char} {n : ℕ} :
    parseChars half cs = .error (.longNumeral n) ↔ ReachesLong half cs n := by
  have hplace : ∀ l ∈ lex half 0 0 cs, l.token = (scan half (cs.drop l.offset)).1 := by
    intro l hl
    obtain ⟨k, hoffset, htoken⟩ := exists_of_mem_lex hl
    rwa [hoffset, Nat.zero_add]
  rw [parseChars, bind_eq_error_iff, or_iff_left, run_eq_longNumeral_iff]
  · refine exists_congr fun before => exists_congr fun l => exists_congr fun after =>
      exists_congr fun state => and_congr_right fun hlex => ?_
    have hl : l ∈ lex half 0 0 cs := by
      rw [hlex]
      exact List.mem_append_right _ List.mem_cons_self
    rw [hplace l hl, scan_eq_longNumeral_iff]
  · rintro ⟨state, -, h⟩
    exact finish_ne_longNumeral _ _ _ h

/-- A text that starts with a byte order mark has no lexeme in front of it. -/
theorem lex_byteOrderMark (cs : List Char) : lex half 0 0 ('\ufeff' :: cs) = [⟨.unknown, 0⟩] := by
  have hscan : scan half ('\ufeff' :: cs) = (.unknown, 1) := by
    simp [scan, scanNumber?, scanUnsigned?, wholeDigits, spanDigits, asciiDigit?, scanWord?, words]
  rw [lex, if_neg (by decide), hscan]
  rfl

/-- The same of a text that is given as such. -/
theorem parse_eq_longNumeral_iff {s : String} {n : ℕ} :
    parse half s = .error (.longNumeral n) ↔ ReachesLong half s.toList n := by
  rw [← parseChars_eq_longNumeral_iff]
  unfold parse
  split
  · rename_i rest hmark
    have hrun : parseChars half s.toList = .error (.malformed .expectingValue 0) := by
      rw [parseChars, hmark, lex_byteOrderMark]
      rfl
    rw [hrun]
    simp
  · rfl

end BehaviorTree.Json
