import BehaviorTree.Json.Lexeme
import BehaviorTree.Json.Writer
import BehaviorTree.Proofs.Decimal.Numeral

/-! # Scanning what was written

Each kind of text that the writer of documents emits is one token for the scanner: a quoted text
(`scan_writeText`), a number (`scan_writeNumber`), a word.  The length of the token is that of the
text, so that the next one starts where it was written.

Of any text the scanner answers a token of one of a few kinds (`scan_cases`), and each lexeme of a
text is what it answers at the place of the lexeme (`exists_of_mem_lex`). -/

namespace BehaviorTree.Json

open BehaviorTree.Text BehaviorTree.Decimal

variable {half : Char}

/-! ### Quoted texts -/

/-- The escape of a control character: four hexadecimal digits that denote it. -/
theorem hex_control : ∀ n < 0x20, ∃ a b, hex 4 n = ['0', '0', a, b] ∧ hex4? '0' '0' a b = some n := by
  have h : ∀ n < 0x20, hex 4 n = ['0', '0', if n < 16 then '0' else '1', Nat.digitChar (n % 16)] ∧
      hex4? '0' '0' (if n < 16 then '0' else '1') (Nat.digitChar (n % 16)) = some n := by
    decide
  exact fun n hn => ⟨_, _, h n hn⟩

theorem scanText_quote (length : ℕ) (reversed rest : List Char) :
    scanText half length reversed ('"' :: rest) = endText reversed (length + 1) := by
  rw [scanText.eq_def]
  rfl

theorem scanText_plain (length : ℕ) (reversed rest : List Char) {c : Char} (hquote : c ≠ '"')
    (hescape : c ≠ '\\') (hplain : ¬ c.toNat < 0x20) :
    scanText half length reversed (c :: rest) =
      scanText half (length + 1) (c :: reversed) rest := by
  rw [scanText.eq_def]
  simp only [if_neg hquote, if_pos hescape, if_neg hplain]

theorem scanText_escape (length : ℕ) (reversed rest : List Char) {letter plain : Char}
    (hletter : letter ≠ 'u') (h : unescape? letter = some plain) :
    scanText half length reversed ('\\' :: letter :: rest) =
      scanText half (length + 2) (plain :: reversed) rest := by
  rw [scanText.eq_def]
  simp [hletter, h]

/-- The escape of a control character is read as the character, if something follows it. -/
theorem scanText_control (length : ℕ) (reversed : List Char) {rest : List Char} (hrest : rest ≠ [])
    {c : Char} (hc : c.toNat < 0x20) :
    scanText half length reversed ('\\' :: 'u' :: (hex 4 c.toNat ++ rest)) =
      scanText half (length + 6) (c :: reversed) rest := by
  obtain ⟨a, b, hhex, hvalue⟩ := hex_control c.toNat hc
  obtain ⟨d, more, rfl⟩ := List.exists_cons_of_ne_nil hrest
  have hchar : charOfCode half c.toNat = c := by
    rw [charOfCode, if_pos (show c.toNat.isValidChar from c.valid), Char.ofNat_toNat]
  have hlow : isHighSurrogate c.toNat = false := by
    simp [isHighSurrogate]
    omega
  rw [scanText.eq_def, hhex]
  simp [codeEscape?, hvalue, hlow, hchar]

/-- **The written form of a character is read as the character.**  Something follows it, be it the
closing quote. -/
theorem scanText_escapeChar (length : ℕ) (reversed : List Char) (c : Char) {rest : List Char}
    (hrest : rest ≠ []) :
    scanText half length reversed (escapeChar c ++ rest) =
      scanText half (length + (escapeChar c).length) (c :: reversed) rest := by
  unfold escapeChar
  split_ifs with hquote hescape hb ht hn hf hr hcontrol
  · subst hquote
    exact scanText_escape _ _ _ (by decide) rfl
  · subst hescape
    exact scanText_escape _ _ _ (by decide) rfl
  · subst hb
    exact scanText_escape _ _ _ (by decide) rfl
  · subst ht
    exact scanText_escape _ _ _ (by decide) rfl
  · subst hn
    exact scanText_escape _ _ _ (by decide) rfl
  · subst hf
    exact scanText_escape _ _ _ (by decide) rfl
  · subst hr
    exact scanText_escape _ _ _ (by decide) rfl
  · obtain ⟨a, b, hhex, -⟩ := hex_control c.toNat hcontrol
    rw [List.cons_append, List.cons_append, scanText_control _ _ hrest hcontrol, hhex]
    rfl
  · exact scanText_plain _ _ _ hquote hescape hcontrol

variable (half) in
theorem scanText_flatMap (cs : List Char) (length : ℕ) (reversed rest : List Char) :
    scanText half length reversed (cs.flatMap escapeChar ++ '"' :: rest) =
      (.text (String.ofList (reversed.reverse ++ cs)),
        length + (cs.flatMap escapeChar).length + 1) := by
  induction cs generalizing length reversed with
  | nil =>
      rw [List.flatMap_nil, List.nil_append, scanText_quote, endText]
      simp
  | cons c cs ih =>
      rw [List.flatMap_cons, List.append_assoc, scanText_escapeChar _ _ _ (by simp), ih]
      simp [Nat.add_assoc]

/-- **A written text is one token.** -/
theorem scan_writeText (s : String) (rest : List Char) :
    scan half (writeText s ++ rest) = (.text s, (writeText s).length) := by
  have h := scanText_flatMap half s.toList 1 [] rest
  simp only [writeText, List.cons_append, List.append_assoc, List.nil_append, scan, h]
  simp [Nat.add_comm]

/-! ### Numbers -/

/-- A character that may follow a number: none that would go on with it. -/
def endsNumber (c : Char) : Bool := !c.isDigit && c ≠ '.' && c ≠ 'e' && c ≠ 'E'

theorem endsNumber_iff (c : Char) :
    endsNumber c = true ↔ c.isDigit = false ∧ c ≠ '.' ∧ c ≠ 'e' ∧ c ≠ 'E' := by
  simp [endsNumber, and_assoc]

section numbers

variable {rest : List Char} (hrest : rest.head?.all endsNumber = true)
include hrest

theorem head_rest : ∀ c ∈ rest.head?, c.isDigit = false := by
  intro c hc
  rw [Option.mem_def.1 hc] at hrest
  exact ((endsNumber_iff c).1 hrest).1

theorem fraction?_rest : fraction? rest = none := by
  cases rest with
  | nil => rfl
  | cons c rest =>
      have hc := ((endsNumber_iff c).1 hrest).2.1
      unfold fraction?
      split
      · rename_i heq
        exact absurd (List.cons.inj heq).1 hc
      · rfl

theorem exponent?_rest : exponent? rest = none := by
  cases rest with
  | nil => rfl
  | cons c rest =>
      obtain ⟨-, -, he, hE⟩ := (endsNumber_iff c).1 hrest
      simp [exponent?, he, hE]

omit hrest in
theorem wholeDigits_append {whole more : List Char} (hw : Digits whole)
    (hhead : whole = ['0'] ∨ whole.head? ≠ some '0') (hne : whole ≠ [])
    (hmore : ∀ c ∈ more.head?, c.isDigit = false) :
    wholeDigits (whole ++ more) = (whole.map digitValue, more) := by
  rcases hhead with rfl | hhead
  · rfl
  · obtain ⟨c, whole, rfl⟩ := List.exists_cons_of_ne_nil hne
    have hc : c ≠ '0' := fun h => hhead (by rw [h]; rfl)
    have hspan := spanDigits_append hw hmore
    unfold wholeDigits
    split
    · rename_i heq
      exact absurd (List.cons.inj heq).1 hc
    · exact hspan

theorem scanUnsigned?_toDigits (negative : Bool) (n : ℕ) :
    scanUnsigned? negative (Nat.toDigits 10 n ++ rest) =
      some (integerToken negative ((Nat.toDigits 10 n).map digitValue),
        (Nat.toDigits 10 n).length) := by
  have hhead : Nat.toDigits 10 n = ['0'] ∨ (Nat.toDigits 10 n).head? ≠ some '0' := by
    rcases Nat.eq_zero_or_pos n with rfl | hpos
    · exact Or.inl (Nat.toDigits_zero 10)
    · exact Or.inr (head?_toDigits hpos.ne')
  have hne : Nat.toDigits 10 n ≠ [] := Nat.toDigits_ne_nil
  have hwhole := wholeDigits_append (digits_toDigits n) hhead hne (head_rest hrest)
  obtain ⟨d, ds, hds⟩ := List.exists_cons_of_ne_nil hne
  unfold scanUnsigned?
  rw [hwhole, hds]
  simp [fraction?_rest hrest, exponent?_rest hrest]

theorem exponent?_mark {n : Numeral} (hn : n.Proper) :
    exponent? (n.mark ++ rest) =
      if n.power.isSome then some (n.exponent, n.mark.length) else none := by
  cases hp : n.power with
  | none =>
      have hmark : n.mark = [] := by rw [Numeral.mark, hp]
      rw [hmark]
      exact exponent?_rest hrest
  | some p =>
      obtain ⟨negative, ds⟩ := p
      obtain ⟨hd, hne⟩ := hn.power_digits _ hp
      have hmark : n.mark = 'e' :: Numeral.signChar negative :: ds := by rw [Numeral.mark, hp]
      have hsign : takeSign (Numeral.signChar negative :: (ds ++ rest)) = (negative, ds ++ rest) := by
        cases negative <;> rfl
      have hspan := spanDigits_append hd (head_rest hrest)
      obtain ⟨d, more, rfl⟩ := List.exists_cons_of_ne_nil hne
      rw [hmark]
      simp only [List.cons_append, exponent?, true_or, if_true]
      rw [← List.cons_append, hsign]
      dsimp only
      rw [hspan]
      simp only [List.map_cons, Option.isSome_some, if_true, Option.some.injEq, Prod.mk.injEq,
        Numeral.exponent, hp, List.length_cons, List.length_append, List.length_map]
      exact ⟨trivial, by omega⟩

/-- The fraction of a numeral, empty where there is none. -/
theorem fraction?_point {n : Numeral} (hn : n.Proper) :
    (fraction? (n.point ++ (n.mark ++ rest))).getD ([], n.point ++ (n.mark ++ rest)) =
      (n.fraction.map digitValue, n.mark ++ rest) := by
  by_cases hempty : n.fraction = []
  · have hpoint : n.point = [] := by simp [Numeral.point, hempty]
    have hnone : fraction? (n.mark ++ rest) = none := by
      unfold Numeral.mark
      cases n.power with
      | none => exact fraction?_rest hrest
      | some p => rfl
    rw [hpoint, List.nil_append, hnone, hempty]
    rfl
  · have hpoint : n.point = '.' :: n.fraction := by simp [Numeral.point, hempty]
    have hspan := spanDigits_append hn.fraction_digits (Numeral.Proper.head_mark n (head_rest hrest))
    obtain ⟨d, ds, hds⟩ := List.exists_cons_of_ne_nil hempty
    rw [hds] at hspan
    rw [hpoint, List.cons_append, fraction?, hds, hspan]
    rfl

/-- **A number that is no integer is one token.** -/
theorem scanUnsigned?_chars (negative : Bool) {n : Numeral} (hn : n.Proper) :
    scanUnsigned? negative (n.chars ++ rest) =
      some (.scalar (.number (.float (signed negative n.written.toFloat))), n.chars.length) := by
  have hwhole := wholeDigits_append hn.whole_digits hn.whole_head hn.whole_ne_nil
    (Numeral.Proper.head_point n (head_rest hrest))
  obtain ⟨d, ds, hds⟩ := List.exists_cons_of_ne_nil hn.whole_ne_nil
  have hlength : n.chars.length = n.whole.length + (n.point.length + n.mark.length) := by
    simp [Numeral.chars]
  have hpoint : n.point.length = if n.fraction.isEmpty then 0 else n.fraction.length + 1 := by
    unfold Numeral.point
    split_ifs <;> rfl
  rw [hlength, hpoint]
  unfold scanUnsigned? Numeral.chars
  rw [List.append_assoc, List.append_assoc, hwhole, hds]
  simp only [List.map_cons, fraction?_point hrest hn, exponent?_mark hrest hn]
  cases hp : n.power with
  | none =>
      have hfraction : n.fraction ≠ [] := hn.marked.resolve_right (by simp [hp])
      have hmark : n.mark.length = 0 := by rw [Numeral.mark, hp]; rfl
      simp [hfraction, hmark, Numeral.written, Numeral.exponent, hp, hds]
  | some p => simp [Numeral.written, Nat.add_assoc, hds]

end numbers

/-! ### Values without parts -/

/-- The token that a number is written as: null, if the number is not finite.  An integer may be too
long to be read. -/
def numberToken : Number → Token
  | .int n =>
    if isWritable n then .scalar (.number (.int n))
    else .longNumeral (Nat.toDigits 10 n.natAbs).length
  | .float x => .scalar (if x.isFinite then .number (.float x) else .null)

theorem integerToken_toDigits (i : ℤ) :
    integerToken (decide (i < 0)) ((Nat.toDigits 10 i.natAbs).map digitValue) =
      numberToken (.int i) := by
  have hvalue : (if decide (i < 0) = true then -(i.natAbs : ℤ) else i.natAbs) = i := by
    split_ifs with h <;> simp at h <;> omega
  rw [integerToken, natOfDigits_eq (by simp), numberToken, List.length_map, ofDigits_toDigits]
  by_cases hlength : (Nat.toDigits 10 i.natAbs).length ≤ numeralLimit
  · rw [if_neg (not_lt.2 hlength), if_pos ((isWritable_iff i).2 hlength)]
    simp only [hvalue]
  · rw [if_pos (not_le.1 hlength), if_neg (mt (isWritable_iff i).1 hlength)]

/-- What starts as a number is scanned as one. -/
theorem scan_of_scanNumber? {c : Char} (h : c.isDigit = true ∨ c = '-') {cs : List Char}
    {found : Token × ℕ} (hfound : scanNumber? (c :: cs) = some found) :
    scan half (c :: cs) = found := by
  have hne : ∀ d : Char, d.isDigit = false → d ≠ '-' → c ≠ d := by
    rintro d hd hminus rfl
    rcases h with h | h
    · rw [hd] at h
      cases h
    · exact hminus h
  unfold scan
  split <;> rename_i heq
  · exact absurd (List.cons.inj heq).1 (hne _ rfl (by decide))
  · exact absurd (List.cons.inj heq).1 (hne _ rfl (by decide))
  · exact absurd (List.cons.inj heq).1 (hne _ rfl (by decide))
  · exact absurd (List.cons.inj heq).1 (hne _ rfl (by decide))
  · exact absurd (List.cons.inj heq).1 (hne _ rfl (by decide))
  · exact absurd (List.cons.inj heq).1 (hne _ rfl (by decide))
  · exact absurd (List.cons.inj heq).1 (hne _ rfl (by decide))
  · rw [hfound]
    rfl

variable (half) in
/-- A number behind its sign. -/
theorem scan_signed (negative : Bool) {cs : List Char} {token : Token} {length : ℕ}
    (hcs : ∃ c ∈ cs.head?, c.isDigit = true)
    (h : scanUnsigned? negative cs = some (token, length)) :
    scan half ((if negative then ['-'] else []) ++ cs) =
      (token, (if negative then ['-'] else []).length + length) := by
  obtain ⟨c, hc, hdigit⟩ := hcs
  obtain ⟨rest, rfl⟩ : ∃ rest, cs = c :: rest := by
    cases cs with
    | nil => cases hc
    | cons d rest => exact ⟨rest, by rw [Option.some.inj hc]⟩
  cases negative with
  | true =>
      refine scan_of_scanNumber? (Or.inr rfl) ?_
      simp [scanNumber?, h, Nat.add_comm]
  | false =>
      refine scan_of_scanNumber? (Or.inl hdigit) ?_
      have hminus : c ≠ '-' := ne_of_isDigit hdigit (by decide)
      unfold scanNumber?
      split
      · rename_i heq
        exact absurd (List.cons.inj heq).1 hminus
      · simpa using h

theorem exists_digit {ds rest : List Char} (h : Digits ds) (hne : ds ≠ []) :
    ∃ c ∈ (ds ++ rest).head?, c.isDigit = true := by
  obtain ⟨c, ds, rfl⟩ := List.exists_cons_of_ne_nil hne
  exact ⟨c, rfl, h c List.mem_cons_self⟩

theorem scan_null (rest : List Char) : scan half ("null".toList ++ rest) = (.scalar .null, 4) := by
  simp [scan, scanNumber?, scanUnsigned?, wholeDigits, spanDigits, asciiDigit?, scanWord?, words]

theorem scan_true (rest : List Char) :
    scan half ("true".toList ++ rest) = (.scalar (.bool true), 4) := by
  simp [scan, scanNumber?, scanUnsigned?, wholeDigits, spanDigits, asciiDigit?, scanWord?, words]

theorem scan_false (rest : List Char) :
    scan half ("false".toList ++ rest) = (.scalar (.bool false), 5) := by
  simp [scan, scanNumber?, scanUnsigned?, wholeDigits, spanDigits, asciiDigit?, scanWord?, words]

/-- **A written number is one token**, if it is followed by nothing that goes on with it. -/
theorem scan_writeNumber {n : Number} {rest : List Char}
    (hrest : rest.head?.all endsNumber = true) :
    scan half (writeNumber n ++ rest) = (numberToken n, (writeNumber n).length) := by
  cases n with
  | int i =>
      have hscan := scanUnsigned?_toDigits hrest (decide (i < 0)) i.natAbs
      rw [writeNumber, toList_ofInt, List.append_assoc,
        scan_signed half _ (exists_digit (digits_toDigits _) Nat.toDigits_ne_nil) hscan,
        integerToken_toDigits, List.length_append]
  | float x =>
      rw [writeNumber, numberToken]
      by_cases hx : x.isFinite = true
      · obtain ⟨n, hproper, hchars, hvalue⟩ := Layout.document.exists_numeral hx
        have hscan := scanUnsigned?_chars hrest (decide (x.toBits >>> 63 = 1)) hproper
        have hdigit : ∃ c ∈ (n.chars ++ rest).head?, c.isDigit = true := by
          rw [Numeral.chars, List.append_assoc]
          exact exists_digit hproper.whole_digits hproper.whole_ne_nil
        have hsigned := scan_signed half _ hdigit hscan
        rw [hvalue] at hsigned
        rw [if_pos hx, if_pos hx, hchars, List.append_assoc, List.length_append]
        simpa using hsigned
      · rw [if_neg hx, if_neg hx, scan_null]
        rfl

/-! ### Any text -/

/-- A number is scanned behind its sign. -/
theorem exists_of_scanNumber? {cs : List Char} {found : Token × ℕ}
    (h : scanNumber? cs = some found) : ∃ (negative : Bool) (body : List Char) (length : ℕ),
      cs = (if negative then ['-'] else []) ++ body ∧
        scanUnsigned? negative body = some (found.1, length) := by
  unfold scanNumber? at h
  split at h
  · obtain ⟨⟨token, length⟩, hunsigned, rfl⟩ := Option.map_eq_some_iff.1 h
    exact ⟨true, _, length, rfl, hunsigned⟩
  · exact ⟨false, cs, found.2, rfl, h⟩

/-- A word is a value without parts. -/
theorem exists_of_scanWord? {cs : List Char} {found : Token × ℕ} (h : scanWord? cs = some found) :
    ∃ word ∈ words, found.1 = .scalar word.2 := by
  obtain ⟨word, hword, rfl⟩ := Option.map_eq_some_iff.1 h
  exact ⟨word, List.mem_of_find?_eq_some hword, rfl⟩

/-- **What the scanner answers**: a text, a number, a word, or a token that holds nothing. -/
theorem scan_cases (cs : List Char) :
    (∃ rest, scan half cs = scanText half 1 [] rest) ∨ scanNumber? cs = some (scan half cs) ∨
      scanWord? cs = some (scan half cs) ∨ (scan half cs).1 ∈ [.openObject, .closeObject, .openArray,
        .closeArray, .colon, .comma, .unknown] := by
  generalize hscan : scan half cs = found
  unfold scan at hscan
  split at hscan
  case h_7 rest => exact Or.inl ⟨rest, hscan.symm⟩
  case h_8 =>
    cases h : (scanNumber? cs).or (scanWord? cs) with
    | none =>
        rw [h] at hscan
        simp [← hscan]
    | some token =>
        rw [h] at hscan
        obtain rfl : token = found := hscan
        rcases Option.or_eq_some_iff.1 h with h | ⟨-, h⟩
        · exact Or.inr (Or.inl h)
        · exact Or.inr (Or.inr (Or.inl h))
  all_goals simp [← hscan]

/-- Each lexeme is what the scanner answers at its place. -/
theorem exists_of_mem_lex {skip offset : ℕ} {cs : List Char} {l : Lexeme}
    (h : l ∈ lex half skip offset cs) :
    ∃ k, l.offset = offset + k ∧ l.token = (scan half (cs.drop k)).1 := by
  induction cs generalizing skip offset with
  | nil => cases h
  | cons c cs ih =>
      have hlater : ∀ {skip' : ℕ}, l ∈ lex half skip' (offset + 1) cs →
          ∃ k, l.offset = offset + k ∧ l.token = (scan half ((c :: cs).drop k)).1 := by
        intro skip' hl
        obtain ⟨k, hoffset, htoken⟩ := ih hl
        exact ⟨k + 1, by omega, htoken⟩
      cases skip with
      | succ skip => exact hlater h
      | zero =>
          rw [lex] at h
          split_ifs at h with hgap
          · exact hlater h
          · rcases List.mem_cons.1 h with rfl | h
            · exact ⟨0, rfl, rfl⟩
            · split_ifs at h with hends
              · cases h
              · exact hlater h

end BehaviorTree.Json
