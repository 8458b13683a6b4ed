import BehaviorTree.Proofs.Lua.Quoted

/-! # Short strings

The rules of Lua for texts between quotes, on the bytes of a source: all escapes, which bytes may
not stand in a text, and where it ends (`ShortString.read?`).  The scanner of chunks knows only
those that scripts use.

A quoted text is read by these rules up to its closing quote, whatever comes behind it, and is the
text that was quoted (`read?_quote`).  So no text ends its literal early or takes a part of the code
behind it for its own, and different texts have different literals. -/

namespace BehaviorTree.Lua

open BehaviorTree.Text

namespace ShortString

/-! ### The rules -/

/-- The bytes of a text in UTF-8. -/
def utf8 (s : String) : List UInt8 := s.toUTF8.data.toList

/-- The character of a byte of the ASCII range. -/
def charOf (b : UInt8) : Char := Char.ofNat b.toNat

/-- The bytes of a code below 2^31, of which UTF-8 has only those of characters. -/
def encodeCode (code : ℕ) : List UInt8 :=
  let lead (mark place : ℕ) : UInt8 := UInt8.ofNat (mark + code / 64 ^ place)
  let tail (place : ℕ) : UInt8 := UInt8.ofNat (0x80 + code / 64 ^ place % 64)
  if code < 0x80 then [UInt8.ofNat code]
  else if code < 0x800 then [lead 0xC0 1, tail 0]
  else if code < 0x10000 then [lead 0xE0 2, tail 1, tail 0]
  else if code < 0x200000 then [lead 0xF0 3, tail 2, tail 1, tail 0]
  else if code < 0x4000000 then [lead 0xF8 4, tail 3, tail 2, tail 1, tail 0]
  else [lead 0xFC 5, tail 4, tail 3, tail 2, tail 1, tail 0]

/-- The bytes that an escape stands for, and the length of the escape behind its backslash. -/
def readEscape? (source : List UInt8) : Option (List UInt8 × ℕ) :=
  match source.map charOf with
  | 'a' :: _ => some ([7], 1)
  | 'b' :: _ => some ([8], 1)
  | 't' :: _ => some ([9], 1)
  | 'n' :: _ => some ([10], 1)
  | 'v' :: _ => some ([11], 1)
  | 'f' :: _ => some ([12], 1)
  | 'r' :: _ => some ([13], 1)
  | '"' :: _ => some ([34], 1)
  | '\x27' :: _ => some ([39], 1)
  | '\\' :: _ => some ([92], 1)
  | '\n' :: '\r' :: _ | '\r' :: '\n' :: _ => some ([10], 2)
  | '\n' :: _ | '\r' :: _ => some ([10], 1)
  | 'z' :: cs => some ([], (cs.takeWhile isChunkBlank).length + 1)
  | 'x' :: c :: d :: _ => do some ([UInt8.ofNat (16 * (← hexDigit? c) + (← hexDigit? d))], 3)
  | 'u' :: '\x7b' :: cs =>
    let (digits, rest) := spanDigits hexDigit? cs
    let code := digits.foldl (fun n d => 16 * n + d) 0
    if digits ≠ [] ∧ code < 2 ^ 31 ∧ rest.head? = some '\x7d' then
      some (encodeCode code, digits.length + 3)
    else none
  | cs =>
    let digits := (spanDigits asciiDigit? (cs.take 3)).1
    if digits ≠ [] ∧ ofDigits digits < 256 then
      some ([UInt8.ofNat (ofDigits digits)], digits.length)
    else none

/-- The bytes of a text up to the quote that closes it, and the length of what has been read with
that quote. `skip` bytes belong to an escape that has been read. -/
def readBody? (closing : UInt8) : (skip : ℕ) → List UInt8 → Option (List UInt8 × ℕ)
  | _, [] => none
  | skip + 1, _ :: source =>
    (readBody? closing skip source).map fun (text, length) => (text, length + 1)
  | 0, b :: source =>
    if b = closing then some ([], 1)
    else if b = 92 then do
      let (bytes, skip) ← readEscape? source
      let (text, length) ← readBody? closing skip source
      some (bytes ++ text, length + 1)
    else if b = 10 ∨ b = 13 then none
    else (readBody? closing 0 source).map fun (text, length) => (b :: text, length + 1)

/-- The text between quotes at the start of a source, and the source behind it. -/
def read? : List UInt8 → Option (List UInt8 × List UInt8)
  | [] => none
  | b :: source =>
    if b = 34 ∨ b = 39 then
      (readBody? b 0 source).map fun (text, length) => (text, source.drop length)
    else none

example : read? (utf8 "\"\\x41\\z \n\\u\x7b20AC\x7d\\65b\" .. c") =
    some (utf8 "A€Ab", utf8 " .. c") := by
  decide

/-! ### Bytes -/

/-- The bytes of some characters in UTF-8. -/
def bytesOf (cs : List Char) : List UInt8 := cs.flatMap String.utf8EncodeChar

theorem bytesOf_append (cs ds : List Char) : bytesOf (cs ++ ds) = bytesOf cs ++ bytesOf ds :=
  List.flatMap_append

theorem utf8_eq (s : String) : utf8 s = bytesOf s.toList := by
  rw [utf8, String.toUTF8_eq_toByteArray, ← String.utf8Encode_toList, List.utf8Encode,
    List.data_toByteArray]
  rfl

theorem utf8_injective : Function.Injective utf8 := by
  intro s t h
  have hdata : s.toUTF8.data = t.toUTF8.data := Array.toList_inj.1 h
  have hbytes : s.toUTF8 = t.toUTF8 := congrArg ByteArray.mk hdata
  rw [String.toUTF8_eq_toByteArray, String.toUTF8_eq_toByteArray] at hbytes
  exact String.toByteArray_inj.1 hbytes

/-- An ASCII character has one byte, and the bytes of others are beyond the ASCII range. -/
theorem utf8EncodeChar_cases (c : Char) :
    (c.toNat < 128 ∧ String.utf8EncodeChar c = [UInt8.ofNat c.toNat]) ∨
      (128 ≤ c.toNat ∧ ∀ b ∈ String.utf8EncodeChar c, 128 ≤ b.toNat) := by
  have hval : c.val.toNat = c.toNat := rfl
  have hhigh : ∀ n, 128 ≤ n → n < 256 → 128 ≤ (UInt8.ofNat n).toNat := by
    intro n hlow hlt
    rwa [UInt8.toNat_ofNat', Nat.mod_eq_of_lt hlt]
  unfold String.utf8EncodeChar
  dsimp only
  rw [hval]
  split_ifs with hone htwo hthree
  · exact Or.inl ⟨by omega, rfl⟩
  · refine Or.inr ⟨by omega, fun b hb => ?_⟩
    rw [List.mem_cons, List.mem_singleton] at hb
    rcases hb with rfl | rfl <;> exact hhigh _ (by omega) (by omega)
  · refine Or.inr ⟨by omega, fun b hb => ?_⟩
    rw [List.mem_cons, List.mem_cons, List.mem_singleton] at hb
    rcases hb with rfl | rfl | rfl <;> exact hhigh _ (by omega) (by omega)
  · refine Or.inr ⟨by omega, fun b hb => ?_⟩
    rw [List.mem_cons, List.mem_cons, List.mem_cons, List.mem_singleton] at hb
    rcases hb with rfl | rfl | rfl | rfl <;> exact hhigh _ (by omega) (by omega)

theorem charOf_ofNat {c : Char} (h : c.toNat < 128) : charOf (UInt8.ofNat c.toNat) = c := by
  rw [charOf, UInt8.toNat_ofNat', Nat.mod_eq_of_lt (by omega), Char.ofNat_toNat]

/-- The bytes of ASCII characters show these characters. -/
theorem map_charOf_bytesOf {cs : List Char} (h : ∀ c ∈ cs, c.toNat < 128) :
    (bytesOf cs).map charOf = cs := by
  induction cs with
  | nil => rfl
  | cons c cs ih =>
      obtain ⟨hc, hcs⟩ := List.forall_mem_cons.1 h
      rcases utf8EncodeChar_cases c with ⟨-, hbytes⟩ | ⟨hhigh, -⟩
      · rw [bytesOf, List.flatMap_cons, hbytes, List.map_append, List.map_singleton,
          charOf_ofNat hc]
        exact congrArg (c :: ·) (ih hcs)
      · omega

/-! ### Reading what was escaped -/

/-- Some bytes inside quotes stand for these bytes, whatever comes behind them. -/
def Denotes (written bytes : List UInt8) : Prop :=
  ∀ source, readBody? 34 0 (written ++ source) =
    (readBody? 34 0 source).map fun (text, length) => (bytes ++ text, length + written.length)

theorem Denotes.nil : Denotes [] [] := by
  intro source
  simp

theorem Denotes.append {written bytes written' bytes' : List UInt8} (h : Denotes written bytes)
    (h' : Denotes written' bytes') : Denotes (written ++ written') (bytes ++ bytes') := by
  intro source
  rw [List.append_assoc, h, h', Option.map_map]
  refine congrArg (fun f => Option.map f _) (funext fun (text, length) => ?_)
  simp only [Function.comp_apply, List.append_assoc, List.length_append, Prod.mk.injEq, true_and]
  omega

/-- A byte that starts no escape, ends no text and is no line break stands for itself. -/
theorem denotes_byte {b : UInt8} (h : b ≠ 34 ∧ b ≠ 92 ∧ b ≠ 10 ∧ b ≠ 13) : Denotes [b] [b] := by
  intro source
  rw [List.singleton_append, readBody?, if_neg h.1, if_neg h.2.1, if_neg (by simp [h.2.2])]
  rfl

theorem denotes_bytes {bytes : List UInt8} (h : ∀ b ∈ bytes, b ≠ 34 ∧ b ≠ 92 ∧ b ≠ 10 ∧ b ≠ 13) :
    Denotes bytes bytes := by
  induction bytes with
  | nil => exact .nil
  | cons b bytes ih =>
      obtain ⟨hb, hbytes⟩ := List.forall_mem_cons.1 h
      exact (denotes_byte hb).append (ih hbytes)

/-- Bytes that belong to an escape count, but they are not read again. -/
theorem readBody?_skip (skipped source : List UInt8) :
    readBody? 34 skipped.length (skipped ++ source) =
      (readBody? 34 0 source).map fun (text, length) => (text, length + skipped.length) := by
  induction skipped with
  | nil => simp
  | cons b skipped ih =>
      rw [List.cons_append, List.length_cons, readBody?, ih, Option.map_map]
      rfl

/-- A backslash and an escape stand for the bytes of the escape. -/
theorem denotes_backslash (body : List UInt8) {bytes : List UInt8}
    (h : ∀ source, readEscape? (body ++ source) = some (bytes, body.length)) :
    Denotes (92 :: body) bytes := by
  intro source
  rw [List.cons_append, readBody?, if_neg (by decide), if_pos rfl, h]
  change (readBody? 34 body.length (body ++ source)).bind _ = _
  rw [readBody?_skip]
  cases readBody? 34 0 source with
  | none => rfl
  | some answer => rfl

/-- No digit is the letter or mark of another escape, so a digit starts a code. -/
theorem readEscape?_of_digit {d : ℕ} (hd : d < 10) {source : List UInt8} {cs : List Char}
    (h : source.map charOf = Nat.digitChar d :: cs) {digits : List ℕ} {rest : List Char}
    (hspan : spanDigits asciiDigit? ((Nat.digitChar d :: cs).take 3) = (digits, rest)) :
    readEscape? source =
      if digits ≠ [] ∧ ofDigits digits < 256 then
        some ([UInt8.ofNat (ofDigits digits)], digits.length)
      else none := by
  obtain rfl : digits = (spanDigits asciiDigit? ((Nat.digitChar d :: cs).take 3)).1 := by
    rw [hspan]
  unfold readEscape?
  rw [h]
  interval_cases d <;> rfl

theorem map_charOf_codeDigits (code : ℕ) :
    (bytesOf (codeDigits code)).map charOf = codeDigits code := by
  have hdigit : ∀ d < 10, (Nat.digitChar d).toNat < 128 := by decide
  refine map_charOf_bytesOf fun c hc => ?_
  simp only [codeDigits, List.mem_cons, List.not_mem_nil, or_false] at hc
  rcases hc with rfl | rfl | rfl <;> exact hdigit _ (Nat.mod_lt _ (by decide))

/-- A code of three digits is read without the bytes behind it. -/
theorem readEscape?_codeDigits {code : ℕ} (h : code < 128) (source : List UInt8) :
    readEscape? (bytesOf (codeDigits code) ++ source) =
      some ([UInt8.ofNat code], (bytesOf (codeDigits code)).length) := by
  have hnumber : ofDigits [code / 100 % 10, code / 10 % 10, code % 10] = code := by
    simp only [ofDigits, List.foldl_cons, List.foldl_nil]
    omega
  have hchars : (bytesOf (codeDigits code) ++ source).map charOf =
      codeDigits code ++ source.map charOf := by
    rw [List.map_append, map_charOf_codeDigits]
  have hread := readEscape?_of_digit (Nat.mod_lt (code / 100) (by decide)) hchars
    (spanDigits_codeDigits code)
  rw [hread, hnumber, if_pos ⟨List.cons_ne_nil _ _, by omega⟩, ← List.length_map charOf,
    map_charOf_codeDigits]
  rfl

/-- **One escaped character** stands for the bytes of that character. -/
theorem denotes_escape (c : Char) : Denotes (bytesOf (escape c)) (String.utf8EncodeChar c) := by
  unfold escape
  split_ifs with h1 h2 h3 h4 h5 h6
  · subst h1
    exact denotes_backslash [92] fun _ => rfl
  · subst h2
    exact denotes_backslash [34] fun _ => rfl
  · subst h3
    exact denotes_backslash [110] fun _ => rfl
  · subst h4
    exact denotes_backslash [114] fun _ => rfl
  · subst h5
    exact denotes_backslash [116] fun _ => rfl
  · -- A control character: its code.
    rcases utf8EncodeChar_cases c with ⟨hlt, hbytes⟩ | ⟨hhigh, -⟩
    · rw [hbytes]
      exact denotes_backslash (bytesOf (codeDigits c.toNat)) (readEscape?_codeDigits hlt)
    · omega
  · -- Any other character: its bytes.
    rw [bytesOf, List.flatMap_singleton]
    refine denotes_bytes fun b hb => ?_
    rcases utf8EncodeChar_cases c with ⟨hlt, hbytes⟩ | ⟨-, hhigh⟩
    · have hchar : charOf b = c := by
        rw [hbytes] at hb
        rw [List.mem_singleton.1 hb, charOf_ofNat hlt]
      subst hchar
      refine ⟨?_, ?_, ?_, ?_⟩ <;> rintro rfl
      · exact h2 rfl
      · exact h1 rfl
      · exact h3 rfl
      · exact h4 rfl
    · have hlow := hhigh b hb
      refine ⟨?_, ?_, ?_, ?_⟩ <;> rintro rfl <;> exact absurd hlow (by decide)

/-- **Escaped characters** stand for the bytes of these characters. -/
theorem denotes_flatMap_escape (cs : List Char) :
    Denotes (bytesOf (cs.flatMap escape)) (bytesOf cs) := by
  induction cs with
  | nil => exact .nil
  | cons c cs ih =>
      rw [List.flatMap_cons, bytesOf_append]
      exact (denotes_escape c).append ih

/-! ### Quoted texts -/

theorem utf8_quote (s : String) :
    utf8 (quote s) = 34 :: (bytesOf (s.toList.flatMap escape) ++ [34]) := by
  rw [utf8_eq, quote, String.toList_ofList, quoteChars, bytesOf, List.flatMap_cons,
    List.flatMap_append]
  rfl

/-- A quoted text is read up to its closing quote. -/
theorem read?_utf8_quote (s : String) (source : List UInt8) :
    read? (utf8 (quote s) ++ source) = some (utf8 s, source) := by
  have hbody : readBody? 34 0 (bytesOf (s.toList.flatMap escape) ++ 34 :: source) =
      some (bytesOf s.toList, (bytesOf (s.toList.flatMap escape)).length + 1) := by
    rw [denotes_flatMap_escape s.toList, readBody?, if_pos rfl]
    simp [Nat.add_comm]
  rw [utf8_quote, List.cons_append, List.append_assoc, List.singleton_append, read?,
    if_pos (Or.inl rfl), hbody, Option.map_some]
  dsimp only
  rw [← List.drop_drop, List.drop_left, utf8_eq]
  rfl

/-- **A quoted text and any source behind it** are read as the text and that source, so the literal
of a text tells the text, and no literal is the start of another one. -/
theorem read?_quote (s : String) :
    (∀ source, read? (utf8 (quote s) ++ source) = some (utf8 s, source)) ∧
      (∀ t, quote s = quote t ↔ s = t) ∧
      ∀ t source source', utf8 (quote s) ++ source = utf8 (quote t) ++ source' ↔
        s = t ∧ source = source' := by
  have hsplit : ∀ t source source', utf8 (quote s) ++ source = utf8 (quote t) ++ source' →
      s = t ∧ source = source' := by
    intro t source source' h
    have hread := read?_utf8_quote s source
    rw [h, read?_utf8_quote] at hread
    obtain ⟨htext, hsource⟩ := Prod.mk.inj (Option.some.inj hread)
    exact ⟨(utf8_injective htext).symm, hsource.symm⟩
  refine ⟨read?_utf8_quote s, fun t => ⟨fun h => ?_, congrArg quote⟩, fun t source source' =>
    ⟨hsplit t source source', ?_⟩⟩
  · exact (hsplit t [] [] (by rw [h])).1
  · rintro ⟨rfl, rfl⟩
    rfl

end ShortString
end BehaviorTree.Lua
