import BehaviorTree.Proofs.Lua.Numeral
import BehaviorTree.Proofs.Lua.Quoted

/-! # Lexemes of written text

`Lexes ends cs ls` says that `cs` is cut into the lexemes `ls` in front of any text that starts with
a character of the class `ends`, or of no text at all.  What scripts are written from lexes so, and
texts that do can be put together where the second one starts with a character that ends the first
(`Lexes.append`). -/

namespace BehaviorTree.Lua

open BehaviorTree.Text

/-- A text that is cut into some lexemes, whatever follows it after a character of a class. -/
def Lexes (ends : Char → Bool) (cs : List Char) (ls : List Lexeme) : Prop :=
  ∀ rest, rest.head?.all ends = true → lex 0 (cs ++ rest) = (ls ++ ·) <$> lex 0 rest

/-- Any character may follow. -/
def anything (_ : Char) : Bool := true

/-- A character that cannot go on a name. -/
def endsName (c : Char) : Bool := !isNameChar c

theorem all_anything (c? : Option Char) : c?.all anything = true := by
  cases c? <;> rfl

theorem endsName_of_endsNumeral {c : Char} (h : endsNumeral c = true) : endsName c = true := by
  simp only [endsNumeral, Bool.and_eq_true] at h
  exact h.1

namespace Lexes

variable {ends ends' : Char → Bool} {cs ds : List Char} {ls ms : List Lexeme}

theorem nil : Lexes ends [] [] := by
  intro rest _
  simp

theorem mono (h : Lexes ends cs ls) (hsub : ∀ c, ends' c = true → ends c = true) :
    Lexes ends' cs ls := by
  intro rest hr
  refine h rest ?_
  cases hd : rest.head? with
  | none => rfl
  | some c => exact hsub c (by rw [hd] at hr; exact hr)

/-- Nothing has to be asked of what follows. -/
theorem weaken (h : Lexes anything cs ls) : Lexes ends cs ls := h.mono fun _ _ => rfl

/-- The second text ends the first, or it is empty and what follows does. -/
theorem append' (h : Lexes ends cs ls) (h' : Lexes ends' ds ms)
    (hd : ∀ rest : List Char, rest.head?.all ends' = true → (ds ++ rest).head?.all ends = true) :
    Lexes ends' (cs ++ ds) (ls ++ ms) := by
  intro rest hr
  rw [List.append_assoc, h (ds ++ rest) (hd rest hr), h' rest hr]
  cases lex 0 rest with
  | none => rfl
  | some ls' => simp

/-- **Putting texts together**: the second one starts with a character that ends the first. -/
theorem append (h : Lexes ends cs ls) (h' : Lexes ends' ds ms) (hd : ds.head?.any ends = true) :
    Lexes ends' (cs ++ ds) (ls ++ ms) := by
  refine h.append' h' fun rest _ => ?_
  cases ds with
  | nil => cases hd
  | cons c ds => exact hd

theorem append_anything (h : Lexes anything cs ls) (h' : Lexes ends' ds ms) :
    Lexes ends' (cs ++ ds) (ls ++ ms) :=
  h.append' h' fun _ _ => all_anything _

end Lexes

/-! ### Scanning -/

/-- Characters of the lexeme before are skipped. -/
theorem lex_skip (skipped rest : List Char) :
    lex skipped.length (skipped ++ rest) = lex 0 rest := by
  induction skipped with
  | nil => rfl
  | cons c skipped ih => exact ih

theorem lexes_of_scan {ends : Char → Bool} {cs : List Char} (lexeme : Option Lexeme) (hne : cs ≠ [])
    (h : ∀ rest : List Char, rest.head?.all ends = true →
      scan (cs ++ rest) = some (lexeme, cs.length)) :
    Lexes ends cs lexeme.toList := by
  intro rest hr
  have hscan := h rest hr
  cases cs with
  | nil => exact absurd rfl hne
  | cons c cs =>
      rw [List.cons_append] at hscan ⊢
      rw [lex, hscan]
      change (lex cs.length (cs ++ rest)).bind _ = _
      rw [lex_skip]
      cases lex 0 rest <;> rfl

/-- Blanks are no lexemes. -/
theorem lexes_blank {cs : List Char} (h : ∀ c ∈ cs, isChunkBlank c = true) :
    Lexes anything cs [] := by
  induction cs with
  | nil => exact .nil
  | cons c cs ih =>
      have hscan : Lexes anything [c] [] := by
        refine lexes_of_scan none (by simp) fun rest _ => ?_
        rw [List.singleton_append, scan, if_pos (h c List.mem_cons_self)]
        rfl
      exact hscan.append_anything (ih fun d hd => h d (List.mem_cons_of_mem c hd))

theorem lexes_space : Lexes anything [' '] [] := lexes_blank (List.forall_mem_singleton.2 rfl)

theorem lexes_feed : Lexes anything ['\n'] [] := lexes_blank (List.forall_mem_singleton.2 rfl)

/-- A symbol that is not part of a longer lexeme. -/
theorem lexes_symbol {c : Char} (h : c ∈ ['\x7b', '\x7d', '[', ']', '=', ',']) :
    Lexes anything [c] [.symbol c] := by
  refine lexes_of_scan (some (.symbol c)) (by simp) fun rest _ => ?_
  simp only [List.mem_cons, List.not_mem_nil, or_false] at h
  rcases h with rfl | rfl | rfl | rfl | rfl | rfl <;> rfl

theorem lexes_point : Lexes (fun c => !c.isDigit) ['.'] [.symbol '.'] := by
  refine lexes_of_scan (some (.symbol '.')) (by simp) fun rest hr => ?_
  cases rest with
  | nil => rfl
  | cons c rest =>
      have hc : c.isDigit = false := by simpa using hr
      have hstart : startsNumeral ('.' :: c :: rest) = false := hc
      rw [List.singleton_append, scan, if_neg (by decide), if_neg (by simp), if_neg (by decide),
        hstart]
      rfl

theorem lexes_minus : Lexes (fun c => c ≠ '-') ['-'] [.symbol '-'] := by
  refine lexes_of_scan (some (.symbol '-')) (by simp) fun rest hr => ?_
  cases rest with
  | nil => rfl
  | cons c rest =>
      have hc : c ≠ '-' := by simpa using hr
      rw [List.singleton_append, scan, if_neg (by decide), if_neg (by simp [hc])]
      rfl

/-! ### Names, texts and numerals -/

theorem isNameChar_of_isNameStart {c : Char} (h : isNameStart c = true) : isNameChar c = true := by
  simp only [isNameStart, isNameChar, Char.isAlphanum, Bool.or_eq_true] at h ⊢
  rcases h with h | h
  · exact Or.inl (Or.inl h)
  · exact Or.inr h

theorem isIdentifierForm_all {cs : List Char} (h : isIdentifierForm cs = true) :
    ∀ c ∈ cs, isNameChar c = true := by
  cases cs with
  | nil => cases h
  | cons first rest =>
      simp only [isIdentifierForm, Bool.and_eq_true, List.all_eq_true] at h
      intro c hc
      rcases List.mem_cons.1 hc with rfl | hc
      · exact isNameChar_of_isNameStart h.1
      · exact h.2 c hc

theorem code_of_isNameStart {c : Char} (h : isNameStart c = true) : 65 ≤ c.toNat := by
  unfold isNameStart Char.isAlpha Char.isUpper Char.isLower at h
  simp only [Bool.or_eq_true, Bool.and_eq_true, decide_eq_true_eq, UInt32.le_iff_toNat_le,
    ge_iff_le] at h
  change ((65 ≤ c.toNat ∧ c.toNat ≤ 90) ∨ (97 ≤ c.toNat ∧ c.toNat ≤ 122)) ∨ c = '_' at h
  rcases h with (h | h) | h
  · omega
  · omega
  · subst h
    decide

theorem code_of_isDigit {c : Char} (h : c.isDigit = true) : 48 ≤ c.toNat ∧ c.toNat ≤ 57 := by
  simp only [Char.isDigit, Bool.and_eq_true, decide_eq_true_eq, UInt32.le_iff_toNat_le,
    ge_iff_le] at h
  exact h

theorem isChunkBlank_of_code {c : Char} (h : 0x21 ≤ c.toNat) : isChunkBlank c = false := by
  refine Bool.eq_false_iff.2 fun hb => ?_
  simp only [isChunkBlank, Bool.or_eq_true, Bool.and_eq_true, decide_eq_true_eq, beq_iff_eq] at hb
  omega

theorem takeWhile_append {p : Char → Bool} {cs rest : List Char} (h : ∀ c ∈ cs, p c = true)
    (hr : rest.head?.all (fun c => !p c) = true) : (cs ++ rest).takeWhile p = cs := by
  rw [List.takeWhile_append_of_pos h]
  cases rest with
  | nil => simp
  | cons c rest =>
      have hc : p c = false := by simpa using hr
      rw [List.takeWhile_cons_of_neg (by simp [hc]), List.append_nil]

theorem lexes_name {cs : List Char} (h : isIdentifierForm cs = true) :
    Lexes endsName cs [.name (String.ofList cs)] := by
  have hall := isIdentifierForm_all h
  cases cs with
  | nil => cases h
  | cons c cs =>
      have hstart : isNameStart c = true := by
        simp only [isIdentifierForm, Bool.and_eq_true] at h
        exact h.1
      have hcode := code_of_isNameStart hstart
      have hminus : c ≠ '-' := by
        rintro rfl
        exact absurd hcode (by decide)
      refine lexes_of_scan (some (.name _)) (by simp) fun rest hr => ?_
      have htake := takeWhile_append hall hr
      rw [List.cons_append] at htake ⊢
      rw [scan, if_neg (by simp [isChunkBlank_of_code (show 0x21 ≤ c.toNat by omega)]),
        if_neg (by simp [hminus]), if_pos hstart, htake]

theorem startsNumeral_cons {c : Char} (h : c ≠ '.') (rest : List Char) :
    startsNumeral (c :: rest) = c.isDigit := by
  unfold startsNumeral
  split
  · rename_i heq
    exact absurd (List.cons.inj heq).1 h
  · rename_i heq
    rw [(List.cons.inj heq).1]
  · rename_i heq
    cases heq

theorem lexes_quoted (cs : List Char) :
    Lexes anything (quoteChars cs) [.text (.plain (String.ofList cs))] := by
  refine lexes_of_scan (some (.text _)) (by simp [quoteChars]) fun rest _ => ?_
  have hread := readText?_quoted cs rest
  have hsplit : quoteChars cs ++ rest = '"' :: (cs.flatMap escape ++ '"' :: rest) := by
    simp [quoteChars]
  rw [hsplit, scan, if_neg (by decide), if_neg (by simp), if_neg (by decide),
    startsNumeral_cons (by decide), if_neg (by decide), if_pos rfl, hread]
  simp [ChunkText.ofPieces_map_char, quoteChars]

theorem lexes_numeral {cs : List Char} (h : IsNumeral cs) {n : Number}
    (hn : numberOf? cs = some n) : Lexes endsNumeral cs [.numeral n] := by
  obtain ⟨c, cs, rfl, hc⟩ := h.exists_digit
  refine lexes_of_scan (some (.numeral n)) (by simp) fun rest hr => ?_
  have htake := numeralChars_append h hr
  rw [List.cons_append] at htake ⊢
  have hcode := code_of_isDigit hc
  have hname : ¬ isNameStart c = true := fun hs => by
    have := code_of_isNameStart hs
    omega
  have hminus : c ≠ '-' := ne_of_isDigit hc (by decide)
  rw [scan, if_neg (by simp [isChunkBlank_of_code (show 0x21 ≤ c.toNat by omega)]),
    if_neg (by simp [hminus]), if_neg hname, startsNumeral_cons (ne_of_isDigit hc (by decide)),
    if_pos hc, htake]
  dsimp only
  rw [hn]
  rfl

end BehaviorTree.Lua
