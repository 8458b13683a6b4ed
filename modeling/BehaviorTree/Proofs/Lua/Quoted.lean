import BehaviorTree.Lua.Lexeme
import Mathlib.Tactic.IntervalCases

/-! # Quoted texts

What `quote` writes is read back as the text that it was, whatever comes behind the closing quote
(`readText?_quoted`): each character is escaped so that reading it neither ends the text nor takes a
character of its neighbor (`readText?_escape`). -/

namespace BehaviorTree.Lua

open BehaviorTree.Text

/-! ### Decimal codes -/

theorem asciiDigit?_digitChar : ∀ d < 10, asciiDigit? (Nat.digitChar d) = some d := by decide

/-- No digit is the letter or mark of another escape, so a digit starts a code. -/
theorem readEscape?_digits {d first : ℕ} {cs tail : List Char} {digits : List ℕ} (hd : d < 10)
    (h : spanDigits asciiDigit? ((Nat.digitChar d :: cs).take 3) = (first :: digits, tail)) :
    readEscape? (Nat.digitChar d :: cs) =
      (pieceOfCode? (ofDigits (first :: digits))).map fun piece => (piece, digits.length + 1) := by
  have hcode : readEscape? (Nat.digitChar d :: cs) =
      let digits := (spanDigits asciiDigit? ((Nat.digitChar d :: cs).take 3)).1
      if digits.isEmpty then none
      else (pieceOfCode? (ofDigits digits)).map fun piece => (piece, digits.length) := by
    interval_cases d <;> rfl
  rw [hcode, h]
  rfl

theorem spanDigits_codeDigits (code : ℕ) :
    spanDigits asciiDigit? (codeDigits code) =
      ([code / 100 % 10, code / 10 % 10, code % 10], []) := by
  have hdigit : ∀ n, asciiDigit? (Nat.digitChar (n % 10)) = some (n % 10) :=
    fun n => asciiDigit?_digitChar _ (Nat.mod_lt _ (by decide))
  simp only [codeDigits, spanDigits, hdigit]

/-- A code of three digits is read without the characters behind it. -/
theorem readEscape?_codeDigits {code : ℕ} (h : code < 128) (rest : List Char) :
    readEscape? (codeDigits code ++ rest) = some (.char (Char.ofNat code), 3) := by
  have hnumber : ofDigits [code / 100 % 10, code / 10 % 10, code % 10] = code := by
    simp only [ofDigits, List.foldl_cons, List.foldl_nil]
    omega
  have hread : readEscape? (codeDigits code ++ rest) =
      (pieceOfCode? (ofDigits [code / 100 % 10, code / 10 % 10, code % 10])).map
        fun piece => (piece, 3) :=
    readEscape?_digits (Nat.mod_lt _ (by decide)) (spanDigits_codeDigits code)
  rw [hread, hnumber, pieceOfCode?, if_pos h]
  rfl

/-! ### Reading what was escaped -/

/-- Characters that belong to an escape count, but they are not read again. -/
theorem readText?_skip (skipped rest : List Char) :
    readText? skipped.length (skipped ++ rest) =
      (readText? 0 rest).map fun (text, length) => (text, length + skipped.length) := by
  induction skipped with
  | nil => simp
  | cons c skipped ih =>
      rw [List.cons_append, List.length_cons, readText?, ih, Option.map_map]
      rfl

/-- An escape of some characters behind a backslash. -/
theorem readText?_backslash (body : List Char) {piece : Piece} {rest : List Char}
    (h : readEscape? (body ++ rest) = some (piece, body.length)) :
    readText? 0 ('\\' :: (body ++ rest)) =
      (readText? 0 rest).map fun (text, length) => (piece :: text, length + (body.length + 1)) := by
  rw [readText?, if_neg (by decide), if_pos rfl, h]
  change (readText? body.length (body ++ rest)).bind _ = _
  rw [readText?_skip]
  cases readText? 0 rest with
  | none => rfl
  | some answer => rfl

/-- **One escaped character** is read as that character. -/
theorem readText?_escape (c : Char) (rest : List Char) :
    readText? 0 (escape c ++ rest) =
      (readText? 0 rest).map fun (text, length) =>
        (.char c :: text, length + (escape c).length) := by
  unfold escape
  split_ifs with h1 h2 h3 h4 h5 h6
  · subst h1
    exact readText?_backslash ['\\'] rfl
  · subst h2
    exact readText?_backslash ['"'] rfl
  · subst h3
    exact readText?_backslash ['n'] rfl
  · subst h4
    exact readText?_backslash ['r'] rfl
  · subst h5
    exact readText?_backslash ['t'] rfl
  · have hcode := readEscape?_codeDigits (show c.toNat < 128 by omega) rest
    rw [Char.ofNat_toNat] at hcode
    exact readText?_backslash (codeDigits c.toNat) hcode
  · rw [List.singleton_append, readText?, if_neg h2, if_neg h1, if_neg (by simp [h3, h4])]
    rfl

/-- **A quoted text** is read up to its closing quote and is the text that was quoted. -/
theorem readText?_quoted (cs rest : List Char) :
    readText? 0 (cs.flatMap escape ++ '"' :: rest) =
      some (cs.map .char, (cs.flatMap escape).length + 1) := by
  induction cs with
  | nil => rfl
  | cons c cs ih =>
      rw [List.flatMap_cons, List.append_assoc, readText?_escape, ih]
      simp only [Option.map_some, List.map_cons, List.length_append]
      congr 2
      omega

end BehaviorTree.Lua
