import BehaviorTree.Text.Blank
import Mathlib.Data.List.Basic

/-! # Lines

A line feed at the end of a text is no part of its last line.  A pattern of a line matches a text
that has it, and such a text with a line feed behind it (`matchesLine_iff`). -/

namespace BehaviorTree.Text

theorem dropFinalNewline_concat (cs : List Char) : dropFinalNewline (cs ++ ['\n']) = cs := by
  simp [dropFinalNewline]

theorem dropFinalNewline_of_getLast? {cs : List Char} (h : cs.getLast? ≠ some '\n') :
    dropFinalNewline cs = cs :=
  if_neg h

/-- A line is a text with or without a line feed behind it. -/
theorem eq_or_eq_concat_dropFinalNewline (cs : List Char) :
    cs = dropFinalNewline cs ∨ cs = dropFinalNewline cs ++ ['\n'] := by
  unfold dropFinalNewline
  split_ifs with h
  · exact Or.inr (List.dropLast_append_getLast? _ h).symm
  · exact Or.inl rfl

theorem matchesLine_iff {p : List Char → Bool} {cs : List Char} :
    matchesLine p cs = true ↔ p cs = true ∨ ∃ line, p line = true ∧ cs = line ++ ['\n'] := by
  rw [matchesLine, Bool.or_eq_true]
  constructor
  · rintro (h | h)
    · exact Or.inl h
    · rcases eq_or_eq_concat_dropFinalNewline cs with hsame | hfeed
      · exact Or.inl (hsame ▸ h)
      · exact Or.inr ⟨_, h, hfeed⟩
  · rintro (h | ⟨line, h, rfl⟩)
    · exact Or.inl h
    · exact Or.inr (by rwa [dropFinalNewline_concat])

end BehaviorTree.Text
