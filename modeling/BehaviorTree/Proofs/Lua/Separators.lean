import BehaviorTree.Lua.Script
import BehaviorTree.Proofs.Success
import BehaviorTree.Proofs.Text.Trimming

/-! # Numbers between separators

A text of the designer that has the form of a number is read as one when it is written into a
script, and no number is read where an information separator is among the blanks at its ends
(`Separated`).  This is the only fault of a call that writes a text, and `ReadsIf` says so of a call:
it returns if a condition holds, and otherwise ends with this fault.  Calls one after the other have
all their conditions together. -/

namespace BehaviorTree

open BehaviorTree.Text BehaviorTree.Decimal

/-- The default of a reference. -/
def Resolved.default? : Resolved → Option String
  | literal _ => none
  | reference _ default => default

/-- The text that a scalar is read from: a literal, or the default of a reference. -/
def Resolved.text? : Resolved → Option String
  | literal text => some text
  | reference _ default => default

namespace Lua

/-- A call returns if a condition holds, and otherwise ends at a number that cannot be read. -/
def ReadsIf {α : Type} (P : Prop) (x : Except Fault α) : Prop :=
  ReturnsIf (· = .unreadableNumber) P x

/-! ### Texts that are read -/

/-- A text that has the form of a number, but with an information separator among the blanks at its
ends. -/
def Separated (text : String) : Prop :=
  (readUnsigned? digit? (takeSign (trim text).toList).2).isSome = true ∧
    trimChars isSpace text.toList ≠ (trim text).toList

/-- A text that can be read, if there is one. -/
def Clear (text? : Option String) : Prop := ∀ s ∈ text?, ¬ Separated s

theorem clear_none : Clear none := nofun

theorem clear_empty : Clear (some "") := by
  intro s hs hseparated
  obtain rfl := Option.some.inj hs
  exact absurd hseparated.1 (by decide)

theorem readsIf_number? (text : String) : ReadsIf (Clear (some text)) (number? text) := by
  have hclear : Clear (some text) ↔ ¬ Separated text := by
    simp [Clear]
  refine ReturnsIf.congr ?_ hclear.symm
  unfold number? Separated
  rw [toList_trim]
  dsimp only
  cases readUnsigned? digit? (takeSign (trimChars isBlank text.toList)).2 with
  | none => exact .of_ok (by simp)
  | some w =>
      dsimp only
      by_cases hseparators : trimChars isSpace text.toList = trimChars isBlank text.toList
      · rw [if_neg (not_not_intro hseparators)]
        exact .of_ok (by simp [hseparators])
      · rw [if_pos hseparators]
        exact .of_error rfl (by simp [hseparators])

theorem readsIf_ofText (text : String) : ReadsIf (Clear (some text)) (Scalar.ofText text) := by
  unfold Scalar.ofText
  refine ((readsIf_number? text).bind fun x? _ => ?_).congr (and_iff_left trivial)
  cases x? <;> exact .of_ok trivial

theorem readsIf_ofResolved (resolved : Resolved) :
    ReadsIf (Clear resolved.text?) (Leaf.ofResolved resolved) := by
  cases resolved with
  | literal text => exact (readsIf_ofText text).map
  | reference key default =>
      cases default with
      | none => exact .of_ok clear_none
      | some default =>
          simp only [Leaf.ofResolved]
          split_ifs with hempty
          · obtain rfl := String.isEmpty_iff.1 hempty
            exact .of_ok clear_empty
          · exact (readsIf_ofText default).map

/-- **An attribute text is written** unless the number that stands for it is between separators. -/
theorem Exporter.readsIf_leafOf (e : Exporter) (text : String) :
    ReadsIf (Clear (e.resolver.resolve text).text?) (e.leafOf text) :=
  readsIf_ofResolved (e.resolver.resolve text)

end Lua
end BehaviorTree
