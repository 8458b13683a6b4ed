import BehaviorTree.Lua.Value
import BehaviorTree.Proofs.Decimal.Reading
import BehaviorTree.Proofs.Success
import Mathlib.Data.List.Nodup

/-! # Labels of indices

An index of a table becomes a key of an object under its label.  Integers, doubles and truth values
have different labels (`Index.label_injective`), and so have texts, which are labelled by
themselves.  Hence the labels of a table are distinct exactly if none of its texts spells another
index of it (`nodup_labels_iff`). -/

namespace BehaviorTree.Lua

open BehaviorTree.Text BehaviorTree.Decimal

namespace Index

/-- An index that a table may have: it is not the undefined double. -/
def Proper : Index → Prop
  | float x => x.isNaN = false
  | _ => True

instance : DecidablePred Proper
  | integer _ | text _ | boolean _ => .isTrue trivial
  | float x => inferInstanceAs (Decidable (x.isNaN = false))

/-- Whether an index is a text. -/
def isText : Index → Bool
  | text _ => true
  | _ => false

theorem exists_label_iff {index : Index} :
    (∃ name, index.label = .ok name) ↔ ∀ s, index = .text s → s.string?.isSome = true := by
  cases index with
  | text s => cases s <;> simp [label, ChunkText.decode, ChunkText.string?]
  | _ => simp [label]

/-- A text is labelled by itself. -/
theorem eq_of_label {index : Index} {name : String} (htext : index.isText = true)
    (h : index.label = .ok name) : index = .text (.plain name) := by
  cases index with
  | text s =>
      cases s with
      | plain s => rw [Except.ok.inj h]
      | raw bytes => cases h
  | _ => cases htext

/-- The labels of truth values are read neither as doubles nor as integers. -/
theorem label_boolean_ne {b : Bool} :
    (∀ n, (boolean b).label ≠ (integer n).label) ∧
      ∀ x, x.isNaN = false → (boolean b).label ≠ (float x).label := by
  constructor
  · intro n h
    have hword := congrArg String.toList (Except.ok.inj h)
    have hletter : 'e' ∈ (ofInt n).toList := by
      rw [← hword]
      cases b <;> decide
    exact absurd (mem_toList_ofInt hletter) (by decide)
  · intro x hx h
    have hread := Layout.script.readSigned?_chars hx
    have hword := congrArg String.toList (Except.ok.inj h)
    rw [Layout.text, String.toList_ofList] at hword
    rw [← hword] at hread
    have hnone : readSigned? asciiDigit? (if b then "True" else "False").toList = none := by
      cases b <;> decide
    cases hnone.symm.trans hread

theorem label_integer_ne_float (n : ℤ) (x : Float) : (integer n).label ≠ (float x).label := by
  intro h
  have hword := congrArg String.toList (Except.ok.inj h)
  rw [Layout.text, String.toList_ofList] at hword
  exact Layout.script.chars_ne_ofInt x n hword.symm

/-- **Indices that are no texts** have different labels. -/
theorem label_injective {i j : Index} (hi : i.Proper) (hj : j.Proper) (hitext : i.isText = false)
    (hjtext : j.isText = false) (h : i.label = j.label) : i = j := by
  cases i with
  | text s => cases hitext
  | integer m =>
      cases j with
      | text s => cases hjtext
      | integer n => exact congrArg integer (ofInt_injective (Except.ok.inj h))
      | float y => exact absurd h (label_integer_ne_float m y)
      | boolean b => exact absurd h.symm (label_boolean_ne.1 m)
  | float x =>
      cases j with
      | text s => cases hjtext
      | integer n => exact absurd h.symm (label_integer_ne_float n x)
      | float y => exact congrArg float (Layout.script.text_injective hi hj (Except.ok.inj h))
      | boolean b => exact absurd h.symm (label_boolean_ne.2 x hi)
  | boolean a =>
      cases j with
      | text s => cases hjtext
      | integer n => exact absurd h (label_boolean_ne.1 n)
      | float y => exact absurd h (label_boolean_ne.2 y hj)
      | boolean b =>
          have hword := Except.ok.inj h
          revert hword
          cases a <;> cases b <;> decide

/-! ### Labels of a table -/

/-- A text among some indices spells another index of them. -/
def Clash (keys : List Index) : Prop :=
  ∃ key ∈ keys, ∃ index ∈ keys, key.isText = true ∧ index.isText = false ∧ key.label = index.label

instance : DecidablePred Clash := fun keys => inferInstanceAs (Decidable (∃ key ∈ keys,
  ∃ index ∈ keys, key.isText = true ∧ index.isText = false ∧ key.label = index.label))

theorem not_clash_of_integers {keys : List Index} (h : ∀ key ∈ keys, key.isInteger = true) :
    ¬ Clash keys := by
  rintro ⟨key, hkey, -, -, htext, -⟩
  have hinteger := h key hkey
  cases key with
  | integer n => cases htext
  | _ => cases hinteger

theorem not_clash_of_nodup {keys : List Index} (h : (keys.map label).Nodup) : ¬ Clash keys := by
  rintro ⟨key, hkey, index, hindex, htext, hother, hsame⟩
  obtain rfl := List.inj_on_of_nodup_map h hkey hindex hsame
  cases htext.symm.trans hother

/-- **The labels of distinct indices** are distinct exactly if no text spells another index. -/
theorem nodup_labels_iff {keys : List Index} (hkeys : keys.Nodup)
    (hproper : ∀ key ∈ keys, key.Proper) (hlabels : ∀ key ∈ keys, ∃ name, key.label = .ok name) :
    (keys.map label).Nodup ↔ ¬ Clash keys := by
  refine ⟨not_clash_of_nodup, fun hclash => List.Nodup.map_on (fun i hi j hj hsame => ?_) hkeys⟩
  cases hitext : i.isText with
  | true =>
      cases hjtext : j.isText with
      | true =>
          obtain ⟨name, hname⟩ := hlabels i hi
          exact (eq_of_label hitext hname).trans (eq_of_label hjtext (hsame ▸ hname)).symm
      | false => exact absurd ⟨i, hi, j, hj, hitext, hjtext, hsame⟩ hclash
  | false =>
      cases hjtext : j.isText with
      | true => exact absurd ⟨j, hj, i, hi, hjtext, hitext, hsame.symm⟩ hclash
      | false => exact label_injective (hproper i hi) (hproper j hj) hitext hjtext hsame

end Index
end BehaviorTree.Lua
