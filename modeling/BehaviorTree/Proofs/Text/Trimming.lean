import BehaviorTree.Text.Blank
import Mathlib.Data.List.DropRight

/-! # Trimming

A text that has been trimmed has no blanks at its ends, and trimming it again changes nothing, nor
does trimming it of fewer characters.  It starts with the first character that is not blank. -/

namespace BehaviorTree.Text

variable {blank fewer : Char → Bool}

theorem head?_trimChars (blank : Char → Bool) (cs : List Char) :
    (trimChars blank cs).head? = (cs.dropWhile blank).head? := by
  have hprefix : trimChars blank cs <+: cs.dropWhile blank := List.rdropWhile_prefix blank _
  cases hdrop : cs.dropWhile blank with
  | nil => rw [trimChars, hdrop]; rfl
  | cons c ds =>
      have hhead := List.head?_dropWhile_not blank cs
      rw [hdrop] at hhead hprefix
      cases htrim : trimChars blank cs with
      | nil =>
          rw [trimChars, hdrop] at htrim
          have hall := List.rdropWhile_eq_nil_iff.1 htrim c List.mem_cons_self
          simp [hall] at hhead
      | cons d rest =>
          rw [htrim] at hprefix
          exact congrArg some (List.cons_prefix_cons.1 hprefix).1

/-- A text without blanks stays as it is. -/
theorem trimChars_of_forall {cs : List Char} (h : ∀ c ∈ cs, blank c = false) :
    trimChars blank cs = cs := by
  have hdrop : ∀ ds : List Char, (∀ c ∈ ds, blank c = false) → ds.dropWhile blank = ds := by
    intro ds hds
    cases ds with
    | nil => rfl
    | cons c ds => exact List.dropWhile_cons_of_neg (by simp [hds c List.mem_cons_self])
  rw [trimChars, hdrop cs h, hdrop cs.reverse fun c hc => h c (List.mem_reverse.1 hc),
    List.reverse_reverse]

/-- Trimming a text takes away what trimming it of fewer characters does. -/
theorem trimChars_trimChars_of_imp (h : ∀ c, fewer c = true → blank c = true) (cs : List Char) :
    trimChars fewer (trimChars blank cs) = trimChars blank cs := by
  have hleft : (trimChars blank cs).dropWhile fewer = trimChars blank cs := by
    cases htrim : trimChars blank cs with
    | nil => rfl
    | cons c ds =>
        have hhead := List.head?_dropWhile_not blank cs
        rw [← head?_trimChars, htrim] at hhead
        refine List.dropWhile_cons_of_neg fun hc => ?_
        simp [h c hc] at hhead
  have hright : ((trimChars blank cs).reverse.dropWhile fewer).reverse = trimChars blank cs :=
    List.rdropWhile_eq_self_iff.2 fun hne hlast =>
      List.rdropWhile_last_not blank _ hne (h _ hlast)
  rw [trimChars, hleft, hright]

theorem trimChars_trimChars (blank : Char → Bool) (cs : List Char) :
    trimChars blank (trimChars blank cs) = trimChars blank cs :=
  trimChars_trimChars_of_imp (fun _ hc => hc) cs

theorem toList_trim (s : String) : (trim s).toList = trimChars isBlank s.toList :=
  String.toList_ofList

theorem trim_trim (s : String) : trim (trim s) = trim s := by
  rw [trim, toList_trim, trimChars_trimChars]
  rfl

/-- A trimmed text has no white space at its ends. -/
theorem trimChars_isSpace_trim (s : String) :
    trimChars isSpace (trim s).toList = (trim s).toList := by
  have hspace : ∀ c, isSpace c = true → isBlank c = true := by
    intro c hc
    simp [isBlank, hc]
  rw [toList_trim, trimChars_trimChars_of_imp hspace]

end BehaviorTree.Text
