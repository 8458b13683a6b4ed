import BehaviorTree.Validation.Report
import BehaviorTree.Proofs.Reference
import BehaviorTree.Proofs.Success
import BehaviorTree.Proofs.Text.Digits
import BehaviorTree.Proofs.Text.Trimming

/-! # When a validation succeeds

Looking for warnings, a validation reads repeat and retry counts as integers, and this is all that
may fail: a graph is validated exactly if none of its counts has more digits than an integer is read
of (`Graph.exists_validate_iff`). -/

namespace BehaviorTree

open BehaviorTree.Text

namespace Validation

/-! ### Counts -/

/-- The digits of a text that is read as a count.  A minus may stand before those of a repeat
count. -/
def countDigits? : Detail → List Char → Option (List ℕ)
  | .repeaterCount, '-' :: body => digitsOnly? body
  | .repeaterCount, cs => digitsOnly? cs
  | .retryCount, cs => digitsOnly? cs
  | _, _ => none

/-- The number of digits of each count of a node is one that an integer is read of. -/
def Countable (node : Node) : Prop :=
  ∀ detail, ∀ digits ∈ countDigits? detail (trim (node.detailText detail)).toList,
    digits.length ≤ numeralLimit

theorem exists_digitsInteger_iff {digits : List ℕ} :
    (∃ n, digitsInteger digits = .ok n) ↔ digits.length ≤ numeralLimit := by
  unfold digitsInteger natOfDigits
  by_cases hempty : digits.isEmpty = true
  · have hnil := List.isEmpty_iff.1 hempty
    simp [hnil]
  · by_cases hlong : numeralLimit < digits.length
    · simp [hempty, hlong]
    · simp [hempty, hlong, Nat.le_of_not_lt hlong]

/-- A check of the integer of some digits succeeds if the digits are read. -/
theorem exists_check_iff (digits? : Option (List ℕ)) (check : ℕ → Bool) :
    (∃ b, (match digits? with
      | some digits => digitsInteger digits >>= fun n => pure (check n)
      | none => .ok false : Except Fault Bool) = .ok b) ↔
      ∀ digits ∈ digits?, digits.length ≤ numeralLimit := by
  cases digits? with
  | none => simp
  | some digits =>
      rw [exists_bind_pure_iff, exists_digitsInteger_iff]
      simp

theorem exists_isRepeatCount_iff {cs : List Char} : (∃ b, isRepeatCount cs = .ok b) ↔
    ∀ digits ∈ countDigits? .repeaterCount cs, digits.length ≤ numeralLimit := by
  unfold isRepeatCount
  split
  · rename_i body
    exact exists_check_iff (digitsOnly? body) fun n => n ≤ 1
  · rename_i hminus
    rw [countDigits?]
    · exact exists_check_iff (digitsOnly? cs) fun _ => true
    · exact hminus

theorem exists_isRetryCount_iff {cs : List Char} : (∃ b, isRetryCount cs = .ok b) ↔
    ∀ digits ∈ countDigits? .retryCount cs, digits.length ≤ numeralLimit := by
  unfold isRetryCount
  rw [countDigits?]
  exact exists_check_iff (digitsOnly? cs) fun n => 1 ≤ n

/-- The text of a detail is compared with its range, unless it is a count with too many digits. -/
theorem exists_isInRange_iff {detail : Detail} {cs : List Char} :
    (∃ b, isInRange detail cs = .ok b) ↔
      ∀ digits ∈ countDigits? detail cs, digits.length ≤ numeralLimit := by
  cases detail with
  | repeaterCount => exact exists_isRepeatCount_iff
  | retryCount => exact exists_isRetryCount_iff
  | _ => simp [isInRange, countDigits?]

/-- A repeat count of too many nines is not read. -/
theorem not_countable_of_nines {node : Node} {length : ℕ} (hlong : numeralLimit < length)
    (hcount : node.repeaterCount = some (String.ofList (List.replicate length '9'))) :
    ¬ Countable node := by
  obtain ⟨n, rfl⟩ : ∃ n, length = n + 1 := ⟨length - 1, by omega⟩
  have htrim : (trim (node.detailText .repeaterCount)).toList = List.replicate (n + 1) '9' := by
    rw [Node.detailText, Node.detail, hcount, Option.getD_some, toList_trim, String.toList_ofList]
    refine trimChars_of_forall fun c hc => ?_
    rw [List.eq_of_mem_replicate hc]
    decide
  have hdigits : ∀ n, allDigits? digit? (List.replicate n '9') = some (List.replicate n 9) := by
    intro n
    induction n with
    | zero => rfl
    | succ n ih =>
        rw [allDigits?] at ih ⊢
        rw [List.replicate_succ, List.mapM_cons, ih, show digit? '9' = some 9 by decide]
        rfl
  intro h
  have hread := h .repeaterCount (List.replicate (n + 1) 9) (htrim ▸ hdigits (n + 1))
  rw [List.length_replicate] at hread
  omega

/-! ### Warnings -/

/-- What is empty or a reference is no count. -/
theorem countDigits?_of_skipped {detail : Detail} {text : String}
    (h : text.isEmpty || isReference text) : countDigits? detail text.toList = none := by
  rw [Bool.or_eq_true] at h
  rcases h with hempty | hreference
  · rw [String.isEmpty_iff.1 hempty]
    cases detail <;> rfl
  · obtain ⟨key, hkey⟩ := exists_of_isReference hreference
    have hat : digitsOnly? ('@' :: key) = none := by
      simp [digitsOnly?, allDigits?, List.mapM_cons, show digit? '@' = none by decide]
    rw [hkey]
    cases detail with
    | repeaterCount =>
        rw [countDigits?, hat]
        exact fun body h => absurd (List.cons.inj h).1 (by decide)
    | retryCount => rw [countDigits?, hat]
    | _ => rfl

theorem exists_numberCauses_iff {node : Node} {detail : Detail} :
    (∃ causes, numberCauses node detail = .ok causes) ↔
      ∀ digits ∈ countDigits? detail (trim (node.detailText detail)).toList,
        digits.length ≤ numeralLimit := by
  unfold numberCauses
  dsimp only
  split_ifs with hskipped
  · rw [countDigits?_of_skipped hskipped]
    exact iff_of_true ⟨[], rfl⟩ nofun
  · rw [← exists_isInRange_iff]
    simp only [bind_eq_ok_iff]
    constructor
    · rintro ⟨_, b, hb, -⟩
      exact ⟨b, hb⟩
    · rintro ⟨b, hb⟩
      cases b with
      | true => exact ⟨_, true, hb, rfl⟩
      | false => exact ⟨_, false, hb, rfl⟩

theorem exists_warningCauses_iff (r : Resolver) (names : List String) {node : Node} :
    (∃ causes, warningCauses r names node = .ok causes) ↔ Countable node := by
  have hall : (∀ detail ∈ numericDetails, ∃ causes, numberCauses node detail = .ok causes) ↔
      Countable node := by
    simp only [exists_numberCauses_iff]
    refine ⟨fun h detail => ?_, fun h detail _ => h detail⟩
    cases detail with
    | subtree => exact nofun
    | _ => exact h _ (by decide)
  rw [← hall, ← exists_mapM_iff, warningCauses]
  exact exists_bind_pure_iff

/-- **When the warnings of a graph are found**: exactly if none of its counts has too many
digits. -/
theorem exists_warnings_iff {g : Graph} :
    (∃ found, warnings g = .ok found) ↔ ∀ node ∈ g.nodes, Countable node := by
  rw [warnings]
  refine exists_bind_pure_iff.trans (exists_mapM_iff.trans ?_)
  refine forall_congr' fun node => imp_congr_right fun _ => ?_
  exact exists_bind_pure_iff.trans (exists_warningCauses_iff _ _)

end Validation

open Validation

/-- A graph is validated exactly if its warnings are found. -/
theorem Graph.exists_validate_iff {g : Graph} :
    (∃ report, g.validate true = .ok report) ↔ ∀ node ∈ g.nodes, Countable node := by
  rw [← exists_warnings_iff, validate, if_pos rfl]
  exact exists_bind_pure_iff

end BehaviorTree
