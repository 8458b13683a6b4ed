import BehaviorTree.Proofs.Graph.Run
import BehaviorTree.Proofs.Text.Trimming
import BehaviorTree.Proofs.Validation
import BehaviorTree.Proofs.Validation.Numbers

/-! # Conversions of a validation

A validation compares the text of a numeric detail with a pattern before it converts it into a
number, so that no conversion should fail.  What has the pattern of a duration is always converted.
What has the pattern of a count is read as an integer, and no integer is read of too many digits
(`Conversion.Reached.succeeds_iff`).  So a graph is validated exactly if all conversions succeed,
and a validation fails for no other reason (`Graph.validate_iff`). -/

namespace BehaviorTree

open BehaviorTree.Text BehaviorTree.Decimal

namespace Validation

/-! ### Texts that are converted -/

/-- The text of a numeric detail, to be converted into a number. -/
structure Conversion where
  detail : Detail
  text : String

namespace Conversion

/-- The text has the pattern that its detail asks for. -/
def HasForm (c : Conversion) : Prop :=
  match c.detail with
  | .repeaterCount | .retryCount => (countDigits? c.detail c.text.toList).isSome = true
  | .timeoutDuration | .cooldownDuration | .waitDuration =>
    (plainNumber? c.text.toList).isSome = true
  | .subtree => False

/-- The text is accepted by the conversion: counts are read as integers, durations as doubles. -/
def Succeeds (c : Conversion) : Prop :=
  match c.detail with
  | .repeaterCount | .retryCount => ∃ n, toInt c.text = .ok n
  | _ => ∃ x, toFloat? c.text = some x

/-- A validation of a node comes to the conversion: the trimmed text of the detail is neither empty
nor a reference, and has the pattern. -/
structure Reached (node : Node) (c : Conversion) : Prop where
  numeric : c.detail ∈ numericDetails
  text : c.text = trim (node.detailText c.detail)
  looked : (c.text.isEmpty || isReference c.text) = false
  form : c.HasForm

end Conversion

/-! ### Integers -/

theorem exists_natOfDigits_iff {digits : List ℕ} (hne : digits ≠ []) :
    (∃ n, natOfDigits digits = .ok n) ↔ digits.length ≤ numeralLimit := by
  rw [natOfDigits_eq hne]
  split_ifs with hlong
  · simp [hlong]
  · simp [Nat.le_of_not_lt hlong]

/-- An integer is read of digits behind a sign, unless there are too many. -/
theorem exists_toInt_iff {text : String} (htrim : trimChars isSpace text.toList = text.toList)
    {negative : Bool} {body : List Char} (hsign : takeSign text.toList = (negative, body))
    {digits : List ℕ} (h : digitsOnly? body = some digits) :
    (∃ n, toInt text = .ok n) ↔ digits.length ≤ numeralLimit := by
  have hplain := plainNumeral_of_digitsOnly? h
  obtain ⟨hbody, hdigits⟩ := digitsOnly?_eq_some_iff.1 h
  have hne : digits ≠ [] := by
    rintro rfl
    cases body with
    | nil => exact hbody rfl
    | cons c rest =>
        obtain ⟨d, more, -, -, hcons⟩ := allDigits?_cons_eq_some_iff.1 hdigits
        cases hcons
  have hgroup : ungroup? false body = some body :=
    ungroup?_of_all_digits false body (SignedNumeral.plain hplain).ne_underscore
  rw [← exists_natOfDigits_iff hne]
  simp only [toInt, htrim, hsign, hgroup, hdigits]
  exact exists_bind_pure_iff

/-! ### Conversions -/

namespace Conversion

variable {c : Conversion}

theorem succeeds_of_plainNumber? (htrim : trimChars isSpace c.text.toList = c.text.toList)
    (h : (plainNumber? c.text.toList).isSome = true) : ∃ x, toFloat? c.text = some x := by
  obtain ⟨x, hx⟩ := Option.isSome_iff_exists.1 h
  obtain ⟨w, hw, rfl⟩ := plainNumeral_of_plainNumber? hx
  exact ⟨w.toFloat, (SignedNumeral.plain hw).toFloat?_eq htrim⟩

theorem exists_toInt_iff_of_count {detail : Detail} {text : String}
    (htrim : trimChars isSpace text.toList = text.toList) {digits : List ℕ}
    (h : countDigits? detail text.toList = some digits) :
    (∃ n, toInt text = .ok n) ↔ digits.length ≤ numeralLimit := by
  unfold countDigits? at h
  split at h
  · rename_i body hbody
    exact exists_toInt_iff htrim (by rw [hbody]; rfl) h
  · exact exists_toInt_iff htrim (takeSign_plain (plainNumeral_of_digitsOnly? h)) h
  · exact exists_toInt_iff htrim (takeSign_plain (plainNumeral_of_digitsOnly? h)) h
  · cases h

/-- **When a conversion succeeds**: always for a duration, and for a count unless it has too many
digits. -/
theorem Reached.succeeds_iff {node : Node} (h : c.Reached node) : c.Succeeds ↔
    ∀ digits ∈ countDigits? c.detail c.text.toList, digits.length ≤ numeralLimit := by
  have hform := h.form
  have htrim : trimChars isSpace c.text.toList = c.text.toList := by
    rw [h.text]
    exact trimChars_isSpace_trim (node.detailText c.detail)
  clear h
  obtain ⟨detail, text⟩ := c
  cases detail with
  | repeaterCount | retryCount =>
      obtain ⟨digits, hdigits⟩ := Option.isSome_iff_exists.1 hform
      refine (exists_toInt_iff_of_count htrim hdigits).trans ?_
      simp [hdigits]
  | timeoutDuration | cooldownDuration | waitDuration =>
      exact iff_of_true (succeeds_of_plainNumber? htrim hform) (by simp [countDigits?])
  | subtree => exact hform.elim

/-- What has digits for a count is converted. -/
theorem reached_of_countDigits? {node : Node} {detail : Detail} {digits : List ℕ}
    (h : countDigits? detail (trim (node.detailText detail)).toList = some digits) :
    Reached node ⟨detail, trim (node.detailText detail)⟩ where
  numeric := by
    cases detail with
    | subtree => cases h
    | _ => simp [numericDetails]
  text := rfl
  looked := by
    by_contra hskipped
    rw [Bool.not_eq_false] at hskipped
    rw [countDigits?_of_skipped hskipped] at h
    cases h
  form := by
    cases detail with
    | repeaterCount | retryCount => exact Option.isSome_iff_exists.2 ⟨digits, h⟩
    | _ => cases h

end Conversion

/-- The conversions of a node succeed exactly if none of its counts has too many digits. -/
theorem forall_succeeds_iff {node : Node} :
    (∀ c : Conversion, c.Reached node → c.Succeeds) ↔ Countable node := by
  constructor
  · intro h detail digits hdigits
    have hreached := Conversion.reached_of_countDigits? hdigits
    exact hreached.succeeds_iff.1 (h _ hreached) digits hdigits
  · intro h c hc
    rw [hc.succeeds_iff, hc.text]
    exact h c.detail

/-! ### Faults -/

theorem numeralTooLong_of_digitsInteger {digits : List ℕ} {fault : Fault}
    (h : digitsInteger digits = .error fault) :
    numeralLimit < digits.length ∧ fault = .numeralTooLong digits.length := by
  unfold digitsInteger natOfDigits at h
  split_ifs at h with hempty hlong
  · obtain rfl := Except.error.inj h
    exact ⟨hlong, rfl⟩

/-- The check of the integer of some digits fails for their number only. -/
theorem numeralTooLong_of_check (digits? : Option (List ℕ)) (check : ℕ → Bool) {fault : Fault}
    (h : (match digits? with
      | some digits => digitsInteger digits >>= fun n => pure (check n)
      | none => .ok false : Except Fault Bool) = .error fault) :
    ∃ digits ∈ digits?, numeralLimit < digits.length ∧ fault = .numeralTooLong digits.length := by
  cases digits? with
  | none => cases h
  | some digits =>
      rcases bind_eq_error_iff.1 h with h | ⟨n, -, h⟩
      · exact ⟨digits, rfl, numeralTooLong_of_digitsInteger h⟩
      · cases h

theorem numeralTooLong_of_isInRange {detail : Detail} {cs : List Char} {fault : Fault}
    (h : isInRange detail cs = .error fault) : ∃ digits ∈ countDigits? detail cs,
      numeralLimit < digits.length ∧ fault = .numeralTooLong digits.length := by
  cases detail with
  | repeaterCount =>
      change isRepeatCount cs = .error fault at h
      unfold isRepeatCount at h
      split at h
      · rename_i body
        exact numeralTooLong_of_check (digitsOnly? body) (fun n => n ≤ 1) h
      · rename_i hminus
        rw [countDigits?]
        · exact numeralTooLong_of_check (digitsOnly? cs) (fun _ => true) h
        · exact hminus
  | retryCount =>
      change isRetryCount cs = .error fault at h
      unfold isRetryCount at h
      rw [countDigits?]
      exact numeralTooLong_of_check (digitsOnly? cs) (fun n => 1 ≤ n) h
  | _ => cases h

/-- The warnings of a node are not found for the number of digits of a count only. -/
theorem numeralTooLong_of_warningCauses {r : Resolver} {names : List String} {node : Node}
    {fault : Fault} (h : warningCauses r names node = .error fault) :
    ∃ detail, ∃ digits ∈ countDigits? detail (trim (node.detailText detail)).toList,
      numeralLimit < digits.length ∧ fault = .numeralTooLong digits.length := by
  rcases bind_eq_error_iff.1 h with h | ⟨numbers, -, h⟩
  · obtain ⟨detail, -, h⟩ := exists_of_mapM_eq_error h
    refine ⟨detail, ?_⟩
    unfold numberCauses at h
    dsimp only at h
    split_ifs at h
    · cases h
    · rcases bind_eq_error_iff.1 h with h | ⟨inRange, -, h⟩
      · exact numeralTooLong_of_isInRange h
      · cases inRange <;> cases h
  · cases h

end Validation

open Validation

/-- A validation fails for the number of digits of a count only. -/
theorem Graph.numeralTooLong_of_validate {g : Graph} {warnings : Bool} {fault : Fault}
    (h : g.validate warnings = .error fault) : warnings = true ∧
      ∃ node ∈ g.nodes, ∃ detail,
        ∃ digits ∈ countDigits? detail (trim (node.detailText detail)).toList,
          numeralLimit < digits.length ∧ fault = .numeralTooLong digits.length := by
  cases warnings with
  | false => cases h
  | true =>
      refine ⟨rfl, ?_⟩
      rcases bind_eq_error_iff.1 h with h | ⟨found, -, h⟩
      · change Validation.warnings g = .error fault at h
        rcases bind_eq_error_iff.1 h with h | ⟨issues, -, h⟩
        · obtain ⟨node, hnode, h⟩ := exists_of_mapM_eq_error h
          rcases bind_eq_error_iff.1 h with h | ⟨causes, -, h⟩
          · exact ⟨node, hnode, numeralTooLong_of_warningCauses h⟩
          · cases h
        · cases h
      · cases h

/-- **When a validation returns a report**: without warnings always, and with warnings exactly if no
repeat or retry count has more digits than an integer is read of.  The same decides whether all texts
are accepted by the conversions that the validation comes to, and there is no other fault. -/
theorem Graph.validate_iff (g : Graph) :
    (∃ report, g.validate false = .ok report) ∧
    ((∃ report, g.validate true = .ok report) ↔ ∀ node ∈ g.nodes, Countable node) ∧
    ((∀ node ∈ g.nodes, ∀ c : Conversion, c.Reached node → c.Succeeds) ↔
      ∀ node ∈ g.nodes, Countable node) ∧
    ∀ fault, g.validate true = .error fault → ∃ node ∈ g.nodes, ∃ detail,
      ∃ digits ∈ countDigits? detail (trim (node.detailText detail)).toList,
        numeralLimit < digits.length ∧ fault = .numeralTooLong digits.length := by
  refine ⟨⟨_, rfl⟩, g.exists_validate_iff, ?_, fun fault h => (numeralTooLong_of_validate h).2⟩
  refine forall_congr' fun node => imp_congr_right fun _ => ?_
  exact forall_succeeds_iff

/-- A decorator is created, and its repeat count is set to so many nines. -/
def longCount (digits : ℕ) : List Call :=
  [.create .decorator, .operate (.updateNode 1
    [("repeater_count", String.ofList (List.replicate digits '9'))])]

theorem nodes_after_longCount (digits : ℕ) : ∃ node ∈ (Run.after (longCount digits)).graph.nodes,
    node.repeaterCount = some (String.ofList (List.replicate digits '9')) := by
  have hcreated : (Run.after [.create .decorator]).graph =
      Graph.empty.append (Graph.freshNode 1 .decorator "" (clampPosition 0 0)) :=
    Call.result_create {} .decorator
  have hlabel : Attribute.ofLabel? "repeater_count" = some (.detail .repeaterCount) := by
    decide
  rw [longCount, ← List.singleton_append, Run.after_append]
  generalize String.ofList (List.replicate digits '9') = text
  simp only [Run.step, Call.result, Operation.graph_apply, Operation.carryOut, hcreated,
    Graph.updateNode, Graph.parseAttribute, List.mapM_cons, List.mapM_nil, hlabel]
  exact ⟨_, .head _, rfl⟩

/-- **A repeat count of too many nines** is set without a fault, and no report is returned. -/
theorem not_validated_longCount :
    ¬ ∃ report, (Run.after (longCount (numeralLimit + 1))).graph.validate true = .ok report := by
  rw [Graph.exists_validate_iff]
  obtain ⟨node, hnode, hcount⟩ := nodes_after_longCount (numeralLimit + 1)
  intro h
  exact not_countable_of_nines (Nat.lt_succ_self numeralLimit) hcount (h node hnode)

end BehaviorTree
