import BehaviorTree.Reference
import BehaviorTree.Proofs.Text.Lines

/-! # Attribute values

A reference is an at sign with a key behind it, and a text of this form with a line feed behind it
is taken for one too (`isReference_iff`).  Its key then ends with the line feed; all other texts are
read as their form tells (`readByForm_iff`).

What is no reference is a literal, and what starts with an escaped at sign is one without its
backslash (`Resolver.resolve_of_not_isReference`).  A key is defined by the first blackboard field
that has it (`Resolver.default?_ofFields_eq_some_iff`). -/

namespace BehaviorTree

open BehaviorTree.Text

/-! ### References -/

/-- A text refers to a key: it is an at sign and the key, which is at least one character, none of
them an at sign or a blank. -/
structure RefersTo (text key : String) : Prop where
  text_eq : text = "@" ++ key
  ne_empty : key ≠ ""
  plain : ∀ c ∈ key.toList, c ≠ '@' ∧ isBlank c = false

theorem toList_at (key : String) : ("@" ++ key).toList = '@' :: key.toList := by
  rw [String.toList_append]
  rfl

theorem dropFirst_at (key : String) : dropFirst ("@" ++ key) = key := by
  rw [dropFirst, toList_at, List.drop_one, List.tail_cons, String.ofList_toList]

theorem isReferenceForm_iff {text : String} :
    isReferenceForm text.toList = true ↔ ∃ key, RefersTo text key := by
  constructor
  · intro h
    unfold isReferenceForm at h
    split at h
    · rename_i key htext
      rw [Bool.and_eq_true, Bool.not_eq_true', List.isEmpty_eq_false_iff, List.all_eq_true] at h
      obtain ⟨hne, hplain⟩ := h
      refine ⟨String.ofList key, String.toList_inj.1 ?_, ?_, ?_⟩
      · rw [htext, toList_at, String.toList_ofList]
      · rwa [ne_eq, String.ofList_eq_empty_iff]
      · rw [String.toList_ofList]
        exact fun c hc => by simpa using hplain c hc
    · cases h
  · rintro ⟨key, rfl, hne, hplain⟩
    have hne' : key.toList ≠ [] := fun h => hne (String.toList_eq_nil_iff.1 h)
    rw [toList_at]
    simpa [isReferenceForm, hne'] using hplain

/-- **What is taken for a reference**: what refers to a key, and the same with a line feed. -/
theorem isReference_iff {text : String} : isReference text = true ↔
    (∃ key, RefersTo text key) ∨ ∃ line key, RefersTo line key ∧ text = line ++ "\n" := by
  rw [isReference, matchesLine_iff, isReferenceForm_iff]
  refine or_congr_right ⟨?_, ?_⟩
  · rintro ⟨line, hline, htext⟩
    rw [← String.toList_ofList (l := line)] at hline
    obtain ⟨key, hkey⟩ := isReferenceForm_iff.1 hline
    refine ⟨String.ofList line, key, hkey, String.toList_inj.1 ?_⟩
    rw [htext, String.toList_append, String.toList_ofList]
    rfl
  · rintro ⟨line, key, hline, rfl⟩
    exact ⟨line.toList, isReferenceForm_iff.2 ⟨key, hline⟩, String.toList_append⟩

/-- What refers to a key has no line feed behind it. -/
theorem RefersTo.ne_concat {text key : String} (h : RefersTo text key) (line : String) :
    text ≠ line ++ "\n" := by
  intro htext
  have hchars : '@' :: key.toList = line.toList ++ ['\n'] := by
    rw [← toList_at, ← h.text_eq, htext, String.toList_append]
    rfl
  have hne : key.toList ≠ [] := fun hnil => h.ne_empty (String.toList_eq_nil_iff.1 hnil)
  have hlast : key.toList.getLast hne = '\n' := by
    rw [← List.getLast_cons (a := '@') hne]
    simp only [hchars, List.getLast_append_singleton]
  have hblank := (h.plain _ (List.getLast_mem hne)).2
  rw [hlast] at hblank
  exact absurd hblank (by decide)

/-- What is taken for a reference starts with an at sign. -/
theorem exists_of_isReference {text : String} (h : isReference text = true) :
    ∃ key, text.toList = '@' :: key := by
  rcases isReference_iff.1 h with ⟨key, rfl, -⟩ | ⟨_, key, ⟨rfl, -⟩, rfl⟩
  · exact ⟨key.toList, toList_at key⟩
  · exact ⟨(key ++ "\n").toList, by rw [String.append_assoc, toList_at]⟩

/-! ### Reading by form -/

theorem parseValue_eq_reference_iff {text key : String} {paths : Bool} :
    parseValue text paths = .reference key ↔ isReference text = true ∧ dropFirst text = key := by
  unfold parseValue
  by_cases h : isReference text = true
  · rw [if_pos h, AttributeValue.reference.injEq, and_iff_right h]
  · refine iff_of_false (fun he => ?_) fun hand => h hand.1
    rw [if_neg h] at he
    split at he
    · cases he
    · split_ifs at he
    · cases he

/-- A text is read as its form tells: it is taken for a reference exactly if it refers to a key; if
not, it stands for a literal or a path; and if it is read as the reference to a key, it is an at
sign and this key, and there is no blank in the key. -/
structure ReadByForm (text : String) : Prop where
  accepted : isReference text = true ↔ ∃ key, RefersTo text key
  other : (¬ ∃ key, RefersTo text key) → ∀ paths,
    (∃ content, parseValue text paths = .literal content) ∨
      ∃ path, parseValue text paths = .rawPath path
  key : ∀ paths key, parseValue text paths = .reference key →
    text = "@" ++ key ∧ ∀ c ∈ key.toList, isBlank c = false

/-- **All texts are read by their form** but for those that refer to a key and have a line feed
behind it. -/
theorem readByForm_iff (text : String) :
    ReadByForm text ↔ ¬ ∃ line key, RefersTo line key ∧ text = line ++ "\n" := by
  constructor
  · rintro h ⟨line, key, hkey, htext⟩
    obtain ⟨key', hkey'⟩ := h.accepted.1 (isReference_iff.2 (Or.inr ⟨line, key, hkey, htext⟩))
    exact hkey'.ne_concat line htext
  · intro hfeed
    have href : isReference text = true ↔ ∃ key, RefersTo text key :=
      isReference_iff.trans (or_iff_left hfeed)
    refine ⟨href, fun hnone paths => ?_, fun paths key hkey => ?_⟩
    · cases hvalue : parseValue text paths with
      | literal content => exact Or.inl ⟨content, rfl⟩
      | rawPath path => exact Or.inr ⟨path, rfl⟩
      | reference key => exact absurd (href.1 (parseValue_eq_reference_iff.1 hvalue).1) hnone
    · obtain ⟨hreference, rfl⟩ := parseValue_eq_reference_iff.1 hkey
      obtain ⟨key, rfl, -, hplain⟩ := href.1 hreference
      rw [dropFirst_at]
      exact ⟨rfl, fun c hc => (hplain c hc).2⟩

/-- **A line feed gets into a key.** -/
theorem not_readByForm_feed : ¬ ReadByForm "@hp\n" := by
  intro h
  have hkey := (h.key false "hp\n" (by decide)).2 '\n' (by decide)
  exact absurd hkey (by decide)

/-! ### Texts -/

/-- Whether a text starts with an at sign that a backslash makes a part of it. -/
def isEscaped (text : String) : Bool :=
  match text.toList with
  | '\\' :: '@' :: _ => true
  | _ => false

/-- What is no reference stands for itself, without the backslash if it is escaped. -/
theorem parseValue_of_not_isReference {text : String} (h : isReference text = false) :
    parseValue text false = .literal (if isEscaped text then dropFirst text else text) := by
  unfold parseValue isEscaped
  rw [if_neg (by simp [h])]
  generalize text.toList = cs
  split
  · rfl
  · rfl
  · rename_i hescaped _
    split
    · exact absurd rfl (hescaped _)
    · rfl

namespace Resolver

theorem resolve_of_isReference {text : String} (h : isReference text = true) (r : Resolver) :
    r.resolve text = .reference (dropFirst text) (r.default? (dropFirst text)) := by
  rw [resolve, parseValue_of_isReference h]

theorem resolve_of_not_isReference {text : String} (h : isReference text = false) (r : Resolver) :
    r.resolve text = .literal (if isEscaped text then dropFirst text else text) := by
  rw [resolve, parseValue_of_not_isReference h]

theorem resolve_empty (r : Resolver) : r.resolve "" = .literal "" := by
  have href : isReference "" = false := by decide
  rw [resolve_of_not_isReference href]
  exact congrArg Resolved.literal (by decide)

/-! ### Defined keys -/

theorem default?_concat (r : Resolver) (pair : String × String) (key : String) :
    Resolver.default? ⟨r.defaults ++ [pair]⟩ key =
      (r.default? key).or (if pair.1 = key then some pair.2 else none) := by
  simp only [default?, Keyed.value?, Keyed.find?, List.find?_append]
  cases r.defaults.find? fun item => item.1 = key with
  | some found => rfl
  | none => by_cases h : pair.1 = key <;> simp [h]

/-- A field defines its key unless the key is empty or there already. -/
theorem default?_add (r : Resolver) (field : Field) (key : String) :
    (r.add field).default? key = (r.default? key).or
      (if key ≠ "" ∧ trim field.key = key then some field.value else none) := by
  by_cases hkey : trim field.key = key
  · subst hkey
    by_cases hempty : trim field.key = ""
    · simp [add, hempty]
    · cases hknown : r.default? (trim field.key) with
      | some value => simp [add, isKnown, hempty, hknown]
      | none =>
          have hadd : r.add field = ⟨r.defaults ++ [(trim field.key, field.value)]⟩ := by
            simp [add, isKnown, hempty, hknown]
          simp [hadd, default?_concat, hknown, hempty]
  · rw [if_neg fun h => hkey h.2, Option.or_none]
    simp only [add]
    split_ifs
    · rfl
    · rw [default?_concat, if_neg hkey, Option.or_none]

theorem default?_foldl_add (fields : List Field) (r : Resolver) (key : String) :
    (fields.foldl add r).default? key = (r.default? key).or
      (if key = "" then none
        else (fields.find? fun field => trim field.key = key).map (·.value)) := by
  induction fields generalizing r with
  | nil => by_cases hkey : key = "" <;> simp [hkey]
  | cons field rest ih =>
      rw [List.foldl_cons, ih, default?_add, Option.or_assoc]
      by_cases hkey : key = ""
      · simp [hkey]
      · by_cases hfield : trim field.key = key <;> simp [hkey, hfield]

/-- **A key is defined** by the first field that has it after trimming. -/
theorem default?_ofFields_eq_some_iff {fields : List Field} {key value : String} :
    (ofFields fields).default? key = some value ↔ key ≠ "" ∧ ∃ field,
      fields.find? (fun field => trim field.key = key) = some field ∧ field.value = value := by
  have hempty : Resolver.default? {} key = none := rfl
  rw [ofFields, default?_foldl_add, hempty, Option.none_or]
  by_cases hkey : key = "" <;> simp [hkey]

end Resolver

end BehaviorTree
