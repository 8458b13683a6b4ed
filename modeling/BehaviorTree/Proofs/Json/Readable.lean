import BehaviorTree.Proofs.Json.RoundTrip

/-! # What is read can be written

A value that was read of a text holds no integer that is too long to be written, and no object with
a key twice (`readable_of_parse`), so its own text is read again.  Each step of the machine keeps
this of all that it has built so far (`readable_step`). -/

namespace BehaviorTree.Json

open BehaviorTree.Text BehaviorTree.Decimal

variable {half : Char}

/-! ### Tokens -/

/-- A token with a value that can be read again. -/
def Token.Readable : Token → Prop
  | .scalar value => value.Readable
  | _ => True

theorem readable_scanText (length : ℕ) (reversed cs : List Char) :
    (scanText half length reversed cs).1.Readable := by
  fun_induction scanText half length reversed cs <;> simp_all [Token.Readable, endText]

theorem readable_integerToken (negative : Bool) {digits : List ℕ} (h : ∀ d ∈ digits, d < 10) :
    (integerToken negative digits).Readable := by
  unfold integerToken
  split
  · rename_i n hn
    unfold natOfDigits at hn
    split_ifs at hn with hempty hlong
    obtain rfl := Except.ok.inj hn
    have hwritable := isWritable_ofDigits h (not_lt.1 hlong)
    cases negative with
    | true => exact (isWritable_neg _).trans hwritable
    | false => exact hwritable
  · trivial

theorem wholeDigits_lt (cs : List Char) : ∀ d ∈ (wholeDigits cs).1, d < 10 := by
  unfold wholeDigits
  split
  · simp
  · exact spanDigits_lt _

theorem readable_scanUnsigned? {negative : Bool} {cs : List Char} {token : Token} {length : ℕ}
    (h : scanUnsigned? negative cs = some (token, length)) : token.Readable := by
  have hdigits := wholeDigits_lt cs
  unfold scanUnsigned? at h
  split at h
  · cases h
  · rename_i whole afterWhole _ hwhole
    rw [hwhole] at hdigits
    dsimp only at h
    split at h
    · split_ifs at h
      · obtain ⟨rfl, -⟩ := Prod.mk.inj (Option.some.inj h)
        exact readable_integerToken negative hdigits
      all_goals
        obtain ⟨rfl, -⟩ := Prod.mk.inj (Option.some.inj h)
        trivial
    · obtain ⟨rfl, -⟩ := Prod.mk.inj (Option.some.inj h)
      trivial

theorem readable_scanWord? {cs : List Char} {found : Token × ℕ} (h : scanWord? cs = some found) :
    found.1.Readable := by
  obtain ⟨word, hword, htoken⟩ := exists_of_scanWord? h
  rw [htoken]
  simp only [words, List.mem_cons, List.not_mem_nil, or_false] at hword
  rcases hword with rfl | rfl | rfl | rfl | rfl | rfl <;> trivial

theorem readable_scan (cs : List Char) : (scan half cs).1.Readable := by
  rcases scan_cases cs with ⟨rest, h⟩ | h | h | h
  · rw [h]
    exact readable_scanText _ _ _
  · obtain ⟨negative, body, length, -, h⟩ := exists_of_scanNumber? h
    exact readable_scanUnsigned? h
  · exact readable_scanWord? h
  · simp only [List.mem_cons, List.not_mem_nil, or_false] at h
    rcases h with h | h | h | h | h | h | h <;> rw [h] <;> trivial

theorem readable_lex (skip offset : ℕ) (cs : List Char) :
    ∀ l ∈ lex half skip offset cs, l.token.Readable := by
  intro l hl
  obtain ⟨k, -, htoken⟩ := exists_of_mem_lex hl
  rw [htoken]
  exact readable_scan (cs.drop k)

/-! ### The machine -/

/-- Fields of an object that can be read. -/
def FieldsReadable (fields : List (String × Json)) : Prop :=
  (fields.map Prod.fst).Nodup ∧ ∀ field ∈ fields, Readable field.2

theorem readable_object {fields : List (String × Json)} (h : FieldsReadable fields) :
    Readable (.object fields) := by
  rw [Readable, readableFields_iff]
  exact h

theorem readable_array {items : List Json} (h : ∀ item ∈ items, Readable item) :
    Readable (.array items) := by
  rw [Readable, readableItems_iff]
  exact h

theorem readable_of_lookup? {fields : List (String × Json)} (h : Readable (.object fields))
    {key : String} {v : Json} (hkey : lookup? key fields = some v) : v.Readable := by
  rw [Readable, readableFields_iff] at h
  obtain ⟨field, hfind, rfl⟩ := Option.map_eq_some_iff.1 hkey
  exact h.2 field (List.mem_of_find?_eq_some hfind)

theorem readableFields_nil : FieldsReadable [] := ⟨List.nodup_nil, nofun⟩

theorem FieldsReadable.setField {fields : List (String × Json)} (h : FieldsReadable fields)
    (key : String) {value : Json} (hvalue : Readable value) :
    FieldsReadable (setField key value fields) := by
  refine ⟨Keyed.nodup_map_put h.1 _, fun field hfield => ?_⟩
  rcases Keyed.mem_put hfield with rfl | hfield
  · exact hvalue
  · exact h.2 field hfield

/-- What is open holds only what can be read. -/
def Frame.Readable : Frame → Prop
  | .array reversed => ∀ item ∈ reversed, item.Readable
  | .object fields _ => FieldsReadable fields

/-- All that a state has built can be read. -/
def State.Readable : State → Prop
  | .awaitValue stack | .arrayStart stack | .objectStart stack => ∀ frame ∈ stack, frame.Readable
  | .arrayNext reversed stack =>
    (∀ item ∈ reversed, item.Readable) ∧ ∀ frame ∈ stack, frame.Readable
  | .awaitKey fields stack | .awaitColon fields _ stack | .objectNext fields stack =>
    FieldsReadable fields ∧ ∀ frame ∈ stack, frame.Readable
  | .done value => value.Readable

theorem readable_complete {value : Json} (hvalue : value.Readable) {stack : List Frame}
    (hstack : ∀ frame ∈ stack, frame.Readable) : (State.complete value stack).Readable := by
  cases stack with
  | nil => exact hvalue
  | cons frame stack =>
      obtain ⟨hframe, hrest⟩ := List.forall_mem_cons.1 hstack
      cases frame with
      | array reversed => exact ⟨List.forall_mem_cons.2 ⟨hvalue, hframe⟩, hrest⟩
      | object fields key => exact ⟨hframe.setField key hvalue, hrest⟩

theorem readable_begin {l : Lexeme} (hl : l.token.Readable) {stack : List Frame}
    (hstack : ∀ frame ∈ stack, frame.Readable) {state : State}
    (h : State.begin l stack = .ok state) : state.Readable := by
  unfold State.begin at h
  split at h
  case h_1 value htoken =>
    rw [htoken] at hl
    obtain rfl := Except.ok.inj h
    exact readable_complete hl hstack
  case h_2 s _ =>
    obtain rfl := Except.ok.inj h
    have htext : Json.Readable (.text s) := trivial
    exact readable_complete htext hstack
  case h_3 | h_4 =>
    obtain rfl := Except.ok.inj h
    exact hstack
  all_goals cases h

theorem readable_beginKey {l : Lexeme} {fields : List (String × Json)} {stack : List Frame}
    (hfields : FieldsReadable fields) (hstack : ∀ frame ∈ stack, frame.Readable) {state : State}
    (h : State.beginKey l fields stack = .ok state) : state.Readable := by
  unfold State.beginKey at h
  split at h
  · obtain rfl := Except.ok.inj h
    exact ⟨hfields, hstack⟩
  all_goals cases h

/-- **Each step keeps it that all that was built can be read.** -/
theorem readable_step {l : Lexeme} (hl : l.token.Readable) {state state' : State}
    (hstate : state.Readable) (h : state.step l = .ok state') : state'.Readable := by
  unfold State.step at h
  split at h
  case h_1 => exact readable_begin hl hstate h
  case h_2 =>
    obtain rfl := Except.ok.inj h
    exact readable_complete (readable_array (List.forall_mem_nil _)) hstate
  case h_3 =>
    have hframe : (Frame.array []).Readable := List.forall_mem_nil _
    exact readable_begin hl (List.forall_mem_cons.2 ⟨hframe, hstate⟩) h
  case h_4 =>
    obtain rfl := Except.ok.inj h
    exact List.forall_mem_cons.2 hstate
  case h_5 =>
    obtain rfl := Except.ok.inj h
    exact readable_complete
      (readable_array fun item hitem => hstate.1 item (List.mem_reverse.1 hitem)) hstate.2
  case h_7 =>
    obtain rfl := Except.ok.inj h
    exact readable_complete (readable_object readableFields_nil) hstate
  case h_8 => exact readable_beginKey readableFields_nil hstate h
  case h_9 => exact readable_beginKey hstate.1 hstate.2 h
  case h_10 =>
    obtain rfl := Except.ok.inj h
    exact List.forall_mem_cons.2 hstate
  case h_12 =>
    obtain rfl := Except.ok.inj h
    exact hstate
  case h_13 =>
    obtain rfl := Except.ok.inj h
    exact readable_complete (readable_object hstate.1) hstate.2
  all_goals cases h

theorem readable_run {ls : List Lexeme} (hls : ∀ l ∈ ls, l.token.Readable) {state state' : State}
    (hstate : state.Readable) (h : state.run ls = .ok state') : state'.Readable := by
  induction ls generalizing state with
  | nil =>
      obtain rfl := Except.ok.inj h
      exact hstate
  | cons l ls ih =>
      obtain ⟨hl, hls⟩ := List.forall_mem_cons.1 hls
      rw [run_cons] at h
      obtain ⟨next, hnext, h⟩ := bind_eq_ok_iff.1 h
      exact ih hls (readable_step hl hstate hnext) h

theorem readable_of_parseChars {cs : List Char} {v : Json} (h : parseChars half cs = .ok v) :
    v.Readable := by
  obtain ⟨state, hrun, h⟩ := bind_eq_ok_iff.1 h
  have hstart : (State.awaitValue []).Readable := nofun
  have hstate := readable_run (readable_lex 0 0 cs) hstart hrun
  unfold State.finish at h
  split at h
  · obtain rfl := Except.ok.inj h
    exact hstate
  all_goals cases h

/-- **What is read of a text can be written and read again.** -/
theorem readable_of_parse {s : String} {v : Json} (h : parse half s = .ok v) : v.Readable := by
  unfold parse at h
  split at h
  · cases h
  · exact readable_of_parseChars h

end BehaviorTree.Json
