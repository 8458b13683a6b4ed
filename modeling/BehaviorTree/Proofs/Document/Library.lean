import BehaviorTree.Document.Library
import BehaviorTree.Proofs.Document.Timestamp
import BehaviorTree.Proofs.Json.Readable

/-! # Laws of libraries

What is proved of documents holds with every library that satisfies a few laws about single values:
one that has the type of its field already is taken as it is (`Library.Reads`), and what is printed
is the text of the value, which is read as the value again (`Library.Prints`), unless the value has
half a surrogate pair (`Library.Refuses`).  The standard library satisfies them
(`Library.reads_standard`, `Library.prints_standard`, `Library.refuses_standard`). -/

namespace BehaviorTree

open BehaviorTree.Text BehaviorTree.Decimal

/-! ### The laws -/

namespace Library

/-- How a library converts single values: one of the type that is asked for stays as it is, null is
no number, and what comes out is an integer that can be written or a timestamp of the calendar. -/
structure Reads (lib : Library) : Prop where
  integer_int (n : ℤ) : lib.integer (.number (.int n)) = .ok n
  double_float {x : Float} (hx : x.isFinite = true) : lib.double (.number (.float x)) = .ok x
  double_null (x : Float) : lib.double .null ≠ .ok x
  text_text (s : String) : lib.text (.text s) = .ok s
  /-- The text of a timestamp stands for it. -/
  timestamp_time {t : Timestamp} (ht : t.Valid) : lib.timestamp (.text (lib.time t)) = .ok t
  isWritable_integer {value : Json} (hvalue : value.Readable) {n : ℤ}
    (h : lib.integer value = .ok n) : isWritable n = true
  valid_timestamp {value : Json} {t : Timestamp} (h : lib.timestamp value = .ok t) : t.Valid

/-- How a library prints values without halves of surrogate pairs: as texts that are read as the
values, with null in the place of numbers that are not finite. -/
def Prints (lib : Library) (half : Char) : Prop :=
  ∀ (value : Json) (indent : Option ℕ), value.Readable → value.holds half = false →
    ∃ text, lib.print value indent = .ok text ∧ Json.parse half text = .ok value.printed

/-- How a library prints values with half a surrogate pair: it does not. -/
def Refuses (lib : Library) (half : Char) : Prop :=
  ∀ (value : Json) (indent : Option ℕ), value.holds half = true →
    ∃ fault, lib.print value indent = .error fault

end Library

namespace Coercion

/-! ### Conversions -/

theorem isWritable_of_natAbs_lt {n : ℤ} (h : n.natAbs < 0x8000000000000000) :
    isWritable n = true := by
  have hword : 0x8000000000000000 ≤ 10 ^ 20 := by norm_num
  have hlimit : 10 ^ 20 ≤ 10 ^ numeralLimit := Nat.pow_le_pow_right (by decide) (by decide)
  exact (isWritable_iff_lt n).2 (h.trans_le (hword.trans hlimit))

theorem isWritable_plainInteger {cs : List Char} {n : ℤ} (h : plainInteger cs = .ok n) :
    isWritable n = true := by
  unfold plainInteger at h
  dsimp only at h
  split at h
  · cases h
  · rename_i first more hspan
    split_ifs at h with hzero hlong hrest hnegative
    · obtain rfl := Except.ok.inj h
      rw [isWritable_neg]
      exact isWritable_ofDigits (spanDigits_lt _) (by omega)
    · obtain rfl := Except.ok.inj h
      exact isWritable_ofDigits (spanDigits_lt _) (by omega)

theorem isWritable_integerOfText {s : String} {n : ℤ} (h : integerOfText s = .ok n) :
    isWritable n = true := by
  unfold integerOfText at h
  split at h
  · split at h
    · rename_i n' hn
      obtain ⟨cs, -, hcs⟩ := Option.map_eq_some_iff.1 hn
      obtain rfl := Except.ok.inj h
      exact isWritable_plainInteger hcs
    · cases h
  · exact isWritable_plainInteger h

/-- **An integer that is read of a value can be written.** -/
theorem isWritable_integer {value : Json} (hvalue : value.Readable) {n : ℤ}
    (h : integer value = .ok n) : isWritable n = true := by
  unfold integer at h
  split at h
  · obtain rfl := Except.ok.inj h
    exact hvalue
  · unfold integerOfFloat at h
    split at h
    · cases h
    · split_ifs at h with hwhole hword
      obtain rfl := Except.ok.inj h
      exact isWritable_of_natAbs_lt hword
  · rename_i b
    obtain rfl := Except.ok.inj h
    cases b <;> exact isWritable_of_natAbs_lt (by decide)
  · exact isWritable_integerOfText h
  · cases h

theorem valid_timestamp {value : Json} {t : Timestamp} (h : timestamp value = .ok t) : t.Valid := by
  unfold timestamp at h
  split at h
  · exact Timestamp.valid_ofText (mapError_eq_ok_iff.1 h)
  · split_ifs at h
    exact Timestamp.valid_ofNumber (mapError_eq_ok_iff.1 h)
  · cases h

end Coercion

/-! ### The standard library -/

namespace Library

variable (half : Char)

theorem reads_standard : (standard half).Reads where
  integer_int _ := rfl
  double_float _ := rfl
  double_null _ h := by cases h
  text_text _ := rfl
  timestamp_time {t} ht := by
    have htime : (standard half).time t = t.document := rfl
    have htimestamp : (standard half).timestamp = Coercion.timestamp := rfl
    rw [htime, htimestamp, Coercion.timestamp, Timestamp.ofText_document ht]
    rfl
  isWritable_integer hvalue _ h := Coercion.isWritable_integer hvalue h
  valid_timestamp h := Coercion.valid_timestamp h

theorem prints_standard : (standard half).Prints half := by
  intro value indent hvalue hhalf
  refine ⟨value.render indent, ?_, Json.parse_render hvalue indent⟩
  change (if value.holds half then _ else _) = _
  rw [hhalf]
  rfl

variable {half}

/-- A value with half a surrogate pair in a text is not printed. -/
theorem print_standard_of_holds {value : Json} (h : value.holds half = true) (indent : Option ℕ) :
    (standard half).print value indent = .error .unencodableText := by
  change (if value.holds half then _ else _) = _
  rw [h]
  rfl

theorem refuses_standard (half : Char) : (standard half).Refuses half :=
  fun _ indent h => ⟨_, print_standard_of_holds h indent⟩

end Library
end BehaviorTree
