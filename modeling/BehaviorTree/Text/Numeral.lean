import BehaviorTree.Text.Blank
import BehaviorTree.Text.Digit

/-!
# Integers in text

Integers are unbounded, but a text is only read as one, and an integer only written out, up to
`numeralLimit` digits: beyond that the conversion is refused, so that no document or name can make
the editor spend quadratic time on a number.

The digits may come from any script. Single underscores may group them, and white space may surround
the whole, but no information separators.
-/

namespace BehaviorTree.Text

/-- The most digits that a conversion between text and integers accepts. -/
def numeralLimit : Nat := 4300

/-- Why a text is not read as a number. -/
inductive NumeralError where
  /-- The text does not have the form of a number. -/
  | malformed
  /-- The text holds more digits than `numeralLimit`. -/
  | tooLong (digits : Nat)
  deriving DecidableEq, Repr

/-- The decimal numeral of a natural number. -/
def ofNat (n : Nat) : String := String.ofList (Nat.toDigits 10 n)

/-- The decimal numeral of an integer. -/
def ofInt : Int → String
  | .ofNat n => ofNat n
  | .negSucc n => "-" ++ ofNat (n + 1)

/-- The numeral of a natural number, if it stays within the limit. -/
def ofNat? (n : Nat) : Option String :=
  let digits := Nat.toDigits 10 n
  if digits.length ≤ numeralLimit then some (String.ofList digits) else none

/-- Whether an integer may be written out. -/
def isWritable (n : Int) : Bool := (ofNat? n.natAbs).isSome

/-- A numeral with at least `width` digits. -/
def padded (width n : Nat) : String :=
  let digits := Nat.toDigits 10 n
  String.ofList (List.replicate (width - digits.length) '0' ++ digits)

/-- The number of a list of digit values, refused beyond the limit. -/
def natOfDigits (digits : List Nat) : Except NumeralError Nat :=
  if digits.isEmpty then .error .malformed
  else if numeralLimit < digits.length then .error (.tooLong digits.length)
  else .ok (ofDigits digits)

/-- Splits a leading sign off; the flag says that it was a minus. -/
def takeSign : List Char → Bool × List Char
  | '-' :: cs => (true, cs)
  | '+' :: cs => (false, cs)
  | cs => (false, cs)

/-- Whether a text goes on with a digit. -/
def startsWithDigit : List Char → Bool
  | c :: _ => isDigit c
  | [] => false

/-- A text without its underscores, provided that each stands between two digits. The flag says that
the character before the text was a digit. -/
def ungroup? (afterDigit : Bool) : List Char → Option (List Char)
  | [] => some []
  | c :: cs =>
    if c = '_' then
      if afterDigit && startsWithDigit cs then ungroup? false cs else none
    else (ungroup? (isDigit c) cs).map (c :: ·)

/-- Reads an integer: a sign, digits with single underscores between them, white space around. -/
def toInt (s : String) : Except NumeralError Int := do
  let (negative, body) := takeSign (trimChars isSpace s.toList)
  let some plain := ungroup? false body | .error .malformed
  let some digits := allDigits? digit? plain | .error .malformed
  let n ← natOfDigits digits
  return if negative then -(n : Int) else n

/-! ### Small lemmas -/

theorem ungroup?_of_all_digits (afterDigit : Bool) (cs : List Char)
    (h : ∀ c ∈ cs, c ≠ '_') : ungroup? afterDigit cs = some cs := by
  induction cs generalizing afterDigit with
  | nil => rfl
  | cons c cs ih =>
    have hc : c ≠ '_' := h c (by simp)
    simp [ungroup?, hc, ih (isDigit c) fun d hd => h d (by simp [hd])]

end BehaviorTree.Text
