import BehaviorTree.Decimal.Whole
import BehaviorTree.Document.Problem
import BehaviorTree.Json.Display

/-!
# Reading document values by the schema

The schema of documents and settings is lenient: where it asks for an integer, a double, a text or a
timestamp, other values that clearly stand for one are taken too. What is refused is told by a
`ValueProblem`.
-/

namespace BehaviorTree

open BehaviorTree.Text BehaviorTree.Decimal

namespace Coercion

/-- The characters without White_Space at either end. -/
def trimmed (s : String) : List Char := trimChars isSpace s.toList

/-! ### Integers -/

/-- Reads a plain integer: perhaps a minus, then zero or digits of which the first is not zero, and
nothing behind them. An integer that has grown beyond the limit is too long whatever follows. -/
def plainInteger (cs : List Char) : Except ValueProblem Int :=
  let (negative, body) := match cs with
    | '-' :: body => (true, body)
    | _ => (false, cs)
  let (digits, rest) := spanDigits asciiDigit? body
  match digits with
  | [] => .error .unreadableInteger
  | first :: more =>
    if first = 0 ∧ !more.isEmpty then .error .unreadableInteger
    else if numeralLimit < digits.length + negative.toNat then .error .integerTooLong
    else if !rest.isEmpty then .error .unreadableInteger
    else .ok (if negative then -(ofDigits digits : Int) else ofDigits digits)

/-- Whether a character starts an integer that is not zero. -/
def startsInteger (c : Char) : Bool := (c.isDigit && c ≠ '0') || c = '-'

/-- Skips the zeros and underscores behind a leading zero; of nothing but these the last character
is kept, and before a point the last character skipped. `last` is the last character skipped. -/
def skipZeros (last : Char) : List Char → Option (List Char)
  | [] => some [last]
  | c :: cs =>
    if c = '0' ∨ c = '_' then skipZeros c cs
    else if c = '.' then some (last :: c :: cs)
    else if startsInteger c then some (c :: cs)
    else none

/-- An integer without leading zeros, behind which a minus may stand too; none if the text starts
with anything else. -/
def withoutLeadingZeros : List Char → Option (List Char)
  | '0' :: cs => skipZeros '0' cs
  | c :: cs => if startsInteger c then some (c :: cs) else none
  | [] => none

/-- A text without a plus in front of an unsigned number. -/
def withoutPlus : List Char → Option (List Char)
  | '+' :: '-' :: _ => none
  | '+' :: cs => some cs
  | cs => some cs

/-- A text without a fraction that consists of zeros. -/
def withoutZeroFraction (cs : List Char) : List Char :=
  let whole := cs.takeWhile (· ≠ '.')
  let fraction := cs.drop (whole.length + 1)
  if !fraction.isEmpty && fraction.all (· = '0') then whole else cs

/-- Whether two underscores stand side by side. -/
def hasDoubleUnderscore : List Char → Bool
  | '_' :: '_' :: _ => true
  | _ :: cs => hasDoubleUnderscore cs
  | [] => false

/-- A text without its underscores, unless they stand at an end or side by side. -/
def withoutUnderscores (cs : List Char) : List Char :=
  if cs.head? = some '_' ∨ cs.getLast? = some '_' ∨ hasDoubleUnderscore cs then cs
  else cs.filter (· ≠ '_')

/-- A text tidied up into a plain integer: without blanks around it, a plus, leading zeros, a
fraction of zeros and single underscores. -/
def tidied? (s : String) : Option (List Char) := do
  let significant ← withoutLeadingZeros (← withoutPlus (trimmed s))
  some (withoutUnderscores (withoutZeroFraction significant))

/-- The integer of a text, which is plain as it stands or once it is tidied up. Only a text as it
stands can be too long. -/
def integerOfText (s : String) : Except ValueProblem Int :=
  match plainInteger s.toList with
  | .error .unreadableInteger =>
    match (tidied? s).map plainInteger with
    | some (.ok n) => .ok n
    | _ => .error .unreadableInteger
  | known => known

/-- The integer of a double: one without a fractional part and below 2^63 in magnitude. -/
def integerOfFloat (x : Float) : Except ValueProblem Int :=
  match truncate? x with
  | none => .error .notFinite
  | some n =>
    if !isWhole x then .error .fractionalPart
    else if n.natAbs < 0x8000000000000000 then .ok n
    else .error .integerTooLong

/-- The integer that a value stands for. -/
def integer : Json → Except ValueProblem Int
  | .number (.int n) => .ok n
  | .number (.float x) => integerOfFloat x
  | .bool b => .ok (if b then 1 else 0)
  | .text s => integerOfText s
  | _ => .error .notInteger

/-! ### Doubles -/

/-- The double of a text: a decimal or a name with an optional sign, between blanks. Single
underscores count only where no blanks surround the text. -/
def doubleOfText (s : String) : Except ValueProblem Float :=
  match (readSigned? asciiDigit? (trimmed s)).or
      (readSigned? asciiDigit? (withoutUnderscores s.toList)) with
  | some x => .ok x
  | none => .error .unreadableNumber

/-- The double that a value stands for. -/
def double : Json → Except ValueProblem Float
  | .number n => match n.toFloat? with
    | some x => .ok x
    | none => .error .notNumber
  | .bool b => .ok (if b then 1.0 else 0.0)
  | .text s => doubleOfText s
  | _ => .error .notNumber

/-! ### Texts -/

/-- A value that is a text. -/
def exactText : Json → Except ValueProblem String
  | .text s => .ok s
  | _ => .error .notText

/-- The text that a value stands for; numbers are written out. -/
def text : Json → Except ValueProblem String
  | .text s => .ok s
  | .number n => .ok n.display
  | _ => .error .notText

/-- A text that is one of the exact texts of a vocabulary. -/
def oneOf {α : Type} (ofText? : String → Option α) (problem : ValueProblem) :
    Json → Except ValueProblem α
  | .text s => match ofText? s with
    | some a => .ok a
    | none => .error problem
  | _ => .error problem

/-! ### Timestamps -/

/-- The timestamp that a value stands for. -/
def timestamp : Json → Except ValueProblem Timestamp
  | .text s => (Timestamp.ofText s).mapError fun (problem, dateOnly) =>
    .unreadableTimestamp problem dateOnly
  | .number n =>
    if n.toFloat?.isNone then .error .notTimestamp
    else (Timestamp.ofNumber n).mapError fun problem => .unreadableTimestamp problem false
  | _ => .error .notTimestamp

/-! ### Checks -/

example : integerOfText " +1_000 " = .ok 1000 := by decide
example : integerOfText "+05.00" = .ok 5 := by decide
example : integerOfText "0-5" = .ok (-5) := by decide
example : integerOfText "5." = .error .unreadableInteger := by decide
example : integerOfText "1__0" = .error .unreadableInteger := by decide
example : integerOfText "0_" = .error .unreadableInteger := by decide
example : integerOfFloat 2.5 = .error .fractionalPart := by decide
example : doubleOfText "1_0.5" = .ok 10.5 := by decide

end Coercion
end BehaviorTree
