import BehaviorTree.Text.Numeral

/-!
# Reading doubles

A `Written` is a decimal numeral as its digits stand; `Written.toFloat` is the double nearest to it,
with ties to even, infinity past the range and zero below it.

* `readUnsigned?`: digits with an optional point and exponent, nothing else.
* `readSigned?`: an optional sign in front; the names of infinity and of the undefined value count.
* `toFloat?`: the reading of numbers in designer text and in raw graph documents.
-/

namespace BehaviorTree.Decimal

open BehaviorTree.Text

/-- A decimal numeral: its digits without the point, how many follow the point, and its exponent. -/
structure Written where
  digits : List Nat
  places : Nat
  exponent : Int
  deriving DecidableEq, Repr

/-- The double nearest to a numeral. The exponent is only expanded where the result is in range. -/
def Written.toFloat (w : Written) : Float :=
  let significant := w.digits.dropWhile (· = 0)
  let scale := w.exponent - w.places
  let leading := (significant.length : Int) + scale
  if significant.isEmpty ∨ leading < -330 then 0.0
  else if 310 < leading then 1.0 / 0.0
  else Float.ofScientific (ofDigits significant) (scale < 0) scale.natAbs

/-- A double with a sign in front. -/
def signed (negative : Bool) (x : Float) : Float := if negative then -x else x

/-- Reads an exponent: a sign and at least one digit, and nothing after them. -/
def readExponent? (value? : Char → Option Nat) (cs : List Char) : Option Int := do
  let (negative, body) := takeSign cs
  let digits ← allDigits? value? body
  if digits.isEmpty then none
  else some (if negative then -(ofDigits digits : Int) else ofDigits digits)

/-- Reads digits with an optional point and an optional exponent, and nothing after them. At least
one digit stands before or after the point. -/
def readUnsigned? (value? : Char → Option Nat) (cs : List Char) : Option Written :=
  let (whole, afterWhole) := spanDigits value? cs
  let (fraction, rest) := match afterWhole with
    | '.' :: more => spanDigits value? more
    | _ => ([], afterWhole)
  if whole.isEmpty && fraction.isEmpty then none
  else match rest with
    | [] => some ⟨whole ++ fraction, fraction.length, 0⟩
    | c :: more =>
      if c = 'e' ∨ c = 'E' then
        (readExponent? value? more).map fun exponent =>
          ⟨whole ++ fraction, fraction.length, exponent⟩
      else none

/-- The value of a name for infinity or for the undefined value, in any case. -/
def named? (cs : List Char) : Option Float :=
  let name := String.ofList (cs.map Char.toLower)
  if name = "inf" ∨ name = "infinity" then some (1.0 / 0.0)
  else if name = "nan" then some (0.0 / 0.0)
  else none

/-- Reads an optional sign and then a numeral or a name. -/
def readSigned? (value? : Char → Option Nat) (cs : List Char) : Option Float :=
  let (negative, body) := takeSign cs
  match named? body with
  | some x => some (signed negative x)
  | none => (readUnsigned? value? body).map fun w => signed negative w.toFloat

/-- Reads a double: white space, a sign, a numeral in the digits of any script with single
underscores between digits, white space. -/
def toFloat? (s : String) : Option Float := do
  let plain ← ungroup? false (trimChars isSpace s.toList)
  readSigned? digit? plain

/-! ### Checks -/

example : toFloat? " 1_0.5e1 " = some 105.0 := by decide
example : toFloat? "1e400" = some (1.0 / 0.0) := by decide
example : toFloat? "1_" = none := by decide
example : toFloat? "." = none := by decide

end BehaviorTree.Decimal
