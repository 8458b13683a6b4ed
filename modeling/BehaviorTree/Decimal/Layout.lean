import BehaviorTree.Decimal.Shortest
import BehaviorTree.Text.Numeral

/-!
# The text of a double

The digits come from `Binary.shortest`; a `Layout` says how they are arranged. Two layouts are in
use, `Layout.script` in names, attribute texts and generated scripts, and `Layout.document` in saved
documents.
-/

namespace BehaviorTree.Decimal

/-- How the digits of a decimal are arranged. -/
structure Layout where
  /-- The least exponent of the leading digit that is written positionally. -/
  plainFrom : Int
  /-- The first exponent of the leading digit that is no longer written positionally. -/
  plainBelow : Int
  /-- The least number of digits of a written exponent. -/
  exponentWidth : Nat
  deriving DecidableEq, Repr

/-- Positional from 0.0001 up to 10^16, exponents of at least two digits. -/
def Layout.script : Layout where
  plainFrom := -4
  plainBelow := 16
  exponentWidth := 2

/-- Positional from 0.00001 up to 10^16, exponents without padding. -/
def Layout.document : Layout where
  plainFrom := -5
  plainBelow := 16
  exponentWidth := 1

/-- The digits of a decimal with the point after the first `before` of them; whole numbers end in
`.0`. -/
def positional (digits : List Char) (before : Int) : List Char :=
  if before ≤ 0 then
    '0' :: '.' :: (List.replicate (-before).toNat '0' ++ digits)
  else if digits.length ≤ before.toNat then
    digits ++ List.replicate (before.toNat - digits.length) '0' ++ ['.', '0']
  else
    digits.take before.toNat ++ '.' :: digits.drop before.toNat

/-- The digits of a decimal with one before the point, and an exponent with its sign. -/
def scientific (width : Nat) (digits : List Char) (exponent : Int) : List Char :=
  let mantissa := match digits with
    | first :: second :: rest => first :: '.' :: second :: rest
    | short => short
  let sign := if exponent < 0 then '-' else '+'
  mantissa ++ 'e' :: sign :: (Text.padded width exponent.natAbs).toList

/-- Arranges a non-negative decimal. -/
def Layout.arrange (layout : Layout) (d : Decimal) : List Char :=
  let digits := Nat.toDigits 10 d.digits
  if d.digits = 0 then ['0', '.', '0']
  else
    let leading := d.exponent + digits.length - 1
    if layout.plainFrom ≤ leading ∧ leading < layout.plainBelow then
      positional digits (leading + 1)
    else
      scientific layout.exponentWidth digits leading

/-- The characters of a double. The sign of zero shows. -/
def Layout.chars (layout : Layout) (x : Float) : List Char :=
  if x.isNaN then ['n', 'a', 'n']
  else
    let magnitude :=
      if x.isInf then ['i', 'n', 'f'] else layout.arrange (Binary.ofBits x.toBits).shortest
    if x.toBits >>> 63 = 1 then '-' :: magnitude else magnitude

/-- The text of a double. -/
def Layout.text (layout : Layout) (x : Float) : String := String.ofList (layout.chars x)

/-! ### Checks of the layouts -/

example : Layout.script.text 0.1 = "0.1" := by decide
example : Layout.script.text (0.1 + 0.2) = "0.30000000000000004" := by decide
example : Layout.script.text 1e16 = "1e+16" := by decide
example : Layout.script.text 123456789012345680.0 = "1.2345678901234568e+17" := by decide
example : Layout.script.text 0.00001 = "1e-05" := by decide
example : Layout.document.text 0.00001 = "0.00001" := by decide
example : Layout.document.text 1.5e-7 = "1.5e-7" := by decide
example : Layout.script.text (-0.0) = "-0.0" := by decide
example : Layout.script.text 2.98023223876953125e-8 = "2.9802322387695312e-08" := by decide
example : Layout.script.text 5e-324 = "5e-324" := by decide +kernel

end BehaviorTree.Decimal
