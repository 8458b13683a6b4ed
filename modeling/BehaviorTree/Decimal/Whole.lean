import BehaviorTree.Decimal.Shortest

/-!
# Whole parts of doubles

The integer part of a finite double, exactly, from its bits.
-/

namespace BehaviorTree.Decimal

/-- The integer part of `significand * 2 ^ exponent`. -/
def Binary.whole (x : Binary) : Nat :=
  x.significand * power 2 x.exponent / power 2 (-x.exponent)

/-- Whether a value has no fractional part. -/
def Binary.isWhole (x : Binary) : Bool :=
  x.significand * power 2 x.exponent % power 2 (-x.exponent) = 0

/-- Whether the sign bit of a double is set. -/
def signBit (x : Float) : Bool := x.toBits >>> 63 = 1

/-- A finite double without its fractional part, rounded toward zero. -/
def truncate? (x : Float) : Option Int :=
  if x.isFinite then
    let whole : Int := (Binary.ofBits x.toBits).whole
    some (if signBit x then -whole else whole)
  else none

/-- Whether a double is finite and has no fractional part. -/
def isWhole (x : Float) : Bool := x.isFinite && (Binary.ofBits x.toBits).isWhole

/-- Whether an integer fits into a word of 64 bits with a sign. -/
def isWord (n : Int) : Bool := -0x8000000000000000 ≤ n && n < 0x8000000000000000

example : truncate? (-2.9) = some (-2) := by decide
example : truncate? 1e22 = some (10 ^ 22) := by decide
example : isWhole 0.5 = false ∧ isWhole 3.0 = true := by decide

end BehaviorTree.Decimal
