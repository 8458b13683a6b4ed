/-!
# Shortest decimals

A double is printed with the fewest digits that read back as the same double, and of those with the
digits nearest to it. The choice is made in exact arithmetic.

* `Binary`: a finite non-negative double as `significand * 2 ^ exponent`.
* `Binary.readsBack`: whether a decimal lies among the reals that round to the double.
* `Binary.shortest`: for one digit, two digits, and so on, the two decimals around the double on the
  grid of that many digits are tried; the first grid with a hit wins.
-/

namespace BehaviorTree

/-- The decimal `digits * 10 ^ exponent`. -/
structure Decimal where
  digits : Nat
  exponent : Int
  deriving DecidableEq, Repr

namespace Decimal

/-- The power of a base; one where the exponent is negative. A factor `base ^ exponent` of a
fraction is `power base exponent` above the bar and `power base (-exponent)` below it. -/
def power (base : Nat) (exponent : Int) : Nat := Nat.pow base exponent.toNat

/-- A finite non-negative double, `significand * 2 ^ exponent`. -/
structure Binary where
  significand : Nat
  exponent : Int
  /-- The gap to the double below is half the gap to the double above. -/
  narrowBelow : Bool
  deriving DecidableEq, Repr

/-- Decodes the magnitude of a finite double from its bits. -/
def Binary.ofBits (bits : UInt64) : Binary :=
  let scale := ((bits >>> 52) &&& 0x7FF).toNat
  let fraction := (bits &&& 0xFFFFFFFFFFFFF).toNat
  if scale = 0 then ⟨fraction, -1074, false⟩
  else ⟨0x10000000000000 + fraction, (scale : Int) - 1075, fraction = 0 ∧ 1 < scale⟩

/-- Compares `a * 10 ^ i` with `n * 2 ^ j`. -/
def compareScaled (a : Nat) (i : Int) (n : Nat) (j : Int) : Ordering :=
  compare (a * power 10 i * power 2 (-j)) (n * power 2 j * power 10 (-i))

/-- Whether a decimal lies among the reals that round to `x`: from half the gap below to half the
gap above, the ends included when the significand is even. -/
def Binary.readsBack (x : Binary) (d : Decimal) : Bool :=
  let low := if x.narrowBelow then 4 * x.significand - 1 else 4 * x.significand - 2
  let high := 4 * x.significand + 2
  let closed := x.significand % 2 = 0
  let fromLow := compareScaled d.digits d.exponent low (x.exponent - 2)
  let toHigh := compareScaled d.digits d.exponent high (x.exponent - 2)
  (fromLow = .gt || (closed && fromLow = .eq)) && (toHigh = .lt || (closed && toHigh = .eq))

/-- `⌊significand * 2 ^ exponent / 10 ^ place⌋`. -/
def Binary.floorAt (x : Binary) (place : Int) : Nat :=
  x.significand * power 2 x.exponent * power 10 (-place)
    / (power 2 (-x.exponent) * power 10 place)

/-- The decimals on the grid of `10 ^ place` around `x` that read back; of two the nearer, and of
two equally near ones the even one. -/
def Binary.onGrid? (x : Binary) (place : Int) : Option Decimal :=
  let below := x.floorAt place
  let lower : Decimal := ⟨below, place⟩
  let upper : Decimal := ⟨below + 1, place⟩
  match x.readsBack lower, x.readsBack upper with
  | true, true =>
    match compareScaled (2 * below + 1) place (2 * x.significand) x.exponent with
    | .gt => some lower
    | .lt => some upper
    | .eq => some (if below % 2 = 0 then lower else upper)
  | true, false => some lower
  | false, true => some upper
  | false, false => none

/-- The least `k` in a range from `first` with `x < 10 ^ k`; the range suffices for doubles. -/
def Binary.magnitude (x : Binary) : Int :=
  let guess : Int := ((Nat.log2 x.significand : Int) + x.exponent) * 30103 / 100000 - 1
  ((List.range 4).map fun (i : Nat) => guess + (i : Int)).find?
    (fun k => compareScaled 1 k x.significand x.exponent = .gt) |>.getD (guess + 4)

/-- Moves trailing zeros of the digits into the exponent; `steps` bounds how many. -/
def dropZeros : (steps : Nat) → Decimal → Decimal
  | 0, d => d
  | steps + 1, d =>
    if d.digits ≠ 0 ∧ d.digits % 10 = 0 then dropZeros steps ⟨d.digits / 10, d.exponent + 1⟩ else d

/-- The exact decimal value of a double. -/
def Binary.exact (x : Binary) : Decimal :=
  ⟨x.significand * power 2 x.exponent * power 5 (-x.exponent), min x.exponent 0⟩

/-- The shortest decimal that reads back as `x`, without trailing zeros. Seventeen digits always
suffice; past them the exact value stands in. -/
def Binary.shortest (x : Binary) : Decimal :=
  if x.significand = 0 then ⟨0, 0⟩
  else
    let top := x.magnitude
    let found := (List.range 17).findSome? fun n => x.onGrid? (top - (n + 1 : Nat))
    Decimal.dropZeros 20 (found.getD x.exact)

/-! ### Checks of the interval -/

example : (Binary.ofBits 0x3FF0000000000000).readsBack ⟨(2 ^ 53 + 1) * 5 ^ 53, -53⟩ = true := by
  decide
example :
    (Binary.ofBits 0x3FF0000000000000).readsBack ⟨(2 ^ 53 + 1) * 5 ^ 53 + 1, -53⟩ = false := by
  decide
example : (Binary.ofBits 0x3FF0000000000000).readsBack ⟨(2 ^ 54 - 1) * 5 ^ 54, -54⟩ = true := by
  decide
example :
    (Binary.ofBits 0x3FF0000000000000).readsBack ⟨(2 ^ 54 - 1) * 5 ^ 54 - 1, -54⟩ = false := by
  decide

end Decimal

end BehaviorTree
