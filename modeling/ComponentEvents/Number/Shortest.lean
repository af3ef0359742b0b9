/-
This file finds the fewest decimal digits that read back as a given double.
-/

import ComponentEvents.Number.Double

namespace ComponentEvents

/-- The value is `digits` times ten to `exponent`. -/
structure DecimalValue where
  digits : Nat
  exponent : Int
  deriving DecidableEq, Repr

/-- Trailing zeros move into the exponent, as many of them as `count` allows. -/
def DecimalValue.trim : Nat → DecimalValue → DecimalValue
  | 0, value => value
  | count + 1, value =>
      if value.digits ≠ 0 ∧ value.digits % 10 = 0 then
        trim count ⟨value.digits / 10, value.exponent + 1⟩
      else value

namespace Double

/-- This is the number of decimal digits. -/
def digitCount (value : Nat) : Nat := (Nat.toDigits 10 value).length

/-- This is the exponent of the greatest power of ten that is at most the value. The scale by
10^350 makes the whole part of every positive double positive. -/
def decimalMagnitude (significand : Nat) (exponent : Int) : Int :=
  let whole := significand * numerator 2 exponent * Nat.pow 10 350 / denominator 2 exponent
  (digitCount whole : Int) - 351

/-- A decimal candidate is compared with a multiple of a quarter of the last binary place. -/
structure Grid where
  candidateScale : Nat
  quarterScale : Nat

/-- Both sides are brought to whole numbers. -/
def Grid.between (binary decimal : Int) : Grid where
  candidateScale := 4 * numerator 10 decimal * denominator 2 binary
  quarterScale := numerator 2 binary * denominator 10 decimal

/-- The gap below a power of two is half of the gap above it. -/
def quartersBelow (significand : Nat) (exponent : Int) : Nat :=
  if significand = Nat.pow 2 52 ∧ leastExponent < exponent then 1 else 2

/-- A candidate reads back when it lies between the middles of the gaps; the middles themselves
round to the even significand. -/
def readsBack (grid : Grid) (significand : Nat) (exponent : Int) (candidate : Nat) : Bool :=
  let place := candidate * grid.candidateScale
  let low := (4 * significand - quartersBelow significand exponent) * grid.quarterScale
  let high := (4 * significand + 2) * grid.quarterScale
  if significand % 2 = 0 then low ≤ place && place ≤ high else low < place && place < high

/-- Of the two neighbours of the value on a decimal grid this is the nearest that reads back, and
the even one of two that are equally near. -/
def nearestOnGrid? (significand : Nat) (exponent decimal : Int) : Option Nat :=
  let grid := Grid.between exponent decimal
  let value := 4 * significand * grid.quarterScale
  let lower := value / grid.candidateScale
  let upper := lower + 1
  let belowLower := value - lower * grid.candidateScale
  let aboveUpper := upper * grid.candidateScale - value
  match readsBack grid significand exponent lower, readsBack grid significand exponent upper with
  | true, true =>
      if belowLower < aboveUpper ∨ (belowLower = aboveUpper ∧ lower % 2 = 0) then some lower
      else some upper
  | true, false => some lower
  | false, true => some upper
  | false, false => none

theorem nearestOnGrid?_readsBack {significand : Nat} {exponent decimal : Int} {candidate : Nat}
    (found : nearestOnGrid? significand exponent decimal = some candidate) :
    readsBack (Grid.between exponent decimal) significand exponent candidate = true := by
  unfold nearestOnGrid? at found
  simp only at found
  split at found
  · split at found <;> cases found <;> assumption
  · cases found
    assumption
  · cases found
    assumption
  · cases found

/-- Digit counts are tried in increasing order. -/
def shortestFrom (significand : Nat) (exponent magnitude : Int) : Nat → Nat → Option DecimalValue
  | _, 0 => none
  | count, more + 1 =>
      let decimal := magnitude + 1 - count
      match nearestOnGrid? significand exponent decimal with
      | some digits => some ⟨digits, decimal⟩
      | none => shortestFrom significand exponent magnitude (count + 1) more

/-- These are all digits of the value. -/
def exactDecimal (significand : Nat) (exponent : Int) : DecimalValue :=
  ⟨significand * numerator 2 exponent * denominator 5 exponent, min exponent 0⟩

/-- Seventeen digits always suffice for a double; the exact value is the answer should none of the
grids have one. -/
def shortest (significand : Nat) (exponent : Int) : DecimalValue :=
  (shortestFrom significand exponent (decimalMagnitude significand exponent) 1 17).getD
    (exactDecimal significand exponent)

end Double

end ComponentEvents
