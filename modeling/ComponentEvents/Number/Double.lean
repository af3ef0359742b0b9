/-
This file holds double precision numbers with their exact values.
-/

namespace ComponentEvents

/-- The value of a finite number is its significand times two to its exponent.
Every number made here is normalised: the significand is below 2^53, and it is at least 2^52
unless the exponent is the least one. -/
inductive Double where
  | nan
  | infinite (negative : Bool)
  | finite (negative : Bool) (significand : Nat) (exponent : Int)
  deriving DecidableEq, Repr

namespace Double

def leastExponent : Int := -1074

def greatestExponent : Int := 971

/-- A power with an integer exponent is a quotient of two natural numbers; this is the upper one. -/
def numerator (base : Nat) (exponent : Int) : Nat := Nat.pow base exponent.toNat

/-- This is the lower number of the quotient. -/
def denominator (base : Nat) (exponent : Int) : Nat := Nat.pow base (-exponent).toNat

/-- A quotient is rounded to the nearest integer and a half goes to the even neighbour. -/
def roundHalfEven (upper lower : Nat) : Nat :=
  let whole := upper / lower
  let twice := 2 * (upper % lower)
  if twice < lower then whole
  else if lower < twice then whole + 1
  else if whole % 2 = 0 then whole else whole + 1

/-- The result is at most half a unit away on either side. -/
theorem roundHalfEven_near {upper lower : Nat} (positive : 0 < lower) :
    2 * upper ≤ (2 * roundHalfEven upper lower + 1) * lower ∧
      2 * roundHalfEven upper lower * lower ≤ 2 * upper + lower := by
  have split := Nat.div_add_mod upper lower
  have small := Nat.mod_lt upper positive
  have whole : upper / lower * lower = lower * (upper / lower) := Nat.mul_comm _ _
  have step : (upper / lower + 1) * lower = lower * (upper / lower) + lower := by
    rw [Nat.add_mul, whole, Nat.one_mul]
  unfold roundHalfEven
  simp only
  repeat' split
  all_goals
    simp only [Nat.add_mul, Nat.mul_assoc, whole, step, Nat.one_mul]
    omega

/-- This is the exponent of the greatest power of two that is at most the quotient. -/
def floorLog2 (upper lower : Nat) : Int :=
  let guess : Int := (upper.log2 : Int) - (lower.log2 : Int)
  if lower * numerator 2 guess ≤ upper * denominator 2 guess then guess else guess - 1

/-- This function takes the double nearest to a quotient. -/
def ofRatio (negative : Bool) (upper lower : Nat) : Double :=
  if upper = 0 then .finite negative 0 leastExponent
  else
    let exponent := max leastExponent (floorLog2 upper lower - 52)
    let significand :=
      roundHalfEven (upper * denominator 2 exponent) (lower * numerator 2 exponent)
    let carried := significand = Nat.pow 2 53
    let significand := if carried then Nat.pow 2 52 else significand
    let exponent := if carried then exponent + 1 else exponent
    if greatestExponent < exponent then .infinite negative
    else .finite negative significand exponent

/-- This function takes the double nearest to `digits` times ten to `exponent`. Powers far out of
range are infinite or zero and are not computed. -/
def ofDecimal (negative : Bool) (digits : Nat) (exponent : Int) : Double :=
  let magnitude := exponent + (Nat.toDigits 10 digits).length
  if digits = 0 ∨ magnitude < -400 then .finite negative 0 leastExponent
  else if 400 < magnitude then .infinite negative
  else ofRatio negative (digits * numerator 10 exponent) (denominator 10 exponent)

def isZero : Double → Bool
  | .finite _ significand _ => significand = 0
  | _ => false

/-- A signed value over a common power of two compares two finite numbers exactly. -/
def scaled (negative : Bool) (significand : Nat) (exponent base : Int) : Int :=
  let size : Int := significand * numerator 2 (exponent - base)
  if negative then -size else size

/-- Zeros of both signs are equal and a nan equals nothing. -/
def sameNumber : Double → Double → Bool
  | .finite negative significand exponent, .finite negative' significand' exponent' =>
      let base := min exponent exponent'
      scaled negative significand exponent base = scaled negative' significand' exponent' base
  | .infinite negative, .infinite negative' => negative = negative'
  | _, _ => false

/-- A double equals an integer when their exact values agree. -/
def sameInteger : Double → Int → Bool
  | .finite negative significand exponent, value =>
      let base := min exponent 0
      scaled negative significand exponent base = value * numerator 2 (-base)
  | _, _ => false

/-- This test is exact; a nan is not below anything. -/
def isBelowOne : Double → Bool
  | .nan => false
  | .infinite negative => negative
  | .finite negative significand exponent =>
      negative || significand * numerator 2 exponent < denominator 2 exponent

/-- This is the least natural number that is not below the value. No count of names reaches an
infinite number or a nan, and the power that stands for them is above every finite double. -/
def ceilNat : Double → Nat
  | .finite true _ _ => 0
  | .finite false significand exponent =>
      let lower := denominator 2 exponent
      (significand * numerator 2 exponent + lower - 1) / lower
  | .infinite true => 0
  | _ => Nat.pow 2 1024

end Double

end ComponentEvents
