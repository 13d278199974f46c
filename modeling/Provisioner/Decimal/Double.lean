/-!
# Doubles

The finite numbers of the 64-bit binary floating point format, without any floating point operation:
a double is a sign and the position of its magnitude among the magnitudes in increasing order. A
magnitude is `significand * 2 ^ exponent` steps of `2 ^ -1074`, the smallest positive one.

Rounding a fraction to the nearest double is exact arithmetic on natural numbers, a tie goes to the
even significand, and what is too large has no double.
-/

namespace Provisioner

set_option autoImplicit false

structure Double where
  negative : Bool
  rank : Nat
  rank_lt : rank < 2047 * Nat.pow 2 52 := by decide
deriving DecidableEq

namespace Double

def zero : Double := { negative := false, rank := 0 }

def neg (x : Double) : Double := { x with negative := !x.negative }

def isZero (x : Double) : Bool := x.rank == 0

/-- Equality of values: the two zeros are equal. -/
def same (x y : Double) : Bool := x == y || (x.isZero && y.isZero)

def significand (x : Double) : Nat :=
  if x.rank / Nat.pow 2 52 = 0 then x.rank else Nat.pow 2 52 + x.rank % Nat.pow 2 52

def exponent (x : Double) : Nat := x.rank / Nat.pow 2 52 - 1

/-- The number of steps of `2 ^ -1074` in the magnitude. -/
def steps (x : Double) : Nat := x.significand * Nat.pow 2 x.exponent

/-- Whether the value has no fractional part. -/
def isWhole (x : Double) : Bool := x.steps % Nat.pow 2 1074 == 0

/-- The whole number nearest to `num / den`, a tie going to the even one. -/
def roundHalfEven (num den : Nat) : Nat :=
  let whole := num / den
  let rest := 2 * (num % den)
  if rest < den then whole
  else if den < rest then whole + 1
  else whole + whole % 2

/-- The rank of the magnitude nearest to `num / den`, for a positive `den`. -/
def nearestRank (num den : Nat) : Nat :=
  let scaled := num * Nat.pow 2 1074
  let excess := Nat.log2 (scaled / den) - 52
  excess * Nat.pow 2 52 + roundHalfEven scaled (den * Nat.pow 2 excess)

/-- The double nearest to a fraction, unless its magnitude is beyond the largest one. -/
def nearest? (negative : Bool) (num den : Nat) : Option Double :=
  if bound : nearestRank num den < 2047 * Nat.pow 2 52 then
    some ⟨negative, nearestRank num den, bound⟩
  else none

/-- The rounded product with `10 ^ power`, itself rounded first. -/
def timesPower? (x : Double) (power : Nat) : Option Double :=
  (nearest? false (Nat.pow 10 power) 1).bind fun ten =>
    nearest? x.negative (x.steps * ten.steps) (Nat.pow 2 2148)

/-- The rounded quotient by `10 ^ power`, itself rounded first. -/
def dividedByPower? (x : Double) (power : Nat) : Option Double :=
  (nearest? false (Nat.pow 10 power) 1).bind fun ten => nearest? x.negative x.steps ten.steps

/-- Divides by `10 ^ power` in steps of at most 308 places. -/
def dividedInSteps? (x : Double) (power : Nat) : Option Double :=
  if small : power ≤ 308 then x.dividedByPower? power
  else if x.isZero then some x
  else (x.dividedByPower? 308).bind fun y => y.dividedInSteps? (power - 308)
termination_by power

/-- The double that the decimal `digits * 10 ^ power` is read as. The digits are rounded to a double
first, then the scaling is rounded, so the result can be a neighbour of the nearest double. A
decimal beyond the largest double has none. -/
def ofDecimal? (negative : Bool) (digits : Nat) (power : Int) : Option Double :=
  (nearest? negative digits 1).bind fun x =>
    match power with
    | .ofNat places =>
      if places ≤ 308 then x.timesPower? places else if x.isZero then some x else none
    | .negSucc places => x.dividedInSteps? (places + 1)

/-- The same number in the machine's floating point type. -/
def toFloat (x : Double) : Float :=
  Float.ofBits (UInt64.ofNat ((if x.negative then Nat.pow 2 63 else 0) + x.rank))

end Double

end Provisioner
