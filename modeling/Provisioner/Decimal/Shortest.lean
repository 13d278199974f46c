import Provisioner.Decimal.Double

/-!
# The shortest decimal of a double

Among the decimals that lie in the interval of reals which round to a double, the one with the
fewest digits, and of two such the nearer. The ends of the interval belong to it exactly when the
significand is even. All comparisons are between natural numbers.
-/

namespace Provisioner.Double

set_option autoImplicit false

/-- A magnitude written as `digits * 10 ^ power`. -/
structure Decimal where
  digits : Nat
  power : Int
deriving DecidableEq, Repr

/-- Four times the magnitude, in steps: the ends of its interval are whole numbers of these. -/
def center (x : Double) : Nat := 4 * x.steps

def upperEnd (x : Double) : Nat := x.center + 2 * Nat.pow 2 x.exponent

/-- Below a power of two the neighbour is only half as far away. -/
def lowerEnd (x : Double) : Nat :=
  if x.significand = Nat.pow 2 52 ∧ 0 < x.exponent then x.center - Nat.pow 2 x.exponent
  else x.center - 2 * Nat.pow 2 x.exponent

/-- The number of quarter steps in one unit. -/
def quarterSteps : Nat := 4 * Nat.pow 2 1074

/-- A decimal as a fraction of quarter steps: numerator and denominator. -/
def Decimal.scaled (d : Decimal) : Nat × Nat :=
  match d.power with
  | .ofNat places => (d.digits * Nat.pow 10 places * quarterSteps, 1)
  | .negSucc places => (d.digits * quarterSteps, Nat.pow 10 (places + 1))

/-- Whether a decimal lies in the interval of reals that round to `x`. -/
def readsAs (x : Double) (d : Decimal) : Bool :=
  let (num, den) := d.scaled
  if x.significand % 2 = 0 then x.lowerEnd * den ≤ num && num ≤ x.upperEnd * den
  else x.lowerEnd * den < num && num < x.upperEnd * den

/-- The distance of a decimal from the value, as a fraction of quarter steps. -/
def distance (x : Double) (d : Decimal) : Nat :=
  let (num, den) := d.scaled
  (num - x.center * den) + (x.center * den - num)

/-- The whole number of units `10 ^ power` in the value. -/
def unitsBelow (x : Double) (power : Int) : Nat :=
  match power with
  | .ofNat places => x.center / (Nat.pow 10 places * quarterSteps)
  | .negSucc places => x.center * Nat.pow 10 (places + 1) / quarterSteps

/-- The better of the value's two neighbours among the multiples of `10 ^ power`, if either reads as
`x`. Both are fractions with the same denominator; a tie goes to the even one. -/
def onGrid (x : Double) (power : Int) : Option Decimal :=
  let below := x.unitsBelow power
  let low : Decimal := ⟨below, power⟩
  let high : Decimal := ⟨below + 1, power⟩
  match x.readsAs low, x.readsAs high with
  | true, false => some low
  | false, true => some high
  | false, false => none
  | true, true =>
    if x.distance low < x.distance high then some low
    else if x.distance high < x.distance low then some high
    else if below % 2 = 0 then some low else some high

/-- The exponent of the first decimal digit: the largest of the given ones that the value reaches.
-/
def leadingPower (x : Double) : Int :=
  let powers := (List.range 633).map fun (i : Nat) => (308 : Int) - i
  (powers.find? fun power => 0 < x.unitsBelow power).getD (-324)

/-- The value itself, with every digit. -/
def exactDecimal (x : Double) : Decimal := ⟨x.steps * Nat.pow 5 1074, -1074⟩

def stripZeros : Nat → Decimal → Decimal
  | 0, d => d
  | fuel + 1, d =>
    if d.digits % 10 = 0 ∧ d.digits ≠ 0 then stripZeros fuel ⟨d.digits / 10, d.power + 1⟩ else d

/-- The shortest decimal. Seventeen digits always suffice; the exact value closes the search. -/
def shortest (x : Double) : Decimal :=
  let leading := x.leadingPower
  let grids := (List.range 17).map fun (i : Nat) => leading - i
  let found := (grids.findSome? x.onGrid).getD x.exactDecimal
  stripZeros 1100 found

end Provisioner.Double
