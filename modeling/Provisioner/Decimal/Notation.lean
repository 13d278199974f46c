import Provisioner.Decimal.Shortest

/-!
# The text of a double

The shortest digits, written positionally from `0.00001` up to below `1e+16` and otherwise with one
digit before the point and a signed exponent. A whole number keeps `.0`.
-/

namespace Provisioner.Double

set_option autoImplicit false

/-- Which numbers are written positionally, by the position of the decimal point relative to the
first digit. -/
structure Layout where
  firstPosition : Int
  lastPosition : Int

/-- From five places after the point to sixteen digits before it. -/
def Layout.standard : Layout := ⟨-4, 16⟩

def positional (digits : List Char) (point : Int) : List Char :=
  if point ≤ 0 then ['0', '.'] ++ List.replicate (-point).toNat '0' ++ digits
  else
    let before := point.toNat
    if digits.length ≤ before then
      digits ++ List.replicate (before - digits.length) '0' ++ ['.', '0']
    else digits.take before ++ ['.'] ++ digits.drop before

def scientific (digits : List Char) (point : Int) : List Char :=
  let power := point - 1
  let mark := if power < 0 then ['e', '-'] else ['e', '+']
  let head :=
    match digits with
    | first :: second :: rest => first :: '.' :: second :: rest
    | short => short
  head ++ mark ++ Nat.toDigits 10 power.natAbs

def magnitudeText (layout : Layout) (x : Double) : List Char :=
  if x.isZero then ['0', '.', '0']
  else
    let d := x.shortest
    let digits := Nat.toDigits 10 d.digits
    let point := d.power + digits.length
    if layout.firstPosition ≤ point ∧ point ≤ layout.lastPosition then positional digits point
    else scientific digits point

def text (x : Double) : String :=
  let magnitude := x.magnitudeText .standard
  String.ofList (if x.negative then '-' :: magnitude else magnitude)

end Provisioner.Double
