/-!
# Durations

A length of time in whole nanoseconds, and its text: the largest of the units s, ms, µs and ns that
the duration fills at least once, with the exact decimals that remain.
-/

namespace Provisioner

set_option autoImplicit false

structure Duration where
  nanoseconds : Nat
deriving DecidableEq, Repr

namespace Duration

def ofMilliseconds (ms : Nat) : Duration := ⟨ms * 1000000⟩

/-- Decimal digits of `value`, filled with zeros to the left up to `width`. -/
def padded (width value : Nat) : List Char :=
  let digits := Nat.toDigits 10 value
  List.replicate (width - digits.length) '0' ++ digits

/-- A count of some unit that is worth `10 ^ places` nanoseconds. Zeros at the end are left out. -/
def decimals (places nanoseconds : Nat) : String :=
  let rest := padded places (nanoseconds % Nat.pow 10 places)
  let kept := (rest.reverse.dropWhile (· == '0')).reverse
  let whole := toString (nanoseconds / Nat.pow 10 places)
  if kept.isEmpty then whole else whole ++ "." ++ String.ofList kept

def text (duration : Duration) : String :=
  let ns := duration.nanoseconds
  if 1000000000 ≤ ns then decimals 9 ns ++ "s"
  else if 1000000 ≤ ns then decimals 6 ns ++ "ms"
  else if 1000 ≤ ns then decimals 3 ns ++ "µs"
  else toString ns ++ "ns"

end Duration

end Provisioner
