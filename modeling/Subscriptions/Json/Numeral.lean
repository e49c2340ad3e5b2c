/-!
How a numeral is taken up as a double when nothing is known yet of what it is for: its leading digits, as
many as fit into 64 bits, times a power of ten. Both are rounded to doubles before they are multiplied, so
close to the greatest double the product may be another than the double nearest to the numeral.
-/

namespace Subscriptions.Json

set_option autoImplicit false

/-- The nearest number of 53 significant bits, a tie going to the even one. -/
def nearestDouble (n : Nat) : Nat :=
  let unit := Nat.pow 2 (n.log2 - 52)
  let below := n / unit
  let rest := n % unit
  if 2 * rest < unit ∨ 2 * rest = unit ∧ below % 2 = 0 then below * unit else (below + 1) * unit

/-- The leading digits that fit into 64 bits, and the power of ten that they are multiplied by once the
digits after them are dropped. -/
def leadingDigits (digits : Nat) (exponent : Int) : Nat × Int :=
  if digits < 18446744073709551616 then (digits, exponent) else leadingDigits (digits / 10) (exponent + 1)
termination_by digits
decreasing_by omega

theorem leadingDigits_of_lt {digits : Nat} (h : digits < 18446744073709551616) (exponent : Int) :
    leadingDigits digits exponent = (digits, exponent) := by
  rw [leadingDigits, if_pos h]

/-- The point from which numbers round to infinity: half a unit above the greatest double. -/
def infinityBound : Nat := Nat.pow 2 1024 - Nat.pow 2 970

/-- A numeral is taken up as a finite double. There is no power of ten above `10 ^ 308` to multiply by, and
division never leads out of range. -/
def isFiniteNumeral (digits : Nat) (exponent : Int) : Bool :=
  let (leading, power) := leadingDigits digits exponent
  decide (leading = 0) || decide (power ≤ 0) ||
    (decide (power ≤ 308) &&
      decide (nearestDouble leading * nearestDouble (Nat.pow 10 power.toNat) < infinityBound))

theorem isFiniteNumeral_of_lt {digits : Nat} (h : digits < 18446744073709551616) : isFiniteNumeral digits 0 = true := by
  simp [isFiniteNumeral, leadingDigits_of_lt h]

end Subscriptions.Json
