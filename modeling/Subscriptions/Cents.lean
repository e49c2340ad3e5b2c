/-!
Amounts in cents, and the arithmetic on them. An amount has 64 bits with a sign, and a sum or a difference that does not
fit into them wraps around. In checked arithmetic an operation halts instead, and so does a division by zero; where it
does not halt it is exact. Division truncates, which makes no difference to what is not below zero.
-/

namespace Subscriptions

set_option autoImplicit false

/-- Whole cents that fit into 64 bits with a sign. -/
def FitsCents (n : Int) : Prop := -9223372036854775808 ≤ n ∧ n < 9223372036854775808

instance (n : Int) : Decidable (FitsCents n) := inferInstanceAs (Decidable (_ ∧ _))

/-- What 64 bits keep of a number of cents. -/
def wrapCents (n : Int) : Int := n.bmod 18446744073709551616

/-- All of some amounts in cents, added one after the other. -/
def sumCents (amounts : List Int) : Int := amounts.foldl (fun sum n => wrapCents (sum + n)) 0

/-- A count of 32 bits without a sign, if the number is one. -/
def count? (n : Int) : Option Nat := if 0 ≤ n ∧ n < 4294967296 then some n.toNat else none

/-- Machine integers with a sign. -/
inductive Width
  | bits64
  | bits128

namespace Width

/-- The first number beyond the largest one. -/
def limit : Width → Int
  | .bits64 => 9223372036854775808
  | .bits128 => 170141183460469231731687303715884105728

def Fits (w : Width) (n : Int) : Prop := -w.limit ≤ n ∧ n < w.limit

instance (w : Width) (n : Int) : Decidable (w.Fits n) := inferInstanceAs (Decidable (_ ∧ _))

/-- The integer, if it fits. -/
def check (w : Width) (n : Int) : Option Int := if w.Fits n then some n else none

def add (w : Width) (a b : Int) : Option Int := w.check (a + b)

def sub (w : Width) (a b : Int) : Option Int := w.check (a - b)

def mul (w : Width) (a b : Int) : Option Int := w.check (a * b)

def div (w : Width) (a b : Int) : Option Int := if b = 0 then none else w.check (a.tdiv b)

/-- The remainder. It halts where the division does. -/
def rem (w : Width) (a b : Int) : Option Int := (w.div a b).map fun _ => a.tmod b

/-- A share, rounded up, one operation after the other. -/
def share (w : Width) (amount remaining total : Int) : Option Int := do
  let product ← w.mul amount remaining
  let sum ← w.add product total
  let less ← w.sub sum 1
  w.div less total

/-- All of some amounts, added one after the other. -/
def total (w : Width) (amounts : List Int) : Option Int := amounts.foldlM w.add 0

end Width

end Subscriptions
