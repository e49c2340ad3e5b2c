/-!
Decimal numerals: writing a number with its digits, and reading a run of digits back.
Only the ten ASCII digits count as digits.
-/

namespace Subscriptions.Decimal

set_option autoImplicit false

/-- The digits of `n`, most significant first; zero has one digit. -/
def digits (n : Nat) : List Char := Nat.toDigits 10 n

def padded (width n : Nat) : List Char :=
  List.replicate (width - (digits n).length) '0' ++ digits n

/-- A minus sign before the digits of a negative number, nothing before those of another. -/
def signed (n : Int) : List Char :=
  if n < 0 then '-' :: digits n.natAbs else digits n.natAbs

/-- The number that a run of digits denotes; leading zeros do not count. -/
def value (ds : List Char) : Nat := Nat.ofDigitChars 10 ds 0

@[simp] theorem value_digits (n : Nat) : value (digits n) = n :=
  Nat.ofDigitChars_toDigits (by decide) (by decide)

theorem isDigit_of_mem_digits {n : Nat} {c : Char} (h : c ∈ digits n) : c.isDigit = true :=
  Nat.isDigit_of_mem_toDigits (by decide) (by decide) h

theorem digits_ne_nil (n : Nat) : digits n ≠ [] := by
  have h : 0 < (digits n).length := Nat.length_toDigits_pos
  exact List.ne_nil_of_length_pos h

/-- Reads at most `most` digits, and at least one, from the front of a text. -/
def read? (most : Nat) (cs : List Char) : Option (Nat × List Char) :=
  let ds := (cs.take most).takeWhile Char.isDigit
  if ds.isEmpty then none else some (value ds, cs.drop ds.length)

/-- Reads all the digits at the front of a text, at least one. -/
def readAll? (cs : List Char) : Option (Nat × List Char) :=
  let ds := cs.takeWhile Char.isDigit
  if ds.isEmpty then none else some (value ds, cs.dropWhile Char.isDigit)

/-- Reads a whole text as a number below `bound`: digits, after at most one plus sign. -/
def ofText? (bound : Nat) (text : String) : Option Nat :=
  let ds := match text.toList with
    | '+' :: rest => rest
    | cs => cs
  if ds.isEmpty || !ds.all Char.isDigit then none
  else if value ds < bound then some (value ds) else none

end Subscriptions.Decimal
