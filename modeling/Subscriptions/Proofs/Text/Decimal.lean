import Subscriptions.Text.Blank
import Subscriptions.Text.Decimal

/-!
Written numbers are read back. A run of digits is read up to where the digits stop, or to where no more of them are
asked for, and digits that a number is filled up with do not count.
-/

namespace Subscriptions.Decimal

set_option autoImplicit false

variable {n width most : Nat} {c : Char} {ds cs : List Char}

theorem ne_of_isDigit {d : Char} (hc : c.isDigit = true) (hd : d.isDigit = false) : c ≠ d := by
  rintro rfl
  rw [hc] at hd
  cases hd

theorem not_isBlank_of_isDigit (h : c.isDigit = true) : Text.isBlank c = false := by
  have hrange : 48 ≤ c.toNat ∧ c.toNat ≤ 57 := by
    simpa [Char.isDigit, UInt32.le_iff_toNat_le] using h
  simp [Text.isBlank, Text.inRanges, Text.blankRanges]
  omega

/-- A text that does not go on with a digit. -/
def DigitsStop (cs : List Char) : Prop := ∀ c ∈ cs.head?, c.isDigit = false

@[simp] theorem digitsStop_nil : DigitsStop [] := by simp [DigitsStop]

@[simp] theorem digitsStop_cons : DigitsStop (c :: cs) ↔ c.isDigit = false := by simp [DigitsStop]

theorem DigitsStop.takeWhile (h : DigitsStop cs) : cs.takeWhile Char.isDigit = [] := by
  cases cs with
  | nil => rfl
  | cons c cs => simp [digitsStop_cons.mp h]

theorem DigitsStop.dropWhile (h : DigitsStop cs) : cs.dropWhile Char.isDigit = cs := by
  cases cs with
  | nil => rfl
  | cons c cs => simp [digitsStop_cons.mp h]

theorem takeWhile_append (hds : ∀ c ∈ ds, c.isDigit = true) (hcs : DigitsStop cs) :
    (ds ++ cs).takeWhile Char.isDigit = ds := by
  rw [List.takeWhile_append_of_pos hds, hcs.takeWhile, List.append_nil]

theorem dropWhile_append (hds : ∀ c ∈ ds, c.isDigit = true) (hcs : DigitsStop cs) :
    (ds ++ cs).dropWhile Char.isDigit = cs := by
  rw [List.dropWhile_append_of_pos hds, hcs.dropWhile]

theorem readAll?_append (hds : ∀ c ∈ ds, c.isDigit = true) (hne : ds ≠ []) (hcs : DigitsStop cs) :
    readAll? (ds ++ cs) = some (value ds, cs) := by
  simp only [readAll?, takeWhile_append hds hcs, dropWhile_append hds hcs]
  simp [hne]

theorem read?_append (hds : ∀ c ∈ ds, c.isDigit = true) (hne : ds ≠ []) (hmost : ds.length ≤ most)
    (hcs : ds.length = most ∨ DigitsStop cs) : read? most (ds ++ cs) = some (value ds, cs) := by
  have hstop : DigitsStop (cs.take (most - ds.length)) := by
    rcases hcs with hlength | hcs
    · simp [hlength]
    · cases cs with
      | nil => simp
      | cons c cs =>
        cases most - ds.length with
        | zero => simp
        | succ k => simpa using hcs
  have htake : ((ds ++ cs).take most).takeWhile Char.isDigit = ds := by
    rw [List.take_append, List.take_of_length_le hmost, takeWhile_append hds hstop]
  simp only [read?, htake]
  simp [hne]

theorem head?_digits_ne (hn : n ≠ 0) : (digits n).head? ≠ some '0' := by
  induction n using Nat.strongRecOn with
  | _ n ih =>
    by_cases hlt : n < 10
    · rw [digits, Nat.toDigits_of_lt_base hlt]
      simpa [Nat.digitChar_eq_zero] using hn
    · have hfront := ih (n / 10) (by omega) (by omega)
      rw [digits, Nat.toDigits_of_base_le (by decide) (by omega)]
      change (digits (n / 10) ++ _).head? ≠ some '0'
      rwa [List.head?_append, Option.or_of_isSome]
      exact List.isSome_head?.mpr (digits_ne_nil (n / 10))

/-- A number is never written with a needless zero in front. -/
theorem length_digits_of_head? (h : (digits n).head? = some '0') : (digits n).length = 1 := by
  by_cases hn : n = 0
  · rw [hn]
    rfl
  · exact absurd h (head?_digits_ne hn)

theorem padded_ne_nil : padded width n ≠ [] := by
  simp [padded, digits_ne_nil]

theorem isDigit_of_mem_padded (h : c ∈ padded width n) : c.isDigit = true := by
  rcases List.mem_append.mp h with h | h
  · rw [List.eq_of_mem_replicate h]
    rfl
  · exact isDigit_of_mem_digits h

@[simp] theorem value_padded : value (padded width n) = n := by
  have hzeros (k : Nat) : value (List.replicate k '0' ++ digits n) = n := by
    induction k with
    | zero => simp
    | succ k ih => simpa [value, List.replicate_succ, Nat.ofDigitChars_cons] using ih
  exact hzeros _

theorem length_padded (hwidth : width ≠ 0) (hn : n < Nat.pow 10 width) : (padded width n).length = width := by
  have hdigits : (digits n).length ≤ width :=
    (Nat.length_toDigits_le_iff (by decide) (Nat.pos_of_ne_zero hwidth)).mpr hn
  simp only [padded, List.length_append, List.length_replicate]
  omega

theorem readAll?_digits (hcs : DigitsStop cs) : readAll? (digits n ++ cs) = some (n, cs) := by
  rw [readAll?_append (fun c hc => isDigit_of_mem_digits hc) (digits_ne_nil n) hcs, value_digits]

theorem readAll?_padded (hcs : DigitsStop cs) : readAll? (padded width n ++ cs) = some (n, cs) := by
  rw [readAll?_append (fun c hc => isDigit_of_mem_padded hc) padded_ne_nil hcs, value_padded]

theorem read?_padded (hwidth : width ≠ 0) (hn : n < Nat.pow 10 width) (hmost : width ≤ most)
    (hcs : width = most ∨ DigitsStop cs) : read? most (padded width n ++ cs) = some (n, cs) := by
  have hlength := length_padded hwidth hn
  rw [read?_append (fun c hc => isDigit_of_mem_padded hc) padded_ne_nil, value_padded]
  · rwa [hlength]
  · rwa [hlength]

/-- A written number begins with a digit. -/
theorem exists_digits_eq (n : Nat) : ∃ c ds, digits n = c :: ds ∧ c.isDigit = true := by
  obtain ⟨c, ds, hds⟩ := List.exists_cons_of_ne_nil (digits_ne_nil n)
  exact ⟨c, ds, hds, isDigit_of_mem_digits (hds ▸ List.mem_cons_self)⟩

theorem exists_padded_eq (width n : Nat) : ∃ c ds, padded width n = c :: ds ∧ c.isDigit = true := by
  obtain ⟨c, ds, hds⟩ := List.exists_cons_of_ne_nil (padded_ne_nil : padded width n ≠ [])
  exact ⟨c, ds, hds, isDigit_of_mem_padded (hds ▸ List.mem_cons_self)⟩

end Subscriptions.Decimal
