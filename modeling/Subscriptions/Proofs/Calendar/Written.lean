import Subscriptions.Calendar.Written
import Subscriptions.Proofs.Calendar.Civil
import Subscriptions.Proofs.Text.Decimal

/-!
Written dates and instants are read back: years with a sign or without, fractions of a second of any written length,
and leap seconds, which are written as a sixtieth second and read as a fraction beyond the fifty-ninth.
-/

namespace Subscriptions

set_option autoImplicit false

open Decimal (DigitsStop)

variable {cs : List Char} {mark : Char} {n : Nat}

theorem Text.skipBlank_padded (width n : Nat) (cs : List Char) :
    skipBlank (Decimal.padded width n ++ cs) = Decimal.padded width n ++ cs := by
  obtain ⟨c, ds, hds, hc⟩ := Decimal.exists_padded_eq width n
  rw [hds, List.cons_append]
  exact skipBlank_cons_of_not (Decimal.not_isBlank_of_isDigit hc)

theorem expectMark_cons (h : Text.isBlank mark = false) : expectMark mark (mark :: cs) = some cs := by
  simp [expectMark, Text.skipBlank_cons_of_not h]

theorem readPair_padded (hn : n < 100) : readPair (Decimal.padded 2 n ++ cs) = some (n, cs) := by
  rw [readPair, Text.skipBlank_padded]
  exact Decimal.read?_padded (by decide) hn (Nat.le_refl _) (.inl rfl)

namespace Date

theorem readYear_of_isDigit {c : Char} (h : c.isDigit = true) :
    readYear (c :: cs) = (Decimal.read? 4 (c :: cs)).map fun r => ((r.1 : Int), r.2) := by
  have hminus : c ≠ '-' := Decimal.ne_of_isDigit h rfl
  have hplus : c ≠ '+' := Decimal.ne_of_isDigit h rfl
  rw [readYear, Text.skipBlank_cons_of_not (Decimal.not_isBlank_of_isDigit h)]
  split
  · next heq => exact absurd (List.cons.inj heq).1 hminus
  · next heq => exact absurd (List.cons.inj heq).1 hplus
  · rfl

theorem readYear_writeYear (year : Int) (hcs : DigitsStop cs) : readYear (writeYear year ++ cs) = some (year, cs) := by
  have hsigned : Decimal.readAll? (Decimal.padded 4 year.natAbs ++ cs) = some (year.natAbs, cs) :=
    Decimal.readAll?_padded hcs
  rw [writeYear]
  split
  · next h =>
    have hfour : year.toNat < 10000 := by omega
    have hread : Decimal.read? 4 (Decimal.padded 4 year.toNat ++ cs) = some (year.toNat, cs) :=
      Decimal.read?_padded (by decide) hfour (Nat.le_refl _) (.inl rfl)
    obtain ⟨c, ds, hds, hc⟩ := Decimal.exists_padded_eq 4 year.toNat
    rw [hds, List.cons_append] at hread ⊢
    rw [readYear_of_isDigit hc, hread, Option.map_some, Int.toNat_of_nonneg h.1]
  · split
    · next h =>
      simp only [List.cons_append, readYear, Text.skipBlank_cons_of_not (show Text.isBlank '-' = false by decide),
        hsigned, Option.map_some]
      rw [show -(year.natAbs : Int) = year by omega]
    · next h =>
      simp only [List.cons_append, readYear, Text.skipBlank_cons_of_not (show Text.isBlank '+' = false by decide),
        hsigned, Option.map_some]
      rw [show (year.natAbs : Int) = year by omega]

theorem read_write (d : Date) (cs : List Char) : read (d.write ++ cs) = some (d, cs) := by
  have hmonth : d.monthOfYear < 100 := by
    simp only [monthOfYear]
    omega
  have hday : d.dayOfMonth < 100 := by
    have hlength := d.dayOfMonth_le
    have hbounds := Month.length_bounds d.month
    omega
  have hdash : Text.isBlank '-' = false := by decide
  have hyear (cs : List Char) : readYear (writeYear d.year ++ '-' :: cs) = some (d.year, '-' :: cs) :=
    readYear_writeYear d.year (Decimal.digitsStop_cons.mpr rfl)
  simp [read, write, hyear, expectMark_cons hdash, readPair_padded hmonth, readPair_padded hday]

@[simp] theorem ofText?_toText (d : Date) : ofText? d.toText = some d := by
  have hread := d.read_write []
  rw [List.append_nil] at hread
  simp [ofText?, toText, hread]

end Date

namespace Instant

theorem readFraction_padded {places : Nat} (hplaces : places ≠ 0) (hmost : places ≤ 9) (hn : n < Nat.pow 10 places)
    (hcs : DigitsStop cs) :
    readFraction ('.' :: (Decimal.padded places n ++ cs)) = some (n * Nat.pow 10 (9 - places), cs) := by
  have hlength := Decimal.length_padded hplaces hn
  simp [readFraction, Decimal.read?_padded hplaces hn hmost (.inr hcs), hlength, hcs.dropWhile]

theorem readFraction_writeFraction (hn : n < 1000000000) :
    readFraction (writeFraction n ++ 'Z' :: cs) = some (n, 'Z' :: cs) := by
  have hstop : DigitsStop ('Z' :: cs) := Decimal.digitsStop_cons.mpr rfl
  rw [writeFraction]
  split
  · next h =>
    rw [h]
    rfl
  split
  · next h =>
    have hthree : n / 1000000 < 1000 := by omega
    rw [List.cons_append, readFraction_padded (by decide) (by decide) hthree hstop,
      show Nat.pow 10 (9 - 3) = 1000000 from rfl, show n / 1000000 * 1000000 = n by omega]
  split
  · next h =>
    have hsix : n / 1000 < 1000000 := by omega
    rw [List.cons_append, readFraction_padded (by decide) (by decide) hsix hstop,
      show Nat.pow 10 (9 - 6) = 1000 from rfl, show n / 1000 * 1000 = n by omega]
  · rw [List.cons_append, readFraction_padded (by decide) (by decide) hn hstop,
      show Nat.pow 10 (9 - 9) = 1 from rfl, Nat.mul_one]

/-- The time of day of an instant as it is written. -/
def writeClock (t : Instant) : List Char :=
  let clock := (t.seconds % 86400).toNat
  Decimal.padded 2 (clock / 3600) ++ ':' :: (Decimal.padded 2 (clock / 60 % 60) ++
    ':' :: (Decimal.padded 2 (clock % 60 + t.nanos / 1000000000) ++ writeFraction (t.nanos % 1000000000)))

theorem write_eq (t : Instant) : t.write = t.date.write ++ 'T' :: (t.writeClock ++ ['Z']) := by
  simp [write, writeClock]

theorem readClock_writeClock (t : Instant) :
    readClock (t.writeClock ++ 'Z' :: cs) = some (((t.seconds % 86400).toNat, t.nanos), 'Z' :: cs) := by
  have hcolon : Text.isBlank ':' = false := by decide
  have hnanos := t.nanos_lt
  have hfraction : readFraction (writeFraction (t.nanos % 1000000000) ++ 'Z' :: cs) =
      some (t.nanos % 1000000000, 'Z' :: cs) := readFraction_writeFraction (by omega)
  simp only [writeClock]
  generalize hclock : (t.seconds % 86400).toNat = clock
  have hhour : clock / 3600 < 24 := by omega
  have hminute : clock / 60 % 60 < 60 := by omega
  have hsecond : clock % 60 + t.nanos / 1000000000 ≤ 60 := by omega
  have hread : clock / 3600 * 3600 + clock / 60 % 60 * 60 + min (clock % 60 + t.nanos / 1000000000) 59 = clock := by
    omega
  -- Beyond a whole second there is a leap second, and the seconds of the minute are then 59.
  have hleap : (t.nanos % 1000000000 + if clock % 60 + t.nanos / 1000000000 = 60 then 1000000000 else 0) = t.nanos := by
    split <;> omega
  simp [readClock, expectMark_cons hcolon, readPair_padded (show clock / 3600 < 100 by omega),
    readPair_padded (show clock / 60 % 60 < 100 by omega),
    readPair_padded (show clock % 60 + t.nanos / 1000000000 < 100 by omega), hfraction, hhour, hminute, hsecond, hread,
    hleap]

@[simp] theorem ofText?_toText (t : Instant) : ofText? t.toText = some t := by
  have hseconds : t.date.day * 86400 + ((t.seconds % 86400).toNat : Int) = t.seconds := by
    simp only [date]
    omega
  have hparts : ofParts? t.seconds t.nanos = some t := by
    rw [ofParts?, dif_pos ⟨t.inRange, t.nanos_lt⟩]
  have hzone : readZone ['Z'] = some (0, []) := by
    simp [readZone, Text.skipBlank_cons_of_not (show Text.isBlank 'Z' = false by decide)]
  simp [ofText?, toText, write_eq, Date.read_write, readClock_writeClock, hzone, hseconds, hparts,
    -Int.ofNat_toNat]

end Instant

end Subscriptions
