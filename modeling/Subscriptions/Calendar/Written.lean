import Subscriptions.Calendar.Instant
import Subscriptions.Text.Blank
import Subscriptions.Text.Decimal

/-!
Dates and instants as text. A date is written `2024-06-01` and an instant `2024-06-01T08:30:00.250Z`, in
universal time and with the fewest of 0, 3, 6 or 9 digits of a second that are exact. Reading is more
generous: digits may be missing in front, white space may stand between the parts, and an instant may
name its distance from universal time.
-/

namespace Subscriptions

set_option autoImplicit false

open Text (skipBlank)

/-- Years of four digits stand alone; all others carry a sign. -/
def Date.writeYear (year : Int) : List Char :=
  if 0 ≤ year ∧ year ≤ 9999 then Decimal.padded 4 year.toNat
  else (if year < 0 then '-' else '+') :: Decimal.padded 4 year.natAbs

def Date.write (d : Date) : List Char :=
  Date.writeYear d.year ++ '-' :: Decimal.padded 2 d.monthOfYear ++ '-' :: Decimal.padded 2 d.dayOfMonth

def Date.toText (d : Date) : String := String.ofList d.write

def Instant.writeFraction (nanos : Nat) : List Char :=
  if nanos = 0 then []
  else if nanos % 1000000 = 0 then '.' :: Decimal.padded 3 (nanos / 1000000)
  else if nanos % 1000 = 0 then '.' :: Decimal.padded 6 (nanos / 1000)
  else '.' :: Decimal.padded 9 nanos

/-- A leap second is written as the sixtieth second of its minute. -/
def Instant.write (t : Instant) : List Char :=
  let clock := (t.seconds % 86400).toNat
  t.date.write ++ 'T' :: Decimal.padded 2 (clock / 3600) ++ ':' :: Decimal.padded 2 (clock / 60 % 60) ++
    ':' :: Decimal.padded 2 (clock % 60 + t.nanos / 1000000000) ++
    Instant.writeFraction (t.nanos % 1000000000) ++ ['Z']

def Instant.toText (t : Instant) : String := String.ofList t.write

def expectMark (mark : Char) (cs : List Char) : Option (List Char) :=
  match skipBlank cs with
  | c :: rest => if c = mark then some rest else none
  | [] => none

/-- A signed year has any number of digits, one without a sign at most four. -/
def Date.readYear (cs : List Char) : Option (Int × List Char) :=
  match skipBlank cs with
  | '-' :: rest => (Decimal.readAll? rest).map fun r => (-(r.1 : Int), r.2)
  | '+' :: rest => (Decimal.readAll? rest).map fun r => ((r.1 : Int), r.2)
  | rest => (Decimal.read? 4 rest).map fun r => ((r.1 : Int), r.2)

/-- One or two digits, which white space may precede. -/
def readPair (cs : List Char) : Option (Nat × List Char) := Decimal.read? 2 (skipBlank cs)

def Date.read (cs : List Char) : Option (Date × List Char) := do
  let (year, cs) ← Date.readYear cs
  let (month, cs) ← readPair (← expectMark '-' cs)
  let (day, cs) ← readPair (← expectMark '-' cs)
  let d ← Date.ofCivil? year month day
  return (d, cs)

def Date.ofText? (text : String) : Option Date := do
  let (d, rest) ← Date.read text.toList
  if skipBlank rest = [] then some d else none

/-- Digits after a point, of which the first nine count; nothing without a point. -/
def Instant.readFraction : List Char → Option (Nat × List Char)
  | '.' :: cs => do
    let (n, rest) ← Decimal.read? 9 cs
    return (n * Nat.pow 10 (9 - (cs.length - rest.length)), rest.dropWhile Char.isDigit)
  | cs => some (0, cs)

def readTwoDigits : List Char → Option (Nat × List Char)
  | a :: b :: rest =>
    if a.isDigit && b.isDigit then some (Decimal.value [a, b], rest) else none
  | _ => none

def Instant.readShift (cs : List Char) : Option (Int × List Char) := do
  let (hours, cs) ← readTwoDigits cs
  let (minutes, cs) ← readTwoDigits (cs.dropWhile fun c => c = ':' || Text.isBlank c)
  if minutes < 60 ∧ hours < 24 then some (hours * 3600 + minutes * 60, cs) else none

/-- The seconds by which the clock is ahead of universal time: `Z`, `UTC`, or a signed shift. -/
def Instant.readZone (cs : List Char) : Option (Int × List Char) :=
  match skipBlank cs with
  | 'Z' :: rest => some (0, rest)
  | 'z' :: rest => some (0, rest)
  | '+' :: rest => Instant.readShift rest
  | '-' :: rest => (Instant.readShift rest).map fun r => (-r.1, r.2)
  | '−' :: rest => (Instant.readShift rest).map fun r => (-r.1, r.2)
  | u :: t :: c :: rest =>
    if u.toLower = 'u' ∧ t.toLower = 't' ∧ c.toLower = 'c' then some (0, rest) else none
  | _ => none

/-- The time of day, in seconds and nanoseconds; second 60 prolongs second 59. -/
def Instant.readClock (cs : List Char) : Option ((Nat × Nat) × List Char) := do
  let (hour, cs) ← readPair cs
  let (minute, cs) ← readPair (← expectMark ':' cs)
  let (second, cs) ← readPair (← expectMark ':' cs)
  let (nanos, cs) ← Instant.readFraction cs
  if hour < 24 ∧ minute < 60 ∧ second ≤ 60 then
    let leap := if second = 60 then 1000000000 else 0
    some ((hour * 3600 + minute * 60 + min second 59, nanos + leap), cs)
  else none

def Instant.ofText? (text : String) : Option Instant := do
  let (d, cs) ← Date.read text.toList
  let cs ← match cs with
    | 'T' :: rest => some rest
    | 't' :: rest => some rest
    | ' ' :: rest => some rest
    | _ => none
  let ((clock, nanos), cs) ← Instant.readClock cs
  let (ahead, cs) ← Instant.readZone cs
  if skipBlank cs = [] then Instant.ofParts? (d.day * 86400 + clock - ahead) nanos else none

end Subscriptions
