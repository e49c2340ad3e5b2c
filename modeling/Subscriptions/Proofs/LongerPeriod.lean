import Subscriptions.Proofs.Calendar.Civil
import Subscriptions.Proofs.Period
import Subscriptions.Samples

/-!
Periods compared. Fewer cycles and fewer days, counted from an earlier start, come to no later an end, and have one
whenever the others do. Cycles bought one after the other end no later than those bought at once: a day that a short
month has cut off is not given back. The first 28 days of a month are never cut off, and from them the ends agree.
-/

namespace Subscriptions

set_option autoImplicit false

namespace Date

variable {d e : Date} {m n : Nat}

theorem addMonths_eq_some_iff_month :
    d.addMonths n = some e ↔
      e.month = d.month + n ∧ (e.dayOfMonth : Int) = min (d.dayOfMonth : Int) (Month.length e.month) := by
  have hd := d.day_eq
  have he := e.day_eq
  have hone := d.one_le_dayOfMonth
  have hlength := Month.length_bounds (d.month + n)
  rw [addMonths_eq_some_iff]
  constructor
  · rintro ⟨-, hday⟩
    have hmonth : e.month = d.month + n := by
      apply month_eq_iff.mpr
      have hnext : Month.length (d.month + n) = Month.start (d.month + n + 1) - Month.start (d.month + n) := rfl
      omega
    rw [hmonth] at he ⊢
    refine ⟨rfl, ?_⟩
    omega
  · rintro ⟨hmonth, hday⟩
    have hfirst := d.month_bounds
    have hlast := e.month_bounds
    rw [hmonth] at he hday hlast
    refine ⟨?_, ?_⟩ <;> omega

/-- Months can be added as long as they come to a month that has dates. -/
theorem isSome_addMonths_iff : (d.addMonths n).isSome = true ↔ d.month + n ≤ 3145715 := by
  rw [Option.isSome_iff_exists]
  constructor
  · rintro ⟨e, he⟩
    have hlast := e.month_bounds
    rw [(addMonths_eq_some_iff_month.mp he).1] at hlast
    exact hlast.2
  · intro h
    have hfirst := d.month_bounds
    have hlength := Month.length_bounds (d.month + n)
    have hone := d.one_le_dayOfMonth
    obtain ⟨e, hmonth, hday⟩ := exists_of_month (k := d.month + n)
      (n := min d.dayOfMonth (Month.length (d.month + n)).toNat) (by omega) (by omega) (by omega)
    refine ⟨e, addMonths_eq_some_iff_month.mpr ⟨hmonth, ?_⟩⟩
    rw [hday, hmonth]
    omega

/-- Months counted in two goes come to a date whenever they do at once. -/
theorem isSome_addMonths_addMonths :
    ((d.addMonths m).bind fun e => e.addMonths n).isSome = (d.addMonths (m + n)).isSome := by
  rw [Bool.eq_iff_iff, isSome_addMonths_iff]
  constructor
  · intro h
    obtain ⟨e, he⟩ := Option.isSome_iff_exists.mp h
    obtain ⟨mid, hmid, hrest⟩ := Option.bind_eq_some_iff.mp he
    have hreached := isSome_addMonths_iff.mp (Option.isSome_of_eq_some hrest)
    rw [(addMonths_eq_some_iff_month.mp hmid).1] at hreached
    omega
  · intro h
    obtain ⟨mid, hmid⟩ := Option.isSome_iff_exists.mp
      (isSome_addMonths_iff.mpr (show d.month + m ≤ 3145715 by omega))
    rw [hmid, Option.bind_some, isSome_addMonths_iff, (addMonths_eq_some_iff_month.mp hmid).1]
    omega

theorem addMonths_addMonths_le {mid inTurn atOnce : Date} (hmid : d.addMonths m = some mid)
    (hturn : mid.addMonths n = some inTurn) (honce : d.addMonths (m + n) = some atOnce) : inTurn ≤ atOnce := by
  obtain ⟨hmonth, hday⟩ := addMonths_eq_some_iff_month.mp hmid
  obtain ⟨hmonth', hday'⟩ := addMonths_eq_some_iff_month.mp hturn
  obtain ⟨hmonth'', hday''⟩ := addMonths_eq_some_iff_month.mp honce
  have hsame : inTurn.month = atOnce.month := by omega
  rw [le_iff_of_month_eq hsame]
  rw [hsame] at hday'
  omega

/-- No month is too short for one of the first 28 days. -/
theorem dayOfMonth_of_addMonths (hday : d.dayOfMonth ≤ 28) (h : d.addMonths n = some e) :
    e.dayOfMonth = d.dayOfMonth := by
  have hlength := Month.length_bounds e.month
  have hcut := (addMonths_eq_some_iff_month.mp h).2
  omega

theorem addMonths_add (hday : d.dayOfMonth ≤ 28) :
    d.addMonths (m + n) = (d.addMonths m).bind fun e => e.addMonths n := by
  have hsome := isSome_addMonths_addMonths (d := d) (m := m) (n := n)
  cases honce : d.addMonths (m + n) with
  | none =>
    rw [honce] at hsome
    exact (Option.isNone_iff_eq_none.mp (by simpa using hsome)).symm
  | some atOnce =>
    rw [honce] at hsome
    obtain ⟨inTurn, hturn⟩ := Option.isSome_iff_exists.mp hsome
    obtain ⟨mid, hmid, hrest⟩ := Option.bind_eq_some_iff.mp hturn
    have hmidday := dayOfMonth_of_addMonths hday hmid
    have hlast : inTurn.dayOfMonth = atOnce.dayOfMonth := by
      rw [dayOfMonth_of_addMonths (by omega) hrest, dayOfMonth_of_addMonths hday honce, hmidday]
    have hmonth : inTurn.month = atOnce.month := by
      have hfirst := (addMonths_eq_some_iff_month.mp hmid).1
      have hsecond := (addMonths_eq_some_iff_month.mp hrest).1
      have hboth := (addMonths_eq_some_iff_month.mp honce).1
      omega
    rw [hturn, eq_of_month_eq hmonth hlast]

theorem exists_addDays_le {d' e' : Date} (hle : d ≤ d') (hn : m ≤ n) (h : d'.addDays n = some e') :
    ∃ e, d.addDays m = some e ∧ e ≤ e' := by
  have hsum := ofDay?_eq_some_iff.mp h
  have hd := d.inRange
  have he := e'.inRange
  rw [le_def] at hle
  refine ⟨⟨d.day + m, by omega⟩, ofDay?_eq_some_iff.mpr rfl, ?_⟩
  rw [le_def, hsum]
  show d.day + (m : Int) ≤ d'.day + n
  omega

@[simp] theorem addDays_zero (d : Date) : d.addDays 0 = some d := by
  simp [addDays]

end Date

/-- The months of a cycle. -/
def Cycle.months : Cycle → Option Nat
  | .none => Option.none
  | .month => some 1
  | .year => some 12

namespace Cycle

variable {c : Cycle} {d : Date} {m n : Nat}

/-- The limit on the months of many years lies beyond what can be added anyway. -/
theorem addTo_eq (c : Cycle) (d : Date) (n : Nat) :
    c.addTo d n = c.months.bind fun each => d.addMonths (n * each) := by
  cases c with
  | none => rfl
  | month => simp [addTo, months]
  | year =>
    simp only [addTo, months, Option.bind_some]
    by_cases h : n * 12 < 4294967296
    · rw [if_pos h]
    · have hbeyond : ¬n * 12 < 2147483648 := by omega
      simp only [h, Date.addMonths, hbeyond, if_false]

theorem exists_addTo_le {d' e' : Date} (hle : d ≤ d') (hn : m ≤ n) (h : c.addTo d' n = some e') :
    ∃ e, c.addTo d m = some e ∧ e ≤ e' := by
  rw [addTo_eq] at h
  obtain ⟨each, heach, hsum⟩ := Option.bind_eq_some_iff.mp h
  obtain ⟨e'', hfewer, hle'⟩ := Date.exists_addMonths_of_le (Nat.mul_le_mul_right each hn) hsum
  obtain ⟨e, hearlier, hle''⟩ := Date.exists_addMonths_le hle hfewer
  refine ⟨e, ?_, Int.le_trans hle'' hle'⟩
  rw [addTo_eq, heach, Option.bind_some, hearlier]

end Cycle

namespace Order

/-- The order for other counts of cycles and of days on top of them. -/
def lasting (o : Order) (cycleCount extraDays : Nat) : Order :=
  { o with cycleCount := cycleCount, extraDays := extraDays }

/-- The end of cycles that are bought in two goes, the second from the end of the first, without extra days. -/
def endInTurn (o : Order) (first second : Nat) (start : Date) : Option Date :=
  ((o.lasting first 0).periodEnd start).bind (o.lasting second 0).periodEnd

variable {o : Order} {start : Date}

theorem periodEnd_lasting_zero (o : Order) (cycles : Nat) (start : Date) :
    (o.lasting cycles 0).periodEnd start = o.cycle.months.bind fun each => start.addMonths (cycles * each) := by
  simp only [periodEnd, lasting, Date.addDays_zero, Option.bind_fun_some, Cycle.addTo_eq]

theorem endInTurn_eq (o : Order) (first second : Nat) (start : Date) :
    o.endInTurn first second start = o.cycle.months.bind fun each =>
      (start.addMonths (first * each)).bind fun d => d.addMonths (second * each) := by
  have hsecond : (o.lasting second 0).periodEnd =
      fun d => o.cycle.months.bind fun each => d.addMonths (second * each) :=
    funext (o.periodEnd_lasting_zero second)
  rw [endInTurn, hsecond, periodEnd_lasting_zero]
  cases o.cycle.months <;> rfl

theorem exists_periodEnd_le {cycles cycles' days days' : Nat} {start' finish : Date} (hcycles : cycles ≤ cycles')
    (hdays : days ≤ days') (hstart : start ≤ start')
    (h : (o.lasting cycles' days').periodEnd start' = some finish) :
    ∃ earlier, (o.lasting cycles days).periodEnd start = some earlier ∧ earlier ≤ finish := by
  obtain ⟨mid', hmid', hfinish⟩ := Option.bind_eq_some_iff.mp h
  obtain ⟨mid, hmid, hle⟩ := Cycle.exists_addTo_le hstart hcycles hmid'
  obtain ⟨earlier, hearlier, hle'⟩ := Date.exists_addDays_le hle hdays hfinish
  exact ⟨earlier, Option.bind_eq_some_iff.mpr ⟨mid, hmid, hearlier⟩, hle'⟩

theorem isSome_endInTurn (o : Order) (first second : Nat) (start : Date) :
    (o.endInTurn first second start).isSome = ((o.lasting (first + second) 0).periodEnd start).isSome := by
  rw [endInTurn_eq, periodEnd_lasting_zero]
  cases o.cycle.months with
  | none => rfl
  | some each => rw [Option.bind_some, Option.bind_some, Nat.add_mul, Date.isSome_addMonths_addMonths]

theorem endInTurn_le {first second : Nat} {inTurn atOnce : Date} (hturn : o.endInTurn first second start = some inTurn)
    (honce : (o.lasting (first + second) 0).periodEnd start = some atOnce) : inTurn ≤ atOnce := by
  rw [endInTurn_eq] at hturn
  rw [periodEnd_lasting_zero] at honce
  obtain ⟨each, heach, hsum⟩ := Option.bind_eq_some_iff.mp hturn
  obtain ⟨mid, hmid, hrest⟩ := Option.bind_eq_some_iff.mp hsum
  rw [heach, Option.bind_some, Nat.add_mul] at honce
  exact Date.addMonths_addMonths_le hmid hrest honce

theorem endInTurn_eq_periodEnd {first second : Nat} (hday : start.dayOfMonth ≤ 28) :
    o.endInTurn first second start = (o.lasting (first + second) 0).periodEnd start := by
  rw [endInTurn_eq, periodEnd_lasting_zero]
  cases o.cycle.months with
  | none => rfl
  | some each => rw [Option.bind_some, Option.bind_some, Nat.add_mul, Date.addMonths_add hday]

/-- A shorter period from an earlier start has an end if the longer one has, and no later one. A period of at least one
cycle ends after it starts. Cycles bought in two goes have an end exactly if they have one at once, it is no later, and
it is the same from one of the first 28 days of a month. -/
theorem periods_monotone (o : Order) :
    (∀ cycles cycles' days days' : Nat, ∀ start start' finish : Date,
      cycles ≤ cycles' → days ≤ days' → start ≤ start' →
      (o.lasting cycles' days').periodEnd start' = some finish →
        ∃ earlier, (o.lasting cycles days).periodEnd start = some earlier ∧ earlier ≤ finish) ∧
      (∀ cycles days : Nat, ∀ start finish : Date, 1 ≤ cycles →
        (o.lasting cycles days).periodEnd start = some finish → start < finish) ∧
      ∀ first second : Nat, ∀ start : Date,
        (o.endInTurn first second start).isSome = ((o.lasting (first + second) 0).periodEnd start).isSome ∧
        (∀ inTurn ∈ o.endInTurn first second start, ∀ atOnce ∈ (o.lasting (first + second) 0).periodEnd start,
          inTurn ≤ atOnce) ∧
        (start.dayOfMonth ≤ 28 →
          o.endInTurn first second start = (o.lasting (first + second) 0).periodEnd start) := by
  refine ⟨?_, ?_, ?_⟩
  · intro cycles cycles' days days' start start' finish hcycles hdays hstart h
    exact exists_periodEnd_le hcycles hdays hstart h
  · intro cycles days start finish hcycles h
    exact lt_of_periodEnd hcycles h
  · intro first second start
    refine ⟨o.isSome_endInTurn first second start, ?_, endInTurn_eq_periodEnd⟩
    intro inTurn hturn atOnce honce
    exact endInTurn_le hturn honce

/-- From 31 January 2024 one month and then another lead to 29 March, and two months at once to 31 March. From
28 January both lead to 28 March, and one month there earlier than two months from the 31st. -/
theorem two_months_from_january :
    let o : Order :=
      { Samples.paidOrder (Samples.reader "reader-1") "FT01" 3500 ⟨19753, by decide⟩ ⟨19782, by decide⟩ with
        cycle := .month }
    let january28 : Date := ⟨19750, by decide⟩
    let january31 : Date := ⟨19753, by decide⟩
    let march29 : Date := ⟨19811, by decide⟩
    let march31 : Date := ⟨19813, by decide⟩
    o.endInTurn 1 1 january31 = some march29 ∧ (o.lasting 2 0).periodEnd january31 = some march31 ∧
      march29 ≤ march31 ∧ january31 < march31 ∧ january28.dayOfMonth ≤ 28 ∧
      o.endInTurn 1 1 january28 = (o.lasting 2 0).periodEnd january28 ∧
      ∃ earlier, (o.lasting 1 0).periodEnd january28 = some earlier ∧ earlier ≤ march31 := by
  intro o january28 january31 march29 march31
  have hturn : o.endInTurn 1 1 january31 = some march29 := by decide
  have honce : (o.lasting 2 0).periodEnd january31 = some march31 := by decide
  obtain ⟨hshorter, hruns, hsplit⟩ := o.periods_monotone
  obtain ⟨_, hle, _⟩ := hsplit 1 1 january31
  obtain ⟨_, _, hsame⟩ := hsplit 1 1 january28
  exact ⟨hturn, honce, hle march29 hturn march31 honce, hruns 2 0 january31 march31 (by decide) honce,
    by decide, hsame (by decide),
    hshorter 1 2 0 0 january28 january31 march31 (by decide) (by decide) (by decide) honce⟩

end Order

end Subscriptions
