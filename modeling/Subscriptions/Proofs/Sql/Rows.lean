import Subscriptions.Proofs.LongerPeriod
import Subscriptions.Proofs.Vocabulary
import Subscriptions.Samples
import Subscriptions.Sql.Dialogue

/-!
What comes back from a table. A row is read from the cells that its insertion has sent, column by column. Memberships
and draws come back as they were. An order comes back with its counts cut off at the largest that are kept; no period is
that long, so every period of the order ends on the same date as before, or has no end as before.
-/

namespace Subscriptions.Sql

set_option autoImplicit false

namespace Cell

def text? : Cell → Option String
  | .text s => some s
  | _ => none

def integer? : Cell → Option Int
  | .integer n => some n
  | _ => none

def bool? : Cell → Option Bool
  | .bool b => some b
  | _ => none

def date? : Cell → Option Date
  | .date d => some d
  | _ => none

def instant? : Cell → Option Instant
  | .instant t => some t
  | _ => none

/-- A cell of a column that may hold null. -/
def orNull {α : Type} (read : Cell → Option α) : Cell → Option (Option α)
  | .null => some none
  | cell => (read cell).map some

theorem orNull_text? (s : Option String) : orNull text? (.ofOption .text s) = some s := by
  cases s <;> rfl

theorem orNull_date? (d : Option Date) : orNull date? (.ofOption .date d) = some d := by
  cases d <;> rfl

theorem orNull_instant? (t : Option Instant) : orNull instant? (.ofOption .instant t) = some t := by
  cases t <;> rfl

end Cell

namespace Relation

/-- The row of a relation that has the given cell in each column. -/
def rowOf? : (r : Relation) → (String → Cell) → Option r.Row
  | .memberships, cell => do
    return {
      compoundId := ← (cell "compound_id").text?
      ftcId := ← (cell "ftc_id").orNull Cell.text?
      unionId := ← (cell "union_id").orNull Cell.text?
      membershipId := ← (cell "membership_id").orNull Cell.text?
      tier := ← (cell "tier").text?
      cycle := ← (cell "cycle").text?
      expireDate := ← (cell "expire_date").orNull Cell.date?
      paymentMethod := ← (cell "payment_method").text?
      autoRenew := ← (cell "auto_renew").bool?
      status := ← (cell "status").text?
      foreignSubId := ← (cell "foreign_sub_id").orNull Cell.text? }
  | .orders, cell => do
    return {
      id := ← (cell "id").text?
      ftcId := ← (cell "ftc_id").orNull Cell.text?
      unionId := ← (cell "union_id").orNull Cell.text?
      planId := ← (cell "plan_id").text?
      tier := ← (cell "tier").text?
      cycle := ← (cell "cycle").text?
      price := ← (cell "price").integer?
      amount := ← (cell "amount").integer?
      currency := ← (cell "currency").text?
      cycleCount := ← (cell "cycle_count").integer?
      extraDays := ← (cell "extra_days").integer?
      kind := ← (cell "kind").text?
      paymentMethod := ← (cell "payment_method").text?
      created := ← (cell "created_utc").instant?
      confirmed := ← (cell "confirmed_utc").orNull Cell.instant?
      startDate := ← (cell "start_date").orNull Cell.date?
      endDate := ← (cell "end_date").orNull Cell.date?
      snapshotId := ← (cell "snapshot_id").orNull Cell.text? }
  | .proratedOrders, cell => do
    return {
      sourceOrderId := ← (cell "source_order_id").text?
      balance := ← (cell "balance").integer?
      created := ← (cell "created_utc").instant?
      consumed := ← (cell "consumed_utc").orNull Cell.instant?
      upgradeOrderId := ← (cell "upgrade_order_id").text? }

/-- The cells of a row whose insertion sends the given values. -/
def stored (r : Relation) (values : List Cell) (column : String) : Cell :=
  ((r.columns.zip values).lookup column).getD .null

/-- The row that is read back after the given one has been inserted. -/
def readBack? (r : Relation) (row : r.Row) : Option r.Row :=
  r.rowOf? (r.stored (Statement.insert [row] r.columns).sent.values)

theorem values_insert (r : Relation) (row : r.Row) (returning : List String) :
    (Statement.insert [row] returning).sent.values = r.cells row := by
  cases r <;> rfl

theorem rowOf?_cell (r : Relation) (row : r.Row) : r.rowOf? (r.cell row) = some row := by
  cases r with
  | memberships =>
    have hftc : (cell .memberships row "ftc_id").orNull Cell.text? = some row.ftcId := Cell.orNull_text? _
    have hunion : (cell .memberships row "union_id").orNull Cell.text? = some row.unionId := Cell.orNull_text? _
    have hid : (cell .memberships row "membership_id").orNull Cell.text? = some row.membershipId := Cell.orNull_text? _
    have hlast : (cell .memberships row "expire_date").orNull Cell.date? = some row.expireDate := Cell.orNull_date? _
    have hforeign : (cell .memberships row "foreign_sub_id").orNull Cell.text? = some row.foreignSubId :=
      Cell.orNull_text? _
    simp only [rowOf?, hftc, hunion, hid, hlast, hforeign]
    rfl
  | orders =>
    have hftc : (cell .orders row "ftc_id").orNull Cell.text? = some row.ftcId := Cell.orNull_text? _
    have hunion : (cell .orders row "union_id").orNull Cell.text? = some row.unionId := Cell.orNull_text? _
    have hconfirmed : (cell .orders row "confirmed_utc").orNull Cell.instant? = some row.confirmed :=
      Cell.orNull_instant? _
    have hstart : (cell .orders row "start_date").orNull Cell.date? = some row.startDate := Cell.orNull_date? _
    have hend : (cell .orders row "end_date").orNull Cell.date? = some row.endDate := Cell.orNull_date? _
    have hsnapshot : (cell .orders row "snapshot_id").orNull Cell.text? = some row.snapshotId := Cell.orNull_text? _
    simp only [rowOf?, hftc, hunion, hconfirmed, hstart, hend, hsnapshot]
    rfl
  | proratedOrders =>
    have hconsumed : (cell .proratedOrders row "consumed_utc").orNull Cell.instant? = some row.consumed :=
      Cell.orNull_instant? _
    simp only [rowOf?, hconsumed]
    rfl

@[simp] theorem readBack?_eq (r : Relation) (row : r.Row) : r.readBack? row = some row := by
  have hcells : r.stored (Statement.insert [row] r.columns).sent.values = r.cell row := by
    rw [values_insert]
    rfl
  rw [readBack?, hcells, rowOf?_cell]

end Relation

namespace MemberRow

variable {m : Membership} {row : MemberRow}

theorem ofMembership?_eq_none_iff : ofMembership? m = none ↔ m.ids.ftcId = none ∧ m.ids.unionId = none := by
  simp [ofMembership?, Reader.compoundId_eq_none_iff, Reader.isEmpty]

theorem of_ofMembership? (h : ofMembership? m = some row) :
    some row.compoundId = m.ids.compoundId ∧ row.toMembership = .ok m := by
  obtain ⟨key, hkey, rfl⟩ := Option.map_eq_some_iff.mp h
  have htier : Vocabulary.parse m.tier.name = .ok m.tier := Vocabulary.parse_name m.tier
  have hcycle : Vocabulary.parse m.cycle.name = .ok m.cycle := Vocabulary.parse_name m.cycle
  have hmethod : Vocabulary.parse m.paymentMethod.name = .ok m.paymentMethod := Vocabulary.parse_name m.paymentMethod
  have hstatus : Vocabulary.parse m.status.name = .ok m.status := Vocabulary.parse_name m.status
  refine ⟨hkey.symm, ?_⟩
  simp only [toMembership, htier, hcycle, hmethod, hstatus]
  rfl

end MemberRow

theorem readCount_keepCount (n : Nat) : readCount (keepCount n) = min n 2147483647 := by
  simp only [readCount, keepCount]
  omega

end Sql

/-- The order with its counts cut off at the largest that a row keeps. -/
def Order.kept (o : Order) : Order := o.lasting (min o.cycleCount 2147483647) (min o.extraDays 2147483647)

theorem Sql.OrderRow.toOrder_ofOrder (o : Order) : (OrderRow.ofOrder o).toOrder = .ok o.kept := by
  have htier : Vocabulary.parse o.tier.name = .ok o.tier := Vocabulary.parse_name o.tier
  have hcycle : Vocabulary.parse o.cycle.name = .ok o.cycle := Vocabulary.parse_name o.cycle
  have hkind : Vocabulary.parse o.kind.name = .ok o.kind := Vocabulary.parse_name o.kind
  have hmethod : Vocabulary.parse o.paymentMethod.name = .ok o.paymentMethod := Vocabulary.parse_name o.paymentMethod
  simp only [toOrder, ofOrder, htier, hcycle, hkind, hmethod, readCount_keepCount]
  rfl

/-- No two dates are as many months apart as the largest count that a row keeps. -/
theorem Date.addMonths_eq_none {d : Date} {n : Nat} (hn : 2147483647 ≤ n) : d.addMonths n = none := by
  rw [← Option.not_isSome_iff_eq_none, isSome_addMonths_iff]
  have hfirst := d.month_bounds
  omega

theorem Date.addDays_eq_none {d : Date} {n : Nat} (hn : 2147483647 ≤ n) : d.addDays n = none := by
  have hfirst := d.inRange
  rw [addDays, ofDay?, dif_neg]
  omega

theorem Cycle.addTo_min (c : Cycle) (d : Date) (n : Nat) : c.addTo d (min n 2147483647) = c.addTo d n := by
  rcases Nat.le_total n 2147483647 with hle | hge
  · rw [Nat.min_eq_left hle]
  · rw [Nat.min_eq_right hge, addTo_eq, addTo_eq]
    cases c with
    | none => rfl
    | month | year =>
      simp only [months, Option.bind_some]
      rw [Date.addMonths_eq_none (by omega), Date.addMonths_eq_none (by omega)]

theorem Date.addDays_min (d : Date) (n : Nat) : d.addDays (min n 2147483647) = d.addDays n := by
  rcases Nat.le_total n 2147483647 with hle | hge
  · rw [Nat.min_eq_left hle]
  · rw [Nat.min_eq_right hge, addDays_eq_none (Nat.le_refl _), addDays_eq_none hge]

theorem Order.periodEnd_kept (o : Order) (start : Date) : o.kept.periodEnd start = o.periodEnd start := by
  simp only [periodEnd, kept, lasting, Cycle.addTo_min, Date.addDays_min]

namespace Sql

/-- A membership comes back as it was, from a row under its reader's compound id; it has no row exactly if both ids are
absent, and then nothing is sent and the failure says so. An order comes back but for counts above the largest that are
kept, which do not change where its periods end. A draw comes back as it was. -/
theorem values_read_back :
    (∀ m : Membership, m.ids.isEmpty = false → ∃ row, MemberRow.ofMembership? m = some row ∧
      some row.compoundId = m.ids.compoundId ∧
      (Relation.readBack? .memberships row).map MemberRow.toMembership = some (.ok m)) ∧
    (∀ m : Membership, MemberRow.ofMembership? m = none ↔ m.ids.ftcId = none ∧ m.ids.unionId = none) ∧
    (∀ m : Membership, m.ids.isEmpty = true →
      Dialogue.createMember m = .fail (.invalidInput "membership has no reader id") ∧
      Dialogue.updateMember m = .fail (.invalidInput "membership has no reader id")) ∧
    (∀ o : Order, (Relation.readBack? .orders (OrderRow.ofOrder o)).map OrderRow.toOrder =
        some (.ok { o with cycleCount := min o.cycleCount 2147483647, extraDays := min o.extraDays 2147483647 }) ∧
      ∀ start : Date, Order.periodEnd
        { o with cycleCount := min o.cycleCount 2147483647, extraDays := min o.extraDays 2147483647 } start =
          o.periodEnd start) ∧
    ∀ d : Draw, Relation.readBack? .proratedOrders d = some d := by
  refine ⟨?_, ?_, ?_, ?_, ?_⟩
  · intro m hids
    have hrow : MemberRow.ofMembership? m ≠ none := by
      intro hnone
      obtain ⟨hftc, hunion⟩ := MemberRow.ofMembership?_eq_none_iff.mp hnone
      simp [Reader.isEmpty, hftc, hunion] at hids
    obtain ⟨row, hrow⟩ := Option.ne_none_iff_exists'.mp hrow
    obtain ⟨hkey, hback⟩ := MemberRow.of_ofMembership? hrow
    refine ⟨row, hrow, hkey, ?_⟩
    rw [Relation.readBack?_eq, Option.map_some, hback]
  · intro m
    exact MemberRow.ofMembership?_eq_none_iff
  · intro m hids
    have hrow : MemberRow.ofMembership? m = none := by
      simpa [MemberRow.ofMembership?_eq_none_iff, Reader.isEmpty] using hids
    simp only [Dialogue.createMember, Dialogue.updateMember, hrow]
    exact ⟨rfl, rfl⟩
  · intro o
    refine ⟨?_, o.periodEnd_kept⟩
    rw [Relation.readBack?_eq, Option.map_some, OrderRow.toOrder_ofOrder]
    rfl
  · intro d
    exact Relation.readBack?_eq .proratedOrders d

/-- A membership under a union id alone comes back as it was, and an order for more cycles and days than a row keeps for
as many as it keeps. Such an order has no end from any date. -/
theorem longest_order_cut_off :
    let m := Samples.member ⟨none, some "oAbC"⟩ "mmb_1" .premium ⟨20240, by decide⟩
    let o := (Samples.paidOrder m.ids "FT01" 25800 ⟨19875, by decide⟩ ⟨20241, by decide⟩).lasting 4294967295 2147483648
    let start : Date := ⟨-96465292, by decide⟩
    m.ids.isEmpty = false ∧
      (∃ row, MemberRow.ofMembership? m = some row ∧ some row.compoundId = some "oAbC" ∧
        (Relation.readBack? .memberships row).map MemberRow.toMembership = some (.ok m)) ∧
      (Reader.mk none none).isEmpty = true ∧
      Dialogue.createMember (Membership.zero ⟨none, none⟩) = .fail (.invalidInput "membership has no reader id") ∧
      (Relation.readBack? .orders (OrderRow.ofOrder o)).map OrderRow.toOrder =
        some (.ok (o.lasting 2147483647 2147483647)) ∧
      (o.lasting 2147483647 2147483647).periodEnd start = none ∧ o.periodEnd start = none := by
  intro m o start
  obtain ⟨hmembers, _, hnone, horders, _⟩ := values_read_back
  obtain ⟨hback, hend⟩ := horders o
  have hendless : o.periodEnd start = none := by decide
  exact ⟨rfl, hmembers m rfl, rfl, (hnone (Membership.zero ⟨none, none⟩) rfl).1, hback,
    (hend start).trans hendless, hendless⟩

end Sql

end Subscriptions
