import Mathlib.Data.List.Perm.Basic
import Subscriptions.Proofs.Reader
import Subscriptions.Proofs.Sql.Rows
import Subscriptions.Proofs.Store.Sources
import Subscriptions.Sql.Database

/-!
Sources found through a database. Whatever the order in which the rows come that the conditions select, the sources
made of them are those that the tables give, sorted by the day on which they start. A comparison with null selects
nothing, so the test on the ids selects the orders that share one with the reader, and the test on the last day drops no
source with time left.
-/

namespace Subscriptions

set_option autoImplicit false

theorem Source.sortByStart_perm (sources : List Source) : (sortByStart sources).Perm sources :=
  List.mergeSort_perm _ _

theorem Source.pairwise_sortByStart (sources : List Source) :
    (sortByStart sources).Pairwise fun a b => a.startDate ≤ b.startDate := by
  have hsorted : (sortByStart sources).Pairwise fun a b => decide (a.startDate ≤ b.startDate) = true := by
    apply List.pairwise_mergeSort
    · intro a b c hab hbc
      simp only [decide_eq_true_eq, Date.le_def] at hab hbc ⊢
      exact Int.le_trans hab hbc
    · intro a b
      simp only [Bool.or_eq_true, decide_eq_true_eq, Date.le_def]
      exact Int.le_total _ _
  exact hsorted.imp fun h => of_decide_eq_true h

/-- Time left after an instant means a last day after the date of the instant, whatever the time of day. -/
theorem Source.date_lt_of_isActive {s : Source} {asOf : Instant} (h : s.isActive asOf = true) :
    asOf.date < s.endDate := by
  have hbefore : asOf < s.endDate.midnight := of_decide_eq_true h
  rw [Instant.lt_def] at hbefore
  rw [Date.lt_def]
  simp only [Instant.date, Date.midnight] at hbefore ⊢
  omega

theorem Source.endDate_of_ofOrder? {o : Order} {s : Source} (h : ofOrder? o = some s) : o.endDate = some s.endDate := by
  unfold ofOrder? at h
  split at h
  · rename_i hend
    obtain rfl := Option.some.inj h
    exact hend
  · cases h

namespace Sql

namespace Database

variable {α : Type} {d : Database} {dialogue : Dialogue α} {outcome : Except Failure α}

/-- An outcome of a dialogue in which every query is answered with the rows that its condition selects, in any order. -/
inductive Answers (d : Database) : Dialogue α → Except Failure α → Prop
  | done (outcome : Except Failure α) : Answers d (.done outcome) outcome
  | query {r : Relation} {condition : Condition} {limit : Option Nat} {forUpdate : Bool}
      {next : List r.Row → Dialogue α}
      {rows : List r.Row} {outcome : Except Failure α} (selected : rows.Perm (d.select r condition))
      (answered : Answers d (next (cutOff limit rows)) outcome) :
      Answers d (.query r (.select condition limit forUpdate) next) outcome

theorem answers_of_read (h : d.read dialogue = some outcome) : d.Answers dialogue outcome := by
  induction dialogue with
  | done other =>
    obtain rfl : other = outcome := Option.some.inj h
    exact .done _
  | query r statement next ih =>
    cases statement with
    | select condition limit forUpdate => exact .query (List.Perm.refl _) (ih _ h)
    | insert | update => cases h
  | execute => cases h

theorem answers_done_iff {other : Except Failure α} : d.Answers (.done other) outcome ↔ outcome = other := by
  constructor
  · rintro ⟨⟩
    rfl
  · rintro rfl
    exact .done _

/-- A query for all rows is answered with these in some order. -/
theorem answers_select_iff {r : Relation} {condition : Condition} {forUpdate : Bool}
    {next : List r.Row → Dialogue α} :
    d.Answers (.query r (.select condition none forUpdate) next) outcome ↔
      ∃ rows, rows.Perm (d.select r condition) ∧ d.Answers (next rows) outcome := by
  constructor
  · rintro (_ | ⟨selected, answered⟩)
    exact ⟨_, selected, answered⟩
  · rintro ⟨rows, selected, answered⟩
    exact .query selected answered

end Database

/-- Rows in any order are the rows of the orders in some order. -/
theorem exists_map_of_perm {α β : Type} {f : α → β} {rows : List β} {l : List α} (h : rows.Perm (l.map f)) :
    ∃ l' : List α, l'.Perm l ∧ rows = l'.map f := by
  have hmap : List.Forall₂ (fun b a => b = f a) (l.map f) l := by
    rw [List.forall₂_map_left_iff]
    exact List.forall₂_same.mpr fun _ _ => rfl
  obtain ⟨l', hrows, hperm⟩ := List.perm_comp_forall₂ h hmap
  refine ⟨l', hperm, ?_⟩
  rw [← List.forall₂_eq_eq_eq, List.forall₂_map_right_iff]
  exact hrows

section Conditions

variable {reader : Reader} {o : Order} {date : Date}

theorem Cell.equals_text (own : Option String) (id : String) :
    (Cell.ofOption .text own).equals (.text id) = Reader.sameId own (some id) := by
  rw [Bool.eq_iff_iff]
  cases own <;> simp [ofOption, equals, Reader.sameId]

/-- An id that the reader lacks makes no test, and one that the order lacks meets none. -/
theorem Condition.holds_ofReader (h : reader.isEmpty = false) (o : Order) :
    (Condition.ofReader reader).holds (Relation.cell .orders (OrderRow.ofOrder o)) = o.reader.overlaps reader := by
  have hftc : Relation.cell .orders (OrderRow.ofOrder o) "ftc_id" = .ofOption .text o.reader.ftcId := rfl
  have hunion : Relation.cell .orders (OrderRow.ofOrder o) "union_id" = .ofOption .text o.reader.unionId := rfl
  have habsent (own : Option String) : Reader.sameId own none = false := by cases own <;> rfl
  cases hf : reader.ftcId with
  | none =>
    cases hu : reader.unionId with
    | none => simp [Reader.isEmpty, hf, hu] at h
    | some u => simp [ofReader, holds, Test.holds, Reader.overlaps, hf, hu, hunion, Cell.equals_text, habsent]
  | some f =>
    cases hu : reader.unionId with
    | none => simp [ofReader, holds, Test.holds, Reader.overlaps, hf, hu, hftc, Cell.equals_text, habsent]
    | some u => simp [ofReader, holds, Test.holds, Reader.overlaps, hf, hu, hftc, hunion, Cell.equals_text]

theorem Test.holds_isNotNull_confirmed (o : Order) :
    (Test.isNotNull "confirmed_utc").holds (Relation.cell .orders (OrderRow.ofOrder o)) = o.confirmed.isSome := by
  have hcell : Relation.cell .orders (OrderRow.ofOrder o) "confirmed_utc" = .ofOption .instant o.confirmed := rfl
  rw [holds, hcell]
  cases o.confirmed <;> rfl

theorem Test.holds_exceeds_iff :
    (Test.exceeds "end_date" (.date date)).holds (Relation.cell .orders (OrderRow.ofOrder o)) = true ↔
      ∃ last, o.endDate = some last ∧ date < last := by
  have hcell : Relation.cell .orders (OrderRow.ofOrder o) "end_date" = .ofOption .date o.endDate := rfl
  rw [holds, hcell]
  cases o.endDate with
  | none => simp [Cell.ofOption, Cell.exceeds]
  | some last => simp [Cell.ofOption, Cell.exceeds]

end Conditions

/-- The order is one that the query for a reader's running orders selects. -/
def runsFor (reader : Reader) (date : Date) (o : Order) : Bool :=
  o.reader.overlaps reader && o.confirmed.isSome && o.endDate.any fun last => decide (date < last)

section Selection

variable {t : Tables} {reader : Reader} {asOf : Instant} {date : Date}

theorem select_runningOrders (h : reader.isEmpty = false) (t : Tables) (date : Date) :
    (Database.ofTables t).select .orders
        (Condition.ofReader reader ++ [[.isNotNull "confirmed_utc"], [.exceeds "end_date" (.date date)]]) =
      (t.orders.values.filter (runsFor reader date)).map OrderRow.ofOrder := by
  show (t.orders.values.map OrderRow.ofOrder).filter _ = _
  rw [List.filter_map]
  congr 1
  apply List.filter_congr
  intro o _
  have hids := Condition.holds_ofReader h o
  have hconfirmed := Test.holds_isNotNull_confirmed o
  rw [Bool.eq_iff_iff]
  simp only [Condition.holds, Function.comp_apply] at hids ⊢
  rw [List.all_append, hids]
  simp [hconfirmed, Test.holds_exceeds_iff, runsFor, Option.any_eq_true, and_assoc]

theorem mem_select_consumedDraws {ids : List String} {d : Draw} :
    d ∈ (Database.ofTables t).select .proratedOrders
        [[.oneOf "source_order_id" (ids.map .text)], [.isNotNull "consumed_utc"]] ↔
      d ∈ t.draws ∧ d.sourceOrderId ∈ ids ∧ d.isConsumed = true := by
  have hsource : Relation.cell .proratedOrders d "source_order_id" = .text d.sourceOrderId := rfl
  have hconsumed : Relation.cell .proratedOrders d "consumed_utc" = .ofOption .instant d.consumed := rfl
  have hnull : (Cell.ofOption .instant d.consumed ≠ .null) ↔ d.isConsumed = true := by
    unfold Draw.isConsumed
    cases d.consumed <;> simp [Cell.ofOption]
  show d ∈ t.draws.filter _ ↔ _
  rw [List.mem_filter]
  simp [Condition.holds, Test.holds, hsource, hconsumed, hnull, Cell.equals, @eq_comm _ d.sourceOrderId]

/-- Of the orders that were asked about, those are consumed that came back. -/
theorem contains_consumed {ids : List String} {consumed : List Draw} {id : String}
    (h : consumed.Perm ((Database.ofTables t).select .proratedOrders
      [[.oneOf "source_order_id" (ids.map .text)], [.isNotNull "consumed_utc"]])) (hid : id ∈ ids) :
    (consumed.map (·.sourceOrderId)).contains id = t.isConsumed id := by
  have hmem (d : Draw) : d ∈ consumed ↔ d ∈ t.draws ∧ d.sourceOrderId ∈ ids ∧ d.isConsumed = true :=
    h.mem_iff.trans mem_select_consumedDraws
  rw [Bool.eq_iff_iff, List.contains_iff_mem, List.mem_map, Tables.isConsumed_iff]
  constructor
  · rintro ⟨d, hd, hsource⟩
    obtain ⟨hdraw, _, hconsumed⟩ := (hmem d).mp hd
    exact ⟨d, hdraw, hsource, hconsumed⟩
  · rintro ⟨d, hdraw, rfl, hconsumed⟩
    exact ⟨d, (hmem d).mpr ⟨hdraw, hid, hconsumed⟩, rfl⟩

end Selection

theorem mapM_toOrder (orders : List Order) :
    (orders.map OrderRow.ofOrder).mapM OrderRow.toOrder = .ok (orders.map Order.kept) := by
  induction orders with
  | nil => rfl
  | cons o orders ih =>
    rw [List.map_cons, List.mapM_cons, OrderRow.toOrder_ofOrder, ih]
    rfl

/-- The rows of orders make the sources of the orders: what a row cuts off is no part of a source. -/
theorem sourcesOf_map (orders : List Order) (consumed : List Draw) (asOf : Instant) :
    Dialogue.sourcesOf (orders.map OrderRow.ofOrder) consumed asOf =
      .ok (Source.sortByStart (((orders.filter fun o => !(consumed.map (·.sourceOrderId)).contains o.id).filterMap
        Source.ofOrder?).filter fun s => s.isActive asOf)) := by
  have hkept : Source.ofOrder? ∘ Order.kept = Source.ofOrder? := funext fun _ => rfl
  simp only [Dialogue.sourcesOf]
  rw [List.filter_map, mapM_toOrder]
  show Except.ok (Source.sortByStart ((List.filterMap Source.ofOrder? (List.map Order.kept _)).filter _)) = _
  rw [List.filterMap_map, hkept]
  rfl

/-- The tests on a running order refuse no source that has time left. -/
theorem runsFor_of_isActive {o : Order} {s : Source} {asOf : Instant} (reader : Reader)
    (hs : Source.ofOrder? o = some s) (h : s.isActive asOf = true) : runsFor reader asOf.date o = o.reader.overlaps reader := by
  have hconfirmed : o.confirmed.isSome = true := (Source.ofOrder?_eq_some hs).1
  have hend : o.endDate = some s.endDate := Source.endDate_of_ofOrder? hs
  have hlast : asOf.date < s.endDate := Source.date_lt_of_isActive h
  simp [runsFor, hconfirmed, hend, hlast]

/-- What the conditions and the last check leave is what the tables look for. -/
theorem sources_of_running (t : Tables) (reader : Reader) (asOf : Instant) :
    (((t.orders.values.filter (runsFor reader asOf.date)).filter fun o => !t.isConsumed o.id).filterMap
        Source.ofOrder?).filter (fun s => s.isActive asOf) =
      ((t.orders.values.filter fun o => o.reader.overlaps reader).filterMap Source.ofOrder?).filter fun s =>
        s.isActive asOf && !t.isConsumed s.orderId := by
  simp only [List.filter_filterMap, List.filterMap_filter]
  apply List.filterMap_congr
  intro o _
  cases hsource : Source.ofOrder? o with
  | none => simp
  | some s =>
    obtain ⟨_, hid, _⟩ := Source.ofOrder?_eq_some hsource
    cases hactive : s.isActive asOf with
    | false =>
      cases runsFor reader asOf.date o <;> cases t.isConsumed o.id <;> cases o.reader.overlaps reader <;>
        simp [Option.filter_some, hactive]
    | true =>
      rw [runsFor_of_isActive reader hsource hactive]
      cases o.reader.overlaps reader <;> cases hused : t.isConsumed o.id <;> 
        simp [Option.filter_some, hactive, hid, hused]

/-- The answers to the two queries decide the outcome. -/
theorem answers_findSources_iff {d : Database} {reader : Reader} {asOf : Instant}
    {outcome : Except Failure (List Source)} (h : reader.isEmpty = false) :
    d.Answers (Dialogue.findSources reader asOf) outcome ↔
      ∃ rows, rows.Perm (d.select .orders (Condition.ofReader reader ++
          [[.isNotNull "confirmed_utc"], [.exceeds "end_date" (.date asOf.date)]])) ∧
        ∃ consumed : List Draw, consumed.Perm (d.select .proratedOrders
          [[.oneOf "source_order_id" ((rows.map OrderRow.id).map .text)], [.isNotNull "consumed_utc"]]) ∧
        outcome = (Dialogue.sourcesOf rows consumed asOf).mapError .ofUnknownName := by
  unfold Dialogue.findSources Dialogue.runningOrders Dialogue.consumedDraws Dialogue.ofRow
  rw [if_neg (by simp [h]), Database.answers_select_iff]
  simp only [Database.answers_select_iff, Database.answers_done_iff]

theorem found_of_answers {t : Tables} {reader : Reader} {asOf : Instant} {outcome : Except Failure (List Source)}
    (hids : reader.isEmpty = false) (h : (Database.ofTables t).Answers (Dialogue.findSources reader asOf) outcome) :
    ∃ found, outcome = .ok (Source.sortByStart found) ∧ found.Perm (t.sources reader asOf) := by
  obtain ⟨rows, hrows, consumed, hconsumed, rfl⟩ := (answers_findSources_iff hids).mp h
  rw [select_runningOrders hids] at hrows
  obtain ⟨own, hown, rfl⟩ := exists_map_of_perm hrows
  refine ⟨((own.filter fun o => !t.isConsumed o.id).filterMap Source.ofOrder?).filter fun s => s.isActive asOf, ?_, ?_⟩
  · have hfree : (own.filter fun o => !(consumed.map (·.sourceOrderId)).contains o.id) =
        own.filter fun o => !t.isConsumed o.id := by
      apply List.filter_congr
      intro o ho
      have hid : o.id ∈ (own.map OrderRow.ofOrder).map OrderRow.id := by
        rw [List.map_map]
        exact List.mem_map.mpr ⟨o, ho, rfl⟩
      rw [contains_consumed hconsumed hid]
    rw [sourcesOf_map, hfree]
    rfl
  · have hperm := ((hown.filter fun o => !t.isConsumed o.id).filterMap Source.ofOrder?).filter fun s => s.isActive asOf
    rw [sources_of_running] at hperm
    exact hperm.trans (Source.sortByStart_perm _).symm

theorem exists_read_findSources (t : Tables) (reader : Reader) (asOf : Instant) :
    ∃ found, (Database.ofTables t).read (Dialogue.findSources reader asOf) = some (.ok found) := by
  have hread : ∃ outcome, (Database.ofTables t).read (Dialogue.findSources reader asOf) = some outcome := by
    unfold Dialogue.findSources
    split <;> exact ⟨_, rfl⟩
  obtain ⟨outcome, hread⟩ := hread
  cases hids : reader.isEmpty with
  | true =>
    rw [Dialogue.findSources, if_pos hids]
    exact ⟨[], rfl⟩
  | false =>
    obtain ⟨found, rfl, _⟩ := found_of_answers hids (Database.answers_of_read hread)
    exact ⟨_, hread⟩

theorem sources_of_isEmpty {t : Tables} {reader : Reader} {asOf : Instant} (h : reader.isEmpty = true) :
    t.sources reader asOf = [] := by
  have hapart (o : Order) : o.reader.overlaps reader = false := by
    rw [Reader.overlaps_comm]
    apply Bool.eq_false_iff.mpr
    intro hoverlaps
    rw [Reader.isEmpty_eq_false_of_overlaps hoverlaps] at h
    cases h
  simp [Tables.sources, Source.sortByStart, hapart]

/-- From the rows of the tables, in whatever order they come, the sources are found that the tables give, sorted by the
day on which they start; a reader without ids has none, and for him nothing is asked. The test on the ids selects
exactly the orders that share one with the reader, and the test on the last day selects every order whose source has
time left. -/
theorem sources_agree (t : Tables) (reader : Reader) (asOf : Instant) :
    (∃ found, (Database.ofTables t).read (Dialogue.findSources reader asOf) = some (.ok found)) ∧
    (∀ outcome, (Database.ofTables t).Answers (Dialogue.findSources reader asOf) outcome →
      ∃ found, outcome = .ok found ∧ (found.Pairwise fun a b => a.startDate ≤ b.startDate) ∧
        found.Perm (t.sources reader asOf)) ∧
    (reader.isEmpty = true → Dialogue.findSources reader asOf = .ok []) ∧
    (reader.isEmpty = false → ∀ o : Order,
      (Condition.ofReader reader).holds (Relation.cell .orders (OrderRow.ofOrder o)) = o.reader.overlaps reader) ∧
    ∀ (o : Order) (s : Source), Source.ofOrder? o = some s → s.isActive asOf = true →
      (Test.exceeds "end_date" (.date asOf.date)).holds (Relation.cell .orders (OrderRow.ofOrder o)) = true := by
  refine ⟨exists_read_findSources t reader asOf, ?_, ?_, ?_, ?_⟩
  · intro outcome h
    cases hids : reader.isEmpty with
    | true =>
      rw [Dialogue.findSources, if_pos hids] at h
      refine ⟨[], Database.answers_done_iff.mp h, List.Pairwise.nil, ?_⟩
      rw [sources_of_isEmpty hids]
    | false =>
      obtain ⟨found, rfl, hperm⟩ := found_of_answers hids h
      exact ⟨_, rfl, Source.pairwise_sortByStart found, (Source.sortByStart_perm found).trans hperm⟩
  · intro hids
    rw [Dialogue.findSources, if_pos hids]
  · intro hids o
    exact Condition.holds_ofReader hids o
  · intro o s hs hactive
    exact Test.holds_exceeds_iff.mpr ⟨s.endDate, Source.endDate_of_ofOrder? hs, Source.date_lt_of_isActive hactive⟩

/-- At noon of the last full day of a year that was paid for first, a linked reader has two sources. The later one is
his under the union id alone; a third order is not confirmed and a fourth has been used up. -/
theorem two_sources_at_noon :
    let order (id : String) (reader : Reader) (start finish : Int)
        (h : (-96465292 ≤ start ∧ start ≤ 95026236) ∧ -96465292 ≤ finish ∧ finish ≤ 95026236) : Order :=
      Samples.paidOrder reader id 25800 ⟨start, h.1⟩ ⟨finish, h.2⟩
    let linked : Reader := ⟨some "x", some "y"⟩
    let later := order "FT02" ⟨none, some "y"⟩ 20241 20606 (by decide)
    let first := order "FT01" linked 19875 20241 (by decide)
    let unpaid := { order "FT03" linked 19875 20241 (by decide) with confirmed := none }
    let used := order "FT04" ⟨some "x", none⟩ 19875 20241 (by decide)
    let noon : Instant := ⟨20240 * 86400 + 43200, 0, by decide, by decide⟩
    let t : Tables := ⟨.empty,
      (((Table.empty.insert "FT02" later).insert "FT01" first).insert "FT03" unpaid).insert "FT04" used,
      [⟨"FT04", 100, noon, some noon, "FT05"⟩]⟩
    (∃ found, (Database.ofTables t).read (Dialogue.findSources linked noon) = some (.ok found) ∧
      (found.Pairwise fun a b => a.startDate ≤ b.startDate) ∧ found.Perm (t.sources linked noon) ∧
      (found.map (·.orderId)).Perm ["FT02", "FT01"]) ∧
      (Condition.ofReader linked).holds (Relation.cell .orders (OrderRow.ofOrder later)) = true ∧
      Dialogue.findSources ⟨none, none⟩ noon = .ok [] := by
  intro order linked later first unpaid used noon t
  obtain ⟨⟨found, hread⟩, hanswers, _, hids, _⟩ := sources_agree t linked noon
  obtain ⟨sources, hsources, hsorted, hperm⟩ := hanswers _ (Database.answers_of_read hread)
  obtain rfl : found = sources := Except.ok.inj hsources
  have hfound : (found.map (·.orderId)).Perm ["FT02", "FT01"] :=
    (hperm.trans (Source.sortByStart_perm _)).map (·.orderId)
  obtain ⟨_, _, hempty, _, _⟩ := sources_agree t ⟨none, none⟩ noon
  exact ⟨⟨found, hread, hsorted, hperm, hfound⟩, hids rfl later, hempty rfl⟩

end Sql

end Subscriptions
