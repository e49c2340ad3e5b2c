import Subscriptions.Membership
import Subscriptions.Plan

/-!
Plans, memberships and orders to try things out with.
-/

namespace Subscriptions.Samples

set_option autoImplicit false

def catalogue : Catalogue :=
  Catalogue.ofList
    [PlanSpec.plan
        { id := "standard_month", tier := some .standard, cycle := some .month, price := some 3500 },
      PlanSpec.plan
        { id := "standard_year", tier := some .standard, cycle := some .year, price := some 25800 },
      PlanSpec.plan
        { id := "premium_year", tier := some .premium, cycle := some .year, price := some 199800 }]

def premiumMonth : Catalogue :=
  Catalogue.ofList
    [PlanSpec.plan
        { id := "standard_year", tier := some .standard, cycle := some .year, price := some 25800 },
      PlanSpec.plan
        { id := "premium_month", tier := some .premium, cycle := some .month, price := some 28000 }]

def reader (account : String) : Reader := ⟨some account, none⟩

def member (ids : Reader) (id : String) (tier : Tier) (expireDate : Date) : Membership where
  ids := ids
  id := some id
  tier := tier
  cycle := .year
  expireDate := some expireDate
  paymentMethod := .alipay
  autoRenew := false
  status := .none
  foreignSubId := none

def autoRenewing (m : Membership) (method : PaymentMethod) (foreignSubId : String) : Membership :=
  { m with
    paymentMethod := method
    autoRenew := true
    status := .active
    foreignSubId := some foreignSubId }

def withStatus (m : Membership) (status : Status) : Membership := { m with status := status }

/-- A confirmed order over the given period, fit to be a source of balance. -/
def paidOrder (reader : Reader) (id : String) (amount : Int) (start finish : Date) : Order where
  id := id
  reader := reader
  planId := "standard_year"
  tier := .standard
  cycle := .year
  price := amount
  amount := amount
  currency := "cny"
  cycleCount := 1
  extraDays := 1
  kind := .create
  paymentMethod := .wechat
  created := start.midnight
  confirmed := some start.midnight
  startDate := some start
  endDate := some finish
  snapshotId := none

end Subscriptions.Samples
