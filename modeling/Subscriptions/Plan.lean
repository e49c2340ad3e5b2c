import Subscriptions.Cents
import Subscriptions.Terms
import Subscriptions.Text.Lowercase

/-!
Plans that readers can buy, and the catalogue that holds them by id. Prices are in cents.
-/

namespace Subscriptions

set_option autoImplicit false

structure Plan where
  id : String
  tier : Tier
  cycle : Cycle
  price : Int
  /-- What is taken off the list price, except for upgrades. -/
  discount : Int
  currency : String
  description : Option String
deriving DecidableEq

/-- Why a plan cannot be sold as it is. -/
inductive PlanFault
  | noTier
  | noCycle
  | priceNotPositive
  | discountOutOfRange
  | foreignCurrency (currency : String)
deriving DecidableEq

def PlanFault.message : PlanFault → String
  | .noTier => "tier must not be none"
  | .noCycle => "cycle must not be none"
  | .priceNotPositive => "price must be positive"
  | .discountOutOfRange => "discount must be between 0 and the price"
  | .foreignCurrency currency => s!"currency '{currency}' is not settled here"

namespace Plan

def netPrice (p : Plan) : Int := max (wrapCents (p.price - p.discount)) 0

def checkedNetPrice (p : Plan) : Option Int := do
  let rest ← Width.bits64.sub p.price p.discount
  return max rest 0

def fault? (p : Plan) : Option PlanFault :=
  if p.tier = .none then some .noTier
  else if p.cycle = .none then some .noCycle
  else if p.price ≤ 0 then some .priceNotPositive
  else if p.discount < 0 ∨ p.price < p.discount then some .discountOutOfRange
  else none

theorem fault?_eq_none_iff {p : Plan} :
    p.fault? = none ↔ p.tier ≠ .none ∧ p.cycle ≠ .none ∧ 0 < p.price ∧ 0 ≤ p.discount ∧
      p.discount ≤ p.price := by
  simp only [fault?]
  constructor
  · intro h
    split at h
    · cases h
    split at h
    · cases h
    split at h
    · cases h
    split at h
    · cases h
    · exact ⟨by assumption, by assumption, by omega, by omega, by omega⟩
  · rintro ⟨ht, hc, hp, hd, hdp⟩
    rw [if_neg ht, if_neg hc, if_neg (by omega), if_neg (by omega)]

end Plan

/-- What is said of a plan when it is defined. All but the id may be left open. -/
structure PlanSpec where
  id : String
  tier : Option Tier := none
  cycle : Option Cycle := none
  price : Option Int := none
  discount : Option Int := none
  currency : Option String := none
  description : Option String := none
deriving DecidableEq

/-- The plan that is defined. Currencies are kept in lower case. -/
def PlanSpec.plan (s : PlanSpec) : Plan where
  id := s.id
  tier := s.tier.getD .none
  cycle := s.cycle.getD .none
  price := s.price.getD 0
  discount := s.discount.getD 0
  currency := (s.currency.map Text.lowercase).getD "cny"
  description := s.description

/-- Plans by id, in the order in which they were first added. -/
structure Catalogue where
  plans : List Plan

namespace Catalogue

def empty : Catalogue := ⟨[]⟩

def get? (c : Catalogue) (id : String) : Option Plan := c.plans.find? (·.id == id)

/-- A plan takes the place of an earlier one with the same id. -/
def add (c : Catalogue) (p : Plan) : Catalogue :=
  if c.plans.any (·.id == p.id) then
    ⟨c.plans.map fun q => if q.id == p.id then p else q⟩
  else ⟨c.plans ++ [p]⟩

def find? (c : Catalogue) (tier : Tier) (cycle : Cycle) : Option Plan :=
  c.plans.find? fun p => p.tier == tier && p.cycle == cycle

def size (c : Catalogue) : Nat := c.plans.length

def ofList (plans : List Plan) : Catalogue := plans.foldl add empty

end Catalogue

end Subscriptions
