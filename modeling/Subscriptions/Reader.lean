/-!
Readers. A reader is known by an account id, by a union id of the messenger he signs in with, or by both
once they have been linked.
-/

namespace Subscriptions

set_option autoImplicit false

structure Reader where
  ftcId : Option String
  unionId : Option String
deriving DecidableEq

namespace Reader

/-- The id under which things are kept for a reader: the account id if there is one. -/
def compoundId (r : Reader) : Option String := r.ftcId.or r.unionId

def isEmpty (r : Reader) : Bool := r.ftcId.isNone && r.unionId.isNone

/-- Both are present and equal; two absent ids have nothing in common. -/
def sameId (a b : Option String) : Bool := a.isSome && a == b

def overlaps (a b : Reader) : Bool := sameId a.ftcId b.ftcId || sameId a.unionId b.unionId

/-- The ids of both; where both have one, the first keeps its own. -/
def merge (a b : Reader) : Reader where
  ftcId := a.ftcId.or b.ftcId
  unionId := a.unionId.or b.unionId

theorem sameId_iff {a b : Option String} : sameId a b = true ↔ ∃ x, a = some x ∧ b = some x := by
  cases a with
  | none => simp [sameId]
  | some x => simp [sameId, @eq_comm _ _ b]

theorem sameId_comm (a b : Option String) : sameId a b = sameId b a := by
  rw [Bool.eq_iff_iff, sameId_iff, sameId_iff]
  exact exists_congr fun _ => and_comm

theorem overlaps_comm (a b : Reader) : a.overlaps b = b.overlaps a := by
  simp only [overlaps, sameId_comm]

theorem compoundId_eq_none_iff {r : Reader} : r.compoundId = none ↔ r.isEmpty = true := by
  cases r with
  | mk f u => cases f <;> cases u <;> simp [compoundId, isEmpty]

end Reader

end Subscriptions
