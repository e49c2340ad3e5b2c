import Subscriptions.Json.Numeral

/-!
JSON values. An integer is a numeral without point, exponent or negative zero, of any size. A text whose
escapes leave half a surrogate pair over is no text, but still a value that may be passed over.
-/

namespace Subscriptions

set_option autoImplicit false

inductive Json
  | null
  | bool (b : Bool)
  | integer (n : Int)
  /-- The digits of a numeral and the power of ten that they are multiplied by. -/
  | decimal (negative : Bool) (digits : Nat) (exponent : Int)
  | text (s : String)
  /-- A text, or an object with a key, that holds half a surrogate pair. -/
  | garbled
  | list (items : List Json)
  | object (fields : List (String × Json))

namespace Json

instance : Inhabited Json := ⟨.null⟩

mutual
def depth : Json → Nat
  | .list items => 1 + depthOfList items
  | .object fields => 1 + depthOfFields fields
  | _ => 0
def depthOfList : List Json → Nat
  | [] => 0
  | j :: rest => max j.depth (depthOfList rest)
def depthOfFields : List (String × Json) → Nat
  | [] => 0
  | (_, j) :: rest => max j.depth (depthOfFields rest)
end

mutual
/-- Every part of a value can be taken up for itself: numbers as doubles and texts as texts. -/
def isSound : Json → Bool
  | .integer n => isFiniteNumeral n.natAbs 0
  | .decimal _ digits exponent => isFiniteNumeral digits exponent
  | .garbled => false
  | .list items => areSound items
  | .object fields => areSoundFields fields
  | .null | .bool _ | .text _ => true
def areSound : List Json → Bool
  | [] => true
  | j :: rest => j.isSound && areSound rest
def areSoundFields : List (String × Json) → Bool
  | [] => true
  | (_, j) :: rest => j.isSound && areSoundFields rest
end

end Json

end Subscriptions
