import Subscriptions.Sql.Row

/-!
Conditions on rows. A condition is a conjunction of groups of tests, and of each group one test is
enough. A comparison with null is never true; as nothing is ever negated, there is no need to tell what is
unknown from what is false.
-/

namespace Subscriptions.Sql

set_option autoImplicit false

inductive Test
  | equals (column : String) (value : Cell)
  | exceeds (column : String) (value : Cell)
  | oneOf (column : String) (values : List Cell)
  | isNull (column : String)
  | isNotNull (column : String)
deriving DecidableEq

/-- The groups of a condition. A group without tests restricts nothing. -/
abbrev Condition := List (List Test)

def Cell.equals (a b : Cell) : Bool := a != .null && a == b

def Cell.exceeds : Cell → Cell → Bool
  | .integer m, .integer n => decide (n < m)
  | .date d, .date e => decide (e < d)
  | .instant t, .instant u => decide (u < t)
  | _, _ => false

def Test.holds (cell : String → Cell) : Test → Bool
  | .equals column value => (cell column).equals value
  | .exceeds column value => (cell column).exceeds value
  | .oneOf column values => values.any fun value => (cell column).equals value
  | .isNull column => cell column == .null
  | .isNotNull column => cell column != .null

namespace Condition

def holds (cell : String → Cell) (condition : Condition) : Bool :=
  condition.all fun group => group.isEmpty || group.any (Test.holds cell)

def ofReader (reader : Reader) : Condition :=
  let test (column : String) (id : Option String) : List Test :=
    id.toList.map fun id => .equals column (.text id)
  [test "ftc_id" reader.ftcId ++ test "union_id" reader.unionId]

end Condition

end Subscriptions.Sql
