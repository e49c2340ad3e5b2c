import Subscriptions.Sql.Condition

/-!
The statements that a store sends, as text with numbered places `$1`, `$2`, ... and the values for them in
the same order. Names of tables and columns stand in double quotes.
-/

namespace Subscriptions.Sql

set_option autoImplicit false

inductive Statement (r : Relation)
  | select (condition : Condition) (limit : Option Nat) (forUpdate : Bool)
  | insert (rows : List r.Row) (returning : List String)
  | update (changes : List (String × Cell)) (condition : Condition)

/-- A part of a statement: text as it is, or a place for a value. -/
inductive Fragment
  | text (s : String)
  | value (c : Cell)
deriving DecidableEq

structure Sent where
  text : String
  values : List Cell
deriving DecidableEq

namespace Fragment

/-- The text of the fragments, with places numbered from `n + 1`. -/
def number : Nat → List Fragment → String
  | _, [] => ""
  | n, .text s :: rest => s ++ number n rest
  | n, .value _ :: rest => s!"${n + 1}" ++ number (n + 1) rest

def values (fs : List Fragment) : List Cell :=
  fs.filterMap fun
    | .text _ => none
    | .value c => some c

def join (between : String) (parts : List (List Fragment)) : List Fragment :=
  [Fragment.text between].intercalate parts

end Fragment

open Fragment (join)

def quote (name : String) : String := "\"" ++ name ++ "\""

def qualify (r : Relation) (column : String) : String := quote r.name ++ "." ++ quote column

def quoteAll (columns : List String) : String := ", ".intercalate (columns.map quote)

def tuple (cells : List Cell) : List Fragment :=
  [.text "("] ++ join ", " (cells.map fun c => [.value c]) ++ [.text ")"]

/-- The text of a test. Whether a column holds one of no values is asked as a comparison of one and two. -/
def Test.fragments (r : Relation) : Test → List Fragment
  | .equals column value => [.text (qualify r column ++ " = "), .value value]
  | .exceeds column value => [.text (qualify r column ++ " > "), .value value]
  | .oneOf _ [] => [.value (.integer 1), .text " = ", .value (.integer 2)]
  | .oneOf column values => .text (qualify r column ++ " IN ") :: tuple values
  | .isNull column => [.text (qualify r column ++ " IS NULL")]
  | .isNotNull column => [.text (qualify r column ++ " IS NOT NULL")]

namespace Condition

/-- The text of a group, in brackets where they are needed. -/
def groupFragments (r : Relation) (alone : Bool) (group : List Test) : List Fragment :=
  let body := join " OR " (group.map (Test.fragments r))
  if alone || group.length ≤ 1 then body else [.text "("] ++ body ++ [.text ")"]

def fragments (r : Relation) (condition : Condition) : List Fragment :=
  let groups := condition.filter fun group => !group.isEmpty
  if groups.isEmpty then []
  else
    .text " WHERE " :: join " AND " (groups.map (groupFragments r (decide (groups.length ≤ 1))))

end Condition

namespace Statement

variable {r : Relation}

def fragments : Statement r → List Fragment
  | .select condition limit forUpdate =>
    let columns := ", ".intercalate (r.columns.map (qualify r))
    [.text ("SELECT " ++ columns ++ " FROM " ++ quote r.name)] ++ condition.fragments r ++
      limit.toList.flatMap (fun n => [.text " LIMIT ", .value (.integer n)]) ++
      (if forUpdate then [.text " FOR UPDATE"] else [])
  | .insert rows returning =>
    [.text ("INSERT INTO " ++ quote r.name ++ " (" ++ quoteAll r.columns ++ ") VALUES ")] ++
      join ", " (rows.map fun row => tuple (r.cells row)) ++
      [.text (" RETURNING " ++ quoteAll returning)]
  | .update changes condition =>
    [.text ("UPDATE " ++ quote r.name ++ " SET ")] ++
      join ", " (changes.map fun c => [.text (quote c.1 ++ " = "), .value c.2]) ++
      condition.fragments r

def sent (s : Statement r) : Sent := ⟨Fragment.number 0 s.fragments, Fragment.values s.fragments⟩

end Statement

end Subscriptions.Sql
