import Subscriptions.Sql.Dialogue
import Subscriptions.Store.Backend

/-!
A connection whose answers are given in advance. It keeps a log of all that is sent over it. A statement
for which no answer is left, or none that fits, finds no rows and affects none.
-/

namespace Subscriptions.Sql

set_option autoImplicit false

/-- An answer to whatever is sent next: the rows that a query finds, the number of rows that any other
statement affects, or a failure, which comes before both. -/
structure Reply where
  rows : Option ((r : Relation) × List r.Row)
  affected : Nat
  failure : Option String

inductive Entry
  | begin
  | commit
  | rollback
  /-- A transaction was given up without being ended. -/
  | abandon
  | query (sent : Sent)
  | execute (sent : Sent)
deriving DecidableEq

structure Connection where
  replies : List Reply
  log : List Entry

namespace Reply

def nothing : Reply := ⟨none, 0, none⟩

def unlessFailed {α : Type} (reply : Reply) (a : α) : Except Failure α :=
  match reply.failure with
  | some reason => .error (.database ("Custom Error: " ++ reason))
  | none => .ok a

def rowsOf (r : Relation) (reply : Reply) : Except Failure (List r.Row) :=
  reply.unlessFailed <|
    match reply.rows with
    | some ⟨s, found⟩ => if h : s = r then h ▸ found else []
    | none => []

def affectedBy (reply : Reply) : Except Failure Nat := reply.unlessFailed reply.affected

end Reply

namespace Connection

variable {α : Type}

def write (c : Connection) (e : Entry) : Connection := { c with log := c.log ++ [e] }

def abandon (c : Connection) : Connection := c.write .abandon

def take (c : Connection) : Reply × Connection :=
  (c.replies.head?.getD .nothing, { c with replies := c.replies.tail })

def query (c : Connection) (r : Relation) (s : Statement r) : Except Failure (List r.Row) × Connection :=
  let (reply, c) := (c.write (.query s.sent)).take
  (reply.rowsOf r, c)

def execute (c : Connection) (r : Relation) (s : Statement r) : Except Failure Nat × Connection :=
  let (reply, c) := (c.write (.execute s.sent)).take
  (reply.affectedBy, c)

def run (c : Connection) : Dialogue α → Except Failure α × Connection
  | .done outcome => (outcome, c)
  | .query r s next =>
    match c.query r s with
    | (.error f, c) => (.error f, c)
    | (.ok rows, c) => c.run (next rows)
  | .execute r s next =>
    match c.execute r s with
    | (.error f, c) => (.error f, c)
    | (.ok affected, c) => c.run (next affected)

def backend : Backend Connection Unit where
  begin c := (.ok (), c.write .begin)
  perform s t c :=
    let (answer, c) := c.run (Dialogue.ofStep s)
    (answer, t, c)
  commit _ c := (.ok (), c.write .commit)
  rollback _ c := (.ok (), c.write .rollback)

end Connection

end Subscriptions.Sql
