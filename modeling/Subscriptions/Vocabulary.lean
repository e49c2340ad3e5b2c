/-!
Closed vocabularies: finitely many values, each with one name. A name is looked up among the values, and
a name that belongs to none of them is an error, never a default.
-/

namespace Subscriptions

set_option autoImplicit false

/-- A type whose values are listed and named; `noun` is what a value of it is called. -/
class Vocabulary (α : Type) where
  all : List α
  name : α → String
  noun : String
  /-- The value that an empty text stands for, if any. -/
  blank : Option α

structure UnknownName where
  noun : String
  text : String
deriving DecidableEq

def UnknownName.message (e : UnknownName) : String := s!"unknown {e.noun} '{e.text}'"

namespace Vocabulary

variable {α : Type} [Vocabulary α]

def ofName? (text : String) : Option α := all.find? fun a : α => name a == text

/-- The value that a text stands for: a name, or nothing where that has a meaning. -/
def parse (text : String) : Except UnknownName α :=
  match ofName? text, (blank : Option α) with
  | some a, _ => .ok a
  | none, some a => if text = "" then .ok a else .error ⟨noun α, text⟩
  | none, none => .error ⟨noun α, text⟩

end Vocabulary

end Subscriptions
