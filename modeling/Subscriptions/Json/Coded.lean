import Subscriptions.Calendar.Written
import Subscriptions.Json.Basic
import Subscriptions.Vocabulary

/-!
Values and their JSON. A record is written as an object with all its fields and read by the names of its
fields: in any order, each at most once, with fields of other names passed over. It may also be read from
a list of its fields in the order in which they are written.
-/

namespace Subscriptions

set_option autoImplicit false

/-- Where a value is read: by itself, or within a task, which is taken up as a whole before its kind is
known. There an empty object stands for null beside the name of a vocabulary's value. -/
inductive Json.Place
  | alone
  | withinTask
deriving DecidableEq

/-- A type whose values are written as JSON and read back. -/
class Coded (α : Type) where
  encode : α → Json
  decodeIn : Json.Place → Json → Option α

def Coded.decode {α : Type} [Coded α] : Json → Option α := Coded.decodeIn .alone

export Coded (encode decodeIn decode)

namespace Json

structure Fields where
  get? : String → Option Json

/-- The fields of an object, none of which may be there twice. -/
def objectFields (names : List String) (fields : List (String × Json)) : Option Fields :=
  if names.all fun name => decide (fields.countP (fun f => f.1 == name) ≤ 1) then
    some ⟨fun name => fields.lookup name⟩
  else none

/-- The record of a value, read for the given names. As a list it has to be complete. -/
def record? (names : List String) : Json → Option Fields
  | .object fields => objectFields names fields
  | .list items =>
    if items.length = names.length then some ⟨fun name => (names.zip items).lookup name⟩ else none
  | _ => none

/-- The record of a value in which any field may be missing, as a list the last ones. -/
def partialRecord? (names : List String) : Json → Option Fields
  | .object fields => objectFields names fields
  | .list items =>
    if items.length ≤ names.length then some ⟨fun name => (names.zip items).lookup name⟩ else none
  | _ => none

namespace Fields

variable {α : Type}

def required (f : Fields) (name : String) (read : Json → Option α) : Option α :=
  (f.get? name).bind read

def optional (f : Fields) (name : String) (read : Json → Option α) : Option (Option α) :=
  match f.get? name with
  | none => some none
  | some .null => some none
  | some j => (read j).map some

def withDefault (f : Fields) (name : String) (a : α) (read : Json → Option α) : Option α :=
  match f.get? name with
  | none => some a
  | some j => read j

end Fields

def natBelow? (bound : Nat) : Json → Option Nat
  | .integer n => if 0 ≤ n ∧ n < bound then some n.toNat else none
  | _ => none

def cents? : Json → Option Int
  | .integer n => if -9223372036854775808 ≤ n ∧ n < 9223372036854775808 then some n else none
  | _ => none

def text? : Json → Option String
  | .text s => some s
  | _ => none

def bool? : Json → Option Bool
  | .bool b => some b
  | _ => none

def items? : Json → Option (List Json)
  | .list items => some items
  | _ => none

def ofOption {α : Type} (write : α → Json) : Option α → Json
  | some a => write a
  | none => .null

def ofNat (n : Nat) : Json := .integer n

end Json

open Json

instance : Coded Date where
  encode d := .text d.toText
  decodeIn _ j := j.text?.bind Date.ofText?

instance : Coded Instant where
  encode t := .text t.toText
  decodeIn _ j := j.text?.bind Instant.ofText?

/-- The value of a vocabulary, by its exact name or as an object that has the name for its only key and
holds nothing. -/
def Vocabulary.decodeIn {α : Type} [Vocabulary α] (place : Json.Place) : Json → Option α
  | .text s => Vocabulary.ofName? s
  | .object [(s, .null)] => Vocabulary.ofName? s
  | .object [(s, .object [])] => if place = .withinTask then Vocabulary.ofName? s else none
  | _ => none

def Vocabulary.decode {α : Type} [Vocabulary α] : Json → Option α := Vocabulary.decodeIn .alone

def Vocabulary.encode {α : Type} [Vocabulary α] (a : α) : Json := .text (Vocabulary.name a)

def Json.decodeList {α : Type} (read : Json → Option α) (j : Json) : Option (List α) :=
  j.items?.bind fun items => items.mapM read

end Subscriptions
