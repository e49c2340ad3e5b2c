import Subscriptions.Json.Basic
import Subscriptions.Text.Decimal

/-!
Reading JSON text strictly: one value, with white space around it and nothing else. No comma may stand
before a closing bracket, no numeral may begin with a needless zero, and no control character may stand
in a text as it is.
-/

namespace Subscriptions.Json

set_option autoImplicit false

def isSpace (c : Char) : Bool := c = ' ' || c = '\n' || c = '\r' || c = '\t'

def skipSpace (cs : List Char) : List Char := cs.dropWhile isSpace

def hexDigit? (c : Char) : Option Nat :=
  if '0' ≤ c ∧ c ≤ '9' then some (c.toNat - '0'.toNat)
  else if 'a' ≤ c ∧ c ≤ 'f' then some (c.toNat - 'a'.toNat + 10)
  else if 'A' ≤ c ∧ c ≤ 'F' then some (c.toNat - 'A'.toNat + 10)
  else none

def hexUnit? (a b c d : Char) : Option Nat := do
  return ((← hexDigit? a) * 16 + (← hexDigit? b)) * 256 + ((← hexDigit? c) * 16 + (← hexDigit? d))

def joinSurrogates (high low : Nat) : Char :=
  Char.ofNat (0x10000 + (high - 0xd800) * 0x400 + (low - 0xdc00))

def isHighSurrogate (n : Nat) : Bool := decide (0xd800 ≤ n) && decide (n < 0xdc00)
def isLowSurrogate (n : Nat) : Bool := decide (0xdc00 ≤ n) && decide (n < 0xe000)

def shortEscape? (c : Char) : Option Char :=
  if c = '"' ∨ c = '\\' ∨ c = '/' then some c
  else if c = 'b' then some '\x08'
  else if c = 'f' then some '\x0c'
  else if c = 'n' then some '\n'
  else if c = 'r' then some '\r'
  else if c = 't' then some '\t'
  else none

/-- What stands for a character, or for half of one, within a text. -/
inductive Piece
  | whole (c : Char)
  | half (unit : Nat)

def Piece.ofUnit (n : Nat) : Piece :=
  if isHighSurrogate n || isLowSurrogate n then .half n else .whole (Char.ofNat n)

/-- Reads on in a text after its opening quote, up to its closing quote. -/
def readPieces : List Char → Option (List Piece × List Char)
  | [] => none
  | '"' :: rest => some ([], rest)
  | '\\' :: 'u' :: a :: b :: c :: d :: rest =>
    match hexUnit? a b c d with
    | some n => (readPieces rest).map fun r => (.ofUnit n :: r.1, r.2)
    | none => none
  | '\\' :: e :: rest =>
    match shortEscape? e with
    | some c => (readPieces rest).map fun r => (.whole c :: r.1, r.2)
    | none => none
  | c :: rest =>
    if c.toNat < 32 ∨ c = '\\' then none else (readPieces rest).map fun r => (.whole c :: r.1, r.2)

/-- The characters of a text, unless it holds half a surrogate pair by itself. -/
def joinPieces : List Piece → Option (List Char)
  | [] => some []
  | .whole c :: rest => (joinPieces rest).map (c :: ·)
  | .half high :: .half low :: rest =>
    if isHighSurrogate high && isLowSurrogate low then
      (joinPieces rest).map (joinSurrogates high low :: ·)
    else none
  | .half _ :: _ => none

def readText (cs : List Char) : Option (Option String × List Char) :=
  (readPieces cs).map fun r => ((joinPieces r.1).map String.ofList, r.2)

def readPlaces : List Char → Option (List Char × List Char)
  | '.' :: rest =>
    let ds := rest.takeWhile Char.isDigit
    if ds.isEmpty then none else some (ds, rest.dropWhile Char.isDigit)
  | rest => some ([], rest)

def readPower (rest : List Char) : Option (Int × List Char) :=
  match rest with
  | '-' :: rest => (Decimal.readAll? rest).map fun r => (-(r.1 : Int), r.2)
  | '+' :: rest => (Decimal.readAll? rest).map fun r => ((r.1 : Int), r.2)
  | rest => (Decimal.readAll? rest).map fun r => ((r.1 : Int), r.2)

def readExponent : List Char → Option (Option Int × List Char)
  | 'e' :: rest => (readPower rest).map fun r => (some r.1, r.2)
  | 'E' :: rest => (readPower rest).map fun r => (some r.1, r.2)
  | rest => some (none, rest)

/-- A numeral after its sign. It is an integer if it has neither point nor exponent, unless it is a
negative zero. -/
def readNumeral (negative : Bool) (cs : List Char) : Option (Json × List Char) := do
  let whole := cs.takeWhile Char.isDigit
  if whole.isEmpty || (whole.length != 1 && whole.head? == some '0') then none
  let (places, rest) ← readPlaces (cs.dropWhile Char.isDigit)
  let (exponent, rest) ← readExponent rest
  let digits := Decimal.value (whole ++ places)
  if places.isEmpty && exponent.isNone && !(negative && digits == 0) then
    return (.integer (if negative then -(digits : Int) else digits), rest)
  return (.decimal negative digits (exponent.getD 0 - places.length), rest)

def expect (word cs : List Char) : Option (List Char) :=
  if word.isPrefixOf cs then some (cs.drop word.length) else none

/-- The object with the given fields, unless one of its keys is garbled. -/
def collect (fields : List (Option String × Json)) : Json :=
  match fields.mapM fun f => f.1.map fun key => (key, f.2) with
  | some fields => .object fields
  | none => .garbled

mutual
/-- Reads a value at the front of a text, nested no deeper than the fuel. -/
def readValue : Nat → List Char → Option (Json × List Char)
  | 0, _ => none
  | fuel + 1, cs =>
    match cs with
    | 'n' :: rest => (expect ['u', 'l', 'l'] rest).map fun rest => (.null, rest)
    | 't' :: rest => (expect ['r', 'u', 'e'] rest).map fun rest => (.bool true, rest)
    | 'f' :: rest => (expect ['a', 'l', 's', 'e'] rest).map fun rest => (.bool false, rest)
    | '"' :: rest =>
      (readText rest).map fun r => ((r.1.map Json.text).getD .garbled, r.2)
    | '-' :: rest => readNumeral true rest
    | '[' :: rest =>
      match skipSpace rest with
      | ']' :: rest => some (.list [], rest)
      | rest => do
        let (first, rest) ← readValue fuel rest
        let (others, rest) ← readItems fuel (skipSpace rest)
        return (.list (first :: others), rest)
    | '\x7b' :: rest =>
      match skipSpace rest with
      | '\x7d' :: rest => some (.object [], rest)
      | rest => do
        let (first, rest) ← readField fuel rest
        let (others, rest) ← readFields fuel (skipSpace rest)
        return (collect (first :: others), rest)
    | _ => readNumeral false cs
def readItems : Nat → List Char → Option (List Json × List Char)
  | 0, _ => none
  | fuel + 1, cs =>
    match cs with
    | ']' :: rest => some ([], rest)
    | ',' :: rest => do
      let (first, rest) ← readValue fuel (skipSpace rest)
      let (others, rest) ← readItems fuel (skipSpace rest)
      return (first :: others, rest)
    | _ => none
def readField : Nat → List Char → Option ((Option String × Json) × List Char)
  | 0, _ => none
  | fuel + 1, cs =>
    match cs with
    | '"' :: rest => do
      let (key, rest) ← readText rest
      match skipSpace rest with
      | ':' :: rest => do
        let (value, rest) ← readValue fuel (skipSpace rest)
        return ((key, value), rest)
      | _ => none
    | _ => none
def readFields : Nat → List Char → Option (List (Option String × Json) × List Char)
  | 0, _ => none
  | fuel + 1, cs =>
    match cs with
    | '\x7d' :: rest => some ([], rest)
    | ',' :: rest => do
      let (first, rest) ← readField fuel (skipSpace rest)
      let (others, rest) ← readFields fuel (skipSpace rest)
      return (first :: others, rest)
    | _ => none
end

def ofText? (text : String) : Option Json := do
  let cs := text.toList
  let (value, rest) ← readValue (cs.length + 1) (skipSpace cs)
  if (skipSpace rest).isEmpty then some value else none

end Subscriptions.Json
