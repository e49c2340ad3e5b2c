import Subscriptions.Json.Basic
import Subscriptions.Text.Decimal

/-!
JSON values as text, without white space.
-/

namespace Subscriptions.Json

set_option autoImplicit false

def hex4 (n : Nat) : List Char :=
  [n / 4096 % 16, n / 256 % 16, n / 16 % 16, n % 16].map Nat.digitChar

/-- One character of a text: short escapes where there are any, and a numbered one for the other control
characters. -/
def escape (c : Char) : List Char :=
  if c = '"' then ['\\', '"']
  else if c = '\\' then ['\\', '\\']
  else if c = '\x08' then ['\\', 'b']
  else if c = '\x0c' then ['\\', 'f']
  else if c = '\n' then ['\\', 'n']
  else if c = '\r' then ['\\', 'r']
  else if c = '\t' then ['\\', 't']
  else if c.toNat < 32 then ['\\', 'u'] ++ hex4 c.toNat
  else [c]

def writeText (s : String) : List Char := '"' :: s.toList.flatMap escape ++ ['"']

mutual
def write : Json → List Char
  | .null => ['n', 'u', 'l', 'l']
  | .bool true => ['t', 'r', 'u', 'e']
  | .bool false => ['f', 'a', 'l', 's', 'e']
  | .integer n => Decimal.signed n
  | .decimal negative digits exponent =>
    (if negative then ['-'] else []) ++ Decimal.digits digits ++ 'e' :: Decimal.signed exponent
  | .text s => writeText s
  | .garbled => ['"', '\\', 'u', 'd', '8', '0', '0', '"']
  | .list [] => ['[', ']']
  | .list (j :: rest) => '[' :: write j ++ writeItems rest
  | .object [] => ['\x7b', '\x7d']
  | .object ((key, j) :: rest) => '\x7b' :: writeText key ++ ':' :: write j ++ writeFields rest
def writeItems : List Json → List Char
  | [] => [']']
  | j :: rest => ',' :: write j ++ writeItems rest
def writeFields : List (String × Json) → List Char
  | [] => ['\x7d']
  | (key, j) :: rest => ',' :: writeText key ++ ':' :: write j ++ writeFields rest
end

def toText (j : Json) : String := String.ofList j.write

end Subscriptions.Json
