/-!
New ids, made of random bits. The bits come from outside; here they only become text. Most ids are cut from
the digits of a random UUID, two of whose places are not quite free: the first says how it was made, the
second begins with two fixed bits.
-/

namespace Subscriptions.FreshId

set_option autoImplicit false

/-- The last hexadecimal digits of a number, as many as asked for, in lower case. -/
def hexDigits : Nat → Nat → List Char
  | 0, _ => []
  | count + 1, n => hexDigits count (n / 16) ++ [Nat.digitChar (n % 16)]

/-- The 32 digits of a random UUID, from 122 bits. -/
def uuidDigits (bits : Nat) : List Char :=
  hexDigits 12 (bits >>> 74) ++ '4' :: hexDigits 3 (bits >>> 62) ++
    hexDigits 1 (8 + (bits >>> 60) % 4) ++ hexDigits 15 bits

def uuid (bits : Nat) : String :=
  let ds := uuidDigits bits
  String.ofList (ds.take 8 ++ '-' :: (ds.drop 8).take 4 ++ '-' :: (ds.drop 12).take 4 ++
    '-' :: (ds.drop 16).take 4 ++ '-' :: ds.drop 20)

def marked (mark : String) (count bits : Nat) : String :=
  mark ++ String.ofList ((uuidDigits bits).take count)

/-- The id of an order: `FT` and 16 digits in upper case, from 64 bits. -/
def order (bits : Nat) : String := "FT" ++ String.ofList ((hexDigits 16 bits).map Char.toUpper)

def membership (bits : Nat) : String := marked "mmb_" 12 bits

def snapshot (bits : Nat) : String := marked "snp_" 12 bits

def foreignSubscription (bits : Nat) : String := marked "sub_" 14 bits

def account (bits : Nat) : String := uuid bits

def union (bits : Nat) : String := marked "oAbC" 24 bits

end Subscriptions.FreshId
