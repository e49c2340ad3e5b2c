import Subscriptions.Text.Blank
import Subscriptions.Text.UnshownData

/-!
Text between double quotes for a message: whatever would not be seen, or would end the quotation, is
written as an escape.
-/

namespace Subscriptions.Text

set_option autoImplicit false

def isShown (c : Char) : Bool := !inRanges unshownRanges c

def quoteChar (c : Char) : List Char :=
  if c = '\x00' then ['\\', '0']
  else if c = '\t' then ['\\', 't']
  else if c = '\r' then ['\\', 'r']
  else if c = '\n' then ['\\', 'n']
  else if c = '\\' then ['\\', '\\']
  else if c = '"' then ['\\', '"']
  else if isShown c then [c]
  else ['\\', 'u', '\x7b'] ++ Nat.toDigits 16 c.toNat ++ ['\x7d']

def quoted (text : String) : String :=
  String.ofList (['"'] ++ text.toList.flatMap quoteChar ++ ['"'])

end Subscriptions.Text
