import TlsHandshake.Diagnostic.Joining
import TlsHandshake.Diagnostic.Unseen

set_option autoImplicit false

/-! # Quoted text

Text as it stands between quotes in a diagnostic: quotes and backslashes are escaped, the common
control characters have letters of their own, and every other character that cannot be seen by
itself is replaced by its number. -/

namespace TlsHandshake.Quoted

/-- Whether a character is seen by itself. -/
def isSeen (c : Char) : Bool :=
  !(CodeRanges.unseen.contains c.toNat || CodeRanges.joining.contains c.toNat)

/-- The hexadecimal digits of a number. -/
def hexDigits (n : Nat) : String := String.ofList (Nat.toDigits 16 n)

/-- A character inside quotes. -/
def escape (c : Char) : String :=
  if c = '"' then "\\\""
  else if c = '\\' then "\\\\"
  else if c = '\n' then "\\n"
  else if c = '\r' then "\\r"
  else if c = '\t' then "\\t"
  else if c.toNat = 0 then "\\0"
  else if isSeen c then c.toString
  else "\\u\x7b" ++ hexDigits c.toNat ++ "\x7d"

/-- A text in quotes. -/
def quote (s : String) : String := "\"" ++ String.join (s.toList.map escape) ++ "\""

end TlsHandshake.Quoted
