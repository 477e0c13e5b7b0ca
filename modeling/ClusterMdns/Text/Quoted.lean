import ClusterMdns.Text.Hex
import ClusterMdns.Text.Printable
import ClusterMdns.Text.Surrogate

/-!
Texts in quotation marks, as log lines and messages show them. Single quotes stand around a text unless
it holds one and no double quote; what cannot be shown is escaped.
-/

namespace ClusterMdns.Text

/-- The written form of a character by its code, or of half of a code pair. -/
def escapeCode (quote : Char) (n : Nat) : List Char :=
  let c := Char.ofNat n
  if n == quote.toNat || n == '\\'.toNat then ['\\', c]
  else if n == '\n'.toNat then ['\\', 'n']
  else if n == '\r'.toNat then ['\\', 'r']
  else if n == '\t'.toNat then ['\\', 't']
  else if !Surrogate.isHalf n && isPrintable c then [c]
  else if n < 0x100 then '\\' :: 'x' :: hexDigits 2 n
  else if n < 0x10000 then '\\' :: 'u' :: hexDigits 4 n
  else '\\' :: 'U' :: hexDigits 8 n

def quoted (s : String) : String :=
  let cs := s.toList
  let quote := if cs.contains '\'' && !cs.contains '"' then '"' else '\''
  String.ofList (quote :: (Surrogate.codes cs).flatMap (escapeCode quote) ++ [quote])

end ClusterMdns.Text
