import ClusterMdns.Address.Basic
import ClusterMdns.Number.Decimal
import ClusterMdns.Text.Fields
import ClusterMdns.Text.Quoted

/-!
Written forms of addresses: the usual text, and the owner name for reverse look-ups. In version 6 the
first longest run of two or more groups of zeros is written `::`.
-/

namespace ClusterMdns

namespace AddressV4

def pieces (a : AddressV4) : List String :=
  a.octets.map fun x => Number.natText x.toNat

def text (a : AddressV4) : String :=
  Text.join "." a.pieces

/-- The four numbers in reverse order. -/
def reverseName (a : AddressV4) : String :=
  Text.join "." (a.pieces.reverse ++ ["in-addr", "arpa", ""])

end AddressV4

namespace AddressV6

/-- Hexadecimal digits without leading zeros. -/
def groupText (g : UInt16) : String :=
  String.ofList (Nat.toDigits 16 g.toNat)

def zerosAhead : List UInt16 → Nat
  | [] => 0
  | g :: gs => if g == 0 then zerosAhead gs + 1 else 0

/-- Start and length of the first of the longest runs of zeros. -/
def longestZeros : List UInt16 → Nat × Nat
  | [] => (0, 0)
  | g :: gs =>
    let here := zerosAhead (g :: gs)
    let (start, length) := longestZeros gs
    if length <= here then (0, here) else (start + 1, length)

def groupsText (gs : List UInt16) : String :=
  Text.join ":" (gs.map groupText)

def text (a : AddressV6) : String :=
  let gs := a.groups.toList
  let (start, length) := longestZeros gs
  let body :=
    if length <= 1 then groupsText gs
    else groupsText (gs.take start) ++ "::" ++ groupsText (gs.drop (start + length))
  match a.scope with
  | none => body
  | some scope => body ++ "%" ++ scope

def nibbles (a : AddressV6) : List Char :=
  a.groups.toList.flatMap fun g => Text.hexDigits 4 g.toNat

/-- The thirty-two hexadecimal digits in reverse order. An address with a scope has no such name. -/
def reverseName? (a : AddressV6) : Option String :=
  match a.scope with
  | none => some (Text.join "." (a.nibbles.reverse.map String.singleton ++ ["ip6", "arpa", ""]))
  | some _ => none

end AddressV6

namespace Address

def text : Address → String
  | v4 a => a.text
  | v6 a => a.text

/-- The owner name under which the address is looked up in reverse. -/
def reverseName? : Address → Option String
  | v4 a => some a.reverseName
  | v6 a => a.reverseName?

end Address

end ClusterMdns
