import ClusterMdns.Address.Basic
import ClusterMdns.Text.Blank
import ClusterMdns.Text.Fields

/-!
Reading addresses. Version 4: four decimal numbers up to 255 without leading zeros. Version 6: groups of
one to four hexadecimal digits, at most one `::` for one or more groups of zeros, an address of version 4
in place of the last two groups, and a scope after a percent sign.
-/

namespace ClusterMdns

/-- The value of a digit string whose characters `digit?` knows. -/
def digitString? (base : Nat) (digit? : Char → Option Nat) (cs : List Char) : Option Nat :=
  cs.foldlM (fun acc c => (digit? c).map (acc * base + ·)) 0

def decimalDigit? (c : Char) : Option Nat :=
  if '0' <= c && c <= '9' then some (c.toNat - 48) else none

def hexadecimalDigit? (c : Char) : Option Nat :=
  if '0' <= c && c <= '9' then some (c.toNat - 48)
  else if 'a' <= c && c <= 'f' then some (c.toNat - 87)
  else if 'A' <= c && c <= 'F' then some (c.toNat - 55)
  else none

namespace AddressV4

def octet? (cs : List Char) : Option UInt8 :=
  if cs.isEmpty || cs.length > 3 || (cs.length > 1 && cs.head? == some '0') then none
  else match digitString? 10 decimalDigit? cs with
    | some n => if n <= 255 then some n.toUInt8 else none
    | none => none

def read? (cs : List Char) : Option AddressV4 :=
  match Text.splitChars (· == '.') cs with
  | [a, b, c, d] => do some ⟨← octet? a, ← octet? b, ← octet? c, ← octet? d⟩
  | _ => none

end AddressV4

namespace AddressV6

def group? (cs : List Char) : Option UInt16 :=
  if cs.isEmpty || cs.length > 4 then none
  else (digitString? 16 hexadecimalDigit? cs).map (·.toUInt16)

/-- The groups of pieces that are all hexadecimal. -/
def plainGroups? : List (List Char) → Option (List UInt16)
  | [] => some []
  | piece :: pieces => do some ((← group? piece) :: (← plainGroups? pieces))

/-- The groups that the pieces between colons stand for; the last may be an address of version 4. -/
def groups? : List (List Char) → Option (List UInt16)
  | [] => some []
  | [piece] =>
    if piece.contains '.' then (AddressV4.read? piece).map (·.groups)
    else (group? piece).map ([·])
  | piece :: pieces => do some ((← group? piece) :: (← groups? pieces))

/-- The pieces before and after an empty one that is neither first nor last. -/
def splitAtGap (before : List (List Char)) :
    List (List Char) → Option (List (List Char) × List (List Char))
  | [] => none
  | [_] => none
  | piece :: pieces =>
    if piece.isEmpty && !before.isEmpty then some (before.reverse, pieces)
    else splitAtGap (piece :: before) pieces

/-- A side of the gap may be empty as a whole. -/
def side? (read? : List (List Char) → Option (List UInt16)) (pieces : List (List Char)) :
    Option (List UInt16) :=
  if pieces == [[]] then some [] else read? pieces

def ofGroups? (groups : List UInt16) (scope : Option String) : Option AddressV6 :=
  if h : groups.length = 8 then some ⟨⟨groups.toArray, by simpa using h⟩, scope⟩ else none

def readGroups? (cs : List Char) : Option (List UInt16) :=
  let pieces := Text.splitChars (· == ':') cs
  match splitAtGap [] pieces with
  | none => groups? pieces
  | some (front, back) => do
    let front ← side? plainGroups? front
    let back ← side? groups? back
    let present := front.length + back.length
    if present < 8 then some (front ++ List.replicate (8 - present) 0 ++ back) else none

def read? (cs : List Char) : Option AddressV6 :=
  match Text.splitChars (· == '%') cs with
  | [cs] => do ofGroups? (← readGroups? cs) none
  | [cs, scope] =>
    if scope.isEmpty || scope.contains '/' then none
    else do ofGroups? (← readGroups? cs) (some (String.ofList scope))
  | _ => none

end AddressV6

namespace Address

def readChars? (cs : List Char) : Option Address :=
  match AddressV4.read? cs with
  | some a => some (v4 a)
  | none => (AddressV6.read? cs).map v6

/-- The normalised address that a text with blanks around it stands for. -/
def read? (s : String) : Option Address :=
  (readChars? (Text.trimChars s.toList)).map normalize

end Address

end ClusterMdns
