/-!
Base 64, read leniently: characters outside the alphabet are dropped, and reading stops where a group of
four is completed by padding.
-/

namespace ClusterMdns.Text.Base64

def digit? (c : Char) : Option Nat :=
  let n := c.toNat
  if 65 <= n && n <= 90 then some (n - 65)
  else if 97 <= n && n <= 122 then some (n - 71)
  else if 48 <= n && n <= 57 then some (n + 4)
  else if c == '+' then some 62
  else if c == '/' then some 63
  else none

/-- Where a reader stands in a group of four: how many digits it has, the bits not yet written, and how
much padding came since the last digit. -/
structure Position where
  digits : Nat
  bits : Nat
  padding : Nat

def Position.start : Position := ⟨0, 0, 0⟩

/-- Takes a digit; a byte comes out with every digit of a group but the first. -/
def Position.push (p : Position) (d : Nat) : Position × List UInt8 :=
  match p.digits with
  | 0 => (⟨1, d, 0⟩, [])
  | 1 => (⟨2, d % 16, 0⟩, [(p.bits * 4 + d / 16).toUInt8])
  | 2 => (⟨3, d % 4, 0⟩, [(p.bits * 16 + d / 4).toUInt8])
  | _ => (⟨0, 0, 0⟩, [(p.bits * 64 + d).toUInt8])

/-- Fails when the text ends inside a group. -/
def decodeFrom (p : Position) : List Char → Option (List UInt8)
  | [] => if p.digits == 0 then some [] else none
  | c :: cs =>
    if c == '=' then
      if 2 <= p.digits then
        if 4 <= p.digits + p.padding + 1 then some []
        else decodeFrom { p with padding := p.padding + 1 } cs
      else decodeFrom p cs
    else match digit? c with
      | none => decodeFrom p cs
      | some d =>
        let (q, out) := p.push d
        (decodeFrom q cs).map (out ++ ·)

def decode? (cs : List Char) : Option (List UInt8) :=
  decodeFrom .start cs

end ClusterMdns.Text.Base64
