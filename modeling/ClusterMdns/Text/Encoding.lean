import ClusterMdns.Text.Utf8

/-!
Encodings of texts as bytes: units of one, two or four bytes, the latter two in either order. A mark at
the start of the bytes may say which it is.
-/

namespace ClusterMdns.Text

inductive Encoding where
  | bytes
  | pairs (highFirst : Bool)
  | quads (highFirst : Bool)
deriving DecidableEq, Repr

namespace Encoding

/-- The encoding that the mark at the start of bytes names, and the bytes behind it. -/
def ofMark? : List UInt8 → Option (Encoding × List UInt8)
  | 0xFF :: 0xFE :: 0 :: 0 :: rest => some (quads false, rest)
  | 0 :: 0 :: 0xFE :: 0xFF :: rest => some (quads true, rest)
  | 0xFF :: 0xFE :: rest => some (pairs false, rest)
  | 0xFE :: 0xFF :: rest => some (pairs true, rest)
  | 0xEF :: 0xBB :: 0xBF :: rest => some (bytes, rest)
  | _ => none

/-! ### Reading -/

/-- The number that two bytes make. -/
def unit (highFirst : Bool) (a b : UInt8) : Nat :=
  if highFirst then a.toNat * 256 + b.toNat else b.toNat * 256 + a.toNat

/-- The number that two units make. -/
def wide (highFirst : Bool) (m n : Nat) : Nat :=
  if highFirst then m * 65536 + n else n * 65536 + m

/-- Units of two bytes; no byte is left over. -/
def units? (highFirst : Bool) : List UInt8 → Option (List Nat)
  | [] => some []
  | [_] => none
  | a :: b :: rest => (units? highFirst rest).map (unit highFirst a b :: ·)

/-- Units of four bytes; each is a code. -/
def wideCodes? (highFirst : Bool) : List Nat → Option (List Nat)
  | [] => some []
  | [_] => none
  | m :: n :: rest =>
    let code := wide highFirst m n
    if code < 0x110000 then (wideCodes? highFirst rest).map (code :: ·) else none

/-- Puts a code before others; two neighbouring halves become one code. -/
def prepend (m : Nat) : List Nat → List Nat
  | [] => [m]
  | n :: rest =>
    if 0xD800 <= m && m < 0xDC00 && 0xDC00 <= n && n < 0xE000 then
      Surrogate.joined m n :: rest
    else m :: n :: rest

/-- The codes of a text, halves by themselves among them. -/
def codes? : Encoding → List UInt8 → Option (List Nat)
  | bytes, bs => Utf8.codes? bs
  | pairs highFirst, bs => (units? highFirst bs).map (·.foldr prepend [])
  | quads highFirst, bs => do wideCodes? highFirst (← units? highFirst bs)

/-- The text of bytes, in which no half stands by itself. -/
def decode? (e : Encoding) (bs : List UInt8) : Option String := do
  some (String.ofList (← Surrogate.strict? (← e.codes? bs)))

/-- The text of bytes, in which halves may stand by themselves. -/
def decodeHalves? (e : Encoding) (bs : List UInt8) : Option String := do
  some (String.ofList (Surrogate.ofCodes (← e.codes? bs)))

/-- The text whose characters have the bytes as their codes. -/
def narrow (bs : List UInt8) : String :=
  String.ofList (bs.map fun b => Char.ofNat b.toNat)

end Encoding

end ClusterMdns.Text
