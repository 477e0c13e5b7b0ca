import ClusterMdns.Text.Surrogate

/-!
UTF-8 between bytes and characters. Reading is strict: overlong forms, stray and missing continuation
bytes are refused, and so are the halves of code pairs, which only `codes?` lets pass.
-/

namespace ClusterMdns.Text.Utf8

/-- The six bits of a continuation byte. -/
def tail? (b : UInt8) : Option Nat :=
  if 0x80 <= b.toNat && b.toNat < 0xC0 then some (b.toNat - 0x80) else none

/-! ### Codes of two, three and four bytes -/

def code2? (a b : UInt8) : Option Nat :=
  if 0xC2 <= a.toNat && a.toNat < 0xE0 then (tail? b).map ((a.toNat - 0xC0) * 64 + ·) else none

def code3? (a b c : UInt8) : Option Nat :=
  if 0xE0 <= a.toNat && a.toNat < 0xF0 then do
    let n := (a.toNat - 0xE0) * 4096 + (← tail? b) * 64 + (← tail? c)
    if n < 0x800 then none else some n
  else none

def code4? (a b c d : UInt8) : Option Nat :=
  if 0xF0 <= a.toNat && a.toNat < 0xF5 then do
    let n := (a.toNat - 0xF0) * 262144 + (← tail? b) * 4096 + (← tail? c) * 64 + (← tail? d)
    if n < 0x10000 || 0x110000 <= n then none else some n
  else none

/-! ### Reading -/

/-- The codes that bytes stand for, halves among them, up to where there is none, and the bytes from there on. -/
def front : List UInt8 → List Nat × List UInt8
  | [] => ([], [])
  | a :: rest =>
    if a < 0x80 then (front rest).map (a.toNat :: ·) id
    else match rest with
      | [] => ([], [a])
      | b :: rest => match code2? a b with
        | some n => (front rest).map (n :: ·) id
        | none => match rest with
          | [] => ([], [a, b])
          | c :: rest => match code3? a b c with
            | some n => (front rest).map (n :: ·) id
            | none => match rest with
              | [] => ([], [a, b, c])
              | d :: rest => match code4? a b c d with
                | some n => (front rest).map (n :: ·) id
                | none => ([], a :: b :: c :: d :: rest)

def codes? (bytes : List UInt8) : Option (List Nat) :=
  match front bytes with
  | (codes, []) => some codes
  | _ => none

def decode? (bytes : List UInt8) : Option (List Char) := do
  Surrogate.strict? (← codes? bytes)

/-- Whether `b` may follow `a` in a code of three or four bytes. -/
def leads (a b : UInt8) : Bool :=
  let m := a.toNat
  let n := b.toNat
  0xE0 <= m && m < 0xF5 && 0x80 <= n && n < 0xC0 && (m != 0xE0 || 0xA0 <= n) && (m != 0xF0 || 0x90 <= n) &&
    (m != 0xF4 || n < 0x90)

/-- Whether bytes are the start of a code that more bytes may complete. -/
def isOpen : List UInt8 → Bool
  | [] => true
  | [a] => 0xC2 <= a.toNat && a.toNat < 0xF5
  | [a, b] => leads a b
  | [a, b, c] => 0xF0 <= a.toNat && leads a b && (tail? c).isSome
  | _ => false

/-! ### Writing -/

def encodeCode (n : Nat) : List UInt8 :=
  if n < 0x80 then [n.toUInt8]
  else if n < 0x800 then [(0xC0 + n / 64).toUInt8, (0x80 + n % 64).toUInt8]
  else if n < 0x10000 then
    [(0xE0 + n / 4096).toUInt8, (0x80 + n / 64 % 64).toUInt8, (0x80 + n % 64).toUInt8]
  else
    [(0xF0 + n / 262144).toUInt8, (0x80 + n / 4096 % 64).toUInt8, (0x80 + n / 64 % 64).toUInt8,
      (0x80 + n % 64).toUInt8]

def encode (cs : List Char) : List UInt8 :=
  (Surrogate.codes cs).flatMap encodeCode

end ClusterMdns.Text.Utf8
