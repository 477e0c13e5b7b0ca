/-!
Hexadecimal digits, and bytes written as pairs of them.
-/

namespace ClusterMdns.Text

def hexDigit (n : Nat) : Char :=
  if n < 10 then Char.ofNat (48 + n) else Char.ofNat (87 + n)

/-- The last `width` hexadecimal digits of `n`. -/
def hexDigits : (width : Nat) → (n : Nat) → List Char
  | 0, _ => []
  | width + 1, n => hexDigits width (n / 16) ++ [hexDigit (n % 16)]

/-- The value of a digit of either case. -/
def hexValue? (c : Char) : Option Nat :=
  let n := c.toNat
  if 48 <= n && n <= 57 then some (n - 48)
  else if 97 <= n && n <= 102 then some (n - 87)
  else if 65 <= n && n <= 70 then some (n - 55)
  else none

def encodeHex (bytes : List UInt8) : String :=
  String.ofList (bytes.flatMap fun b => hexDigits 2 b.toNat)

def pairs? : List Char → Option (List UInt8)
  | [] => some []
  | a :: b :: rest => do
    let high ← hexValue? a
    let low ← hexValue? b
    let bytes ← pairs? rest
    some ((high * 16 + low).toUInt8 :: bytes)
  | _ => none

def decodeHex? (s : String) : Option (List UInt8) :=
  pairs? s.toList

end ClusterMdns.Text
