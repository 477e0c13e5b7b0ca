import ClusterMdns.Number.Decimal

/-!
Binary floating-point numbers with 53 significant bits, held as exact integers, their rounding from
quotients and their shortest decimal text.
-/

namespace ClusterMdns.Number

/-- A finite number is `significand * 2 ^ exponent`, with the significand below `2 ^ 53` and the exponent
as small as that allows but at least `-1074`. -/
inductive Binary where
  | finite (negative : Bool) (significand : Nat) (exponent : Int)
  | infinite (negative : Bool)
  | nan
deriving DecidableEq, Repr

namespace Binary

def minExponent : Int := -1074

def maxExponent : Int := 971

def zero (negative : Bool) : Binary :=
  finite negative 0 minExponent

/-- A power of two with any exponent as numerator and denominator. -/
def scale (num den : Nat) (e : Int) : Nat × Nat :=
  if e < 0 then (num * Nat.pow 2 e.natAbs, den) else (num, den * Nat.pow 2 e.natAbs)

/-- The quotient `num / den` rounded to a whole number, a half going to the even neighbour. -/
def roundHalfEven (num den : Nat) : Nat :=
  let q := num / den
  let r := num % den
  if 2 * r > den || (2 * r == den && q % 2 == 1) then q + 1 else q

/-- The nearest number to `num / den`. -/
def ofQuotient (negative : Bool) (num den : Nat) : Binary :=
  if num == 0 then zero negative
  else
    let guess : Int := (Nat.log2 num : Int) - (Nat.log2 den : Int) - 52
    let (n, d) := scale num den guess
    let fitted := if n / d < Nat.pow 2 52 then guess - 1 else guess
    let e := max fitted minExponent
    let (n, d) := scale num den e
    let m := roundHalfEven n d
    let (m, e) := if m == Nat.pow 2 53 then (Nat.pow 2 52, e + 1) else (m, e)
    if e > maxExponent then infinite negative else finite negative m e

/-- The nearest number to `digits * 10 ^ power`. Powers far outside the range are settled by the count of
digits alone. -/
def ofScientific (negative : Bool) (digits : Nat) (power : Int) : Binary :=
  if digits == 0 then zero negative
  else
    let magnitude : Int := power + (Nat.toDigits 10 digits).length
    if magnitude > 400 then infinite negative
    else if magnitude < -400 then zero negative
    else if power < 0 then ofQuotient negative digits (Nat.pow 10 power.natAbs)
    else ofQuotient negative (digits * Nat.pow 10 power.natAbs) 1

def ofInt (n : Int) : Binary :=
  ofQuotient (n < 0) n.natAbs 1

def isZero : Binary → Bool
  | finite _ m _ => m == 0
  | _ => false

/-- The exact value of a finite number, as a signed numerator over a denominator. -/
def quotient? : Binary → Option (Int × Nat)
  | finite negative m e =>
    let (n, d) := scale m 1 (-e)
    some (if negative then -(n : Int) else n, d)
  | _ => none

def add (x y : Binary) : Binary :=
  match x, y with
  | nan, _ => nan
  | _, nan => nan
  | infinite s, infinite t => if s == t then infinite s else nan
  | infinite s, _ => infinite s
  | _, infinite t => infinite t
  | _, _ =>
    match x.quotient?, y.quotient? with
    | some (a, b), some (c, d) =>
      let n := a * d + c * b
      ofQuotient (n < 0) n.natAbs (b * d)
    | _, _ => nan

/-- Multiplies by a whole number that is not zero. -/
def times (n : Nat) (x : Binary) : Binary :=
  match x.quotient?, (ofInt n).quotient? with
  | some (a, b), some (c, d) => ofQuotient (a < 0) (a * c).natAbs (b * d)
  | _, _ => x

def neg : Binary → Binary
  | finite s m e => finite (!s) m e
  | infinite s => infinite (!s)
  | nan => nan

/-- The whole part, toward zero. -/
def truncate? (x : Binary) : Option Int :=
  x.quotient?.map fun (n, d) => Int.tdiv n d

def sameInt (x : Binary) (n : Int) : Bool :=
  match x.quotient? with
  | some (a, b) => a == n * b
  | none => false

/-- Numeric equality: the two zeros are equal and not-a-number equals nothing. -/
def same (x y : Binary) : Bool :=
  match x, y with
  | nan, _ => false
  | infinite s, infinite t => s == t
  | finite s m e, finite t n f => (m == 0 && n == 0) || (s == t && m == n && e == f)
  | _, _ => false

/-! ### Reading -/

/-- The values of the digits that a text begins with, and what is left. -/
def digitRun (cs : List Char) : List Nat × List Char :=
  let isDigit (c : Char) : Bool := (Text.digitValue? c).isSome
  ((cs.takeWhile isDigit).filterMap Text.digitValue?, cs.dropWhile isDigit)

/-- The exponent at the end of a number: a letter, perhaps a sign, and digits. Nothing stands for zero. -/
def exponent? (cs : List Char) : Option Int :=
  match cs with
  | [] => some 0
  | c :: rest =>
    if c != 'e' && c != 'E' then none
    else
      let (negative, rest) := match rest with
        | '-' :: ds => (true, ds)
        | '+' :: ds => (false, ds)
        | ds => (false, ds)
      let (digits, rest) := digitRun rest
      let n : Int := ofDigits 10 digits
      if digits.isEmpty || !rest.isEmpty then none else some (if negative then -n else n)

/-- Digits, perhaps with a point before, among or behind them, and an exponent. -/
def decimal? (negative : Bool) (cs : List Char) : Option Binary := do
  let (whole, rest) := digitRun cs
  let (part, rest) := match rest with
    | '.' :: more => digitRun more
    | _ => ([], rest)
  let e ← exponent? rest
  if whole.isEmpty && part.isEmpty then none
  else some (ofScientific negative (ofDigits 10 (whole ++ part)) (e - part.length))

/-- Reads a number without a sign. -/
def unsigned? (negative : Bool) (cs : List Char) : Option Binary :=
  match String.ofList (cs.map Char.toLower) with
  | "inf" => some (infinite negative)
  | "infinity" => some (infinite negative)
  | "nan" => some nan
  | _ => decimal? negative cs

/-- Reads a number with blanks around it, perhaps with a sign. -/
def read? (cs : List Char) : Option Binary :=
  match trimBlanks cs with
  | '-' :: cs => unsigned? true cs
  | '+' :: cs => unsigned? false cs
  | cs => unsigned? false cs

/-! ### Shortest decimal text -/

/-- The interval of quotients that round to `m * 2 ^ e`, doubled and over one denominator: the lower end,
the number itself, the upper end. -/
def interval (m : Nat) (e : Int) : Nat × Nat × Nat × Nat :=
  let (n, d) := scale 1 1 (-e)
  if m == Nat.pow 2 52 && e > minExponent then ((4 * m - 1) * n, 4 * m * n, (4 * m + 2) * n, 4 * d)
  else ((4 * m - 2) * n, 4 * m * n, (4 * m + 2) * n, 4 * d)

/-- The decimal position of the first digit: the least `k` with `num / den < 10 ^ k`. -/
def decimalPoint (num den : Nat) : Int :=
  ((Nat.toDigits 10 (num * Nat.pow 10 330 / den)).length : Int) - 330

/-- The point of the grid `10 ^ p` nearest to the number, if it rounds to it. -/
def onGrid? (m : Nat) (e p : Int) : Option Nat :=
  let (low, mid, high, den) := interval m e
  let (up, down) := if p < 0 then (Nat.pow 10 p.natAbs, 1) else (1, Nat.pow 10 p.natAbs)
  let unit := den * down
  let below := mid * up / unit
  let fits (x : Nat) : Bool :=
    if m % 2 == 0 then low * up <= x * unit && x * unit <= high * up
    else low * up < x * unit && x * unit < high * up
  let above := below + 1
  let gapBelow := mid * up - below * unit
  let gapAbove := above * unit - mid * up
  match fits below, fits above with
  | true, true =>
    some (if gapBelow < gapAbove || (gapBelow == gapAbove && below % 2 == 0) then below else above)
  | true, false => some below
  | false, true => some above
  | false, false => none

/-- The fewest digits that read back as `m * 2 ^ e` and the power of ten of the last one, trying `count`,
`count + 1`, … digits. -/
def shortestFrom (m : Nat) (e point : Int) : (fuel count : Nat) → Nat × Int
  | 0, _ => (m, 0)
  | fuel + 1, count =>
    match onGrid? m e (point - count) with
    | some x => (x, point - count)
    | none => shortestFrom m e point fuel (count + 1)

def shortest (m : Nat) (e : Int) : Nat × Int :=
  let (_, mid, _, den) := interval m e
  shortestFrom m e (decimalPoint mid den) 17 1

/-- Drops zeros at the end of a digit string. -/
def dropZeros (ds : List Char) : List Char :=
  (ds.reverse.dropWhile (· == '0')).reverse

/-- Positional from `0.0001` up to `10 ^ 16`, always with a point; outside, one digit before the point and
an exponent with a sign and at least two digits. -/
def finiteText (m : Nat) (e : Int) : String :=
  if m == 0 then "0.0"
  else
    let (x, p) := shortest m e
    let all := Nat.toDigits 10 x
    let point : Int := all.length + p
    let ds := dropZeros all
    if -4 < point && point <= 16 then
      if point <= 0 then
        "0." ++ String.ofList (List.replicate point.natAbs '0' ++ ds)
      else
        let whole := ds.take point.natAbs ++ List.replicate (point.natAbs - ds.length) '0'
        let part := ds.drop point.natAbs
        String.ofList (whole ++ '.' :: (if part.isEmpty then ['0'] else part))
    else
      let exponent := point - 1
      let head := match ds with
        | [] => []
        | [d] => [d]
        | d :: rest => d :: '.' :: rest
      let size := natText exponent.natAbs
      String.ofList head ++ (if exponent < 0 then "e-" else "e+") ++
        (if exponent.natAbs < 10 then "0" ++ size else size)

def text : Binary → String
  | finite s m e => (if s then "-" else "") ++ finiteText m e
  | infinite s => if s then "-inf" else "inf"
  | nan => "nan"

end Binary

end ClusterMdns.Number
