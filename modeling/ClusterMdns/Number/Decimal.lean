import ClusterMdns.Text.Blank
import ClusterMdns.Text.Digit
import ClusterMdns.Text.Hex

/-!
Whole numbers as text. Written: a minus sign and the digits without leading zeros. Read: blanks around,
one sign, digits of any script, single underscores between digits, and no more than 4300 digits where the
base is ten.
-/

namespace ClusterMdns.Number

def natText (n : Nat) : String :=
  String.ofList (Nat.toDigits 10 n)

def intText (n : Int) : String :=
  if n < 0 then "-" ++ natText n.natAbs else natText n.natAbs

/-- The value of a digit string in `base`, most significant digit first. -/
def ofDigits (base : Nat) (digits : List Nat) : Nat :=
  digits.foldl (fun acc d => acc * base + d) 0

/-! ### Reading -/

/-- The value of a digit below `base`: a digit of any script, or a letter from 10 on. -/
def digitValue? (base : Nat) (c : Char) : Option Nat := do
  let d ← (Text.digitValue? c).orElse fun _ => Text.hexValue? c
  if d < base then some d else none

/-- Digits with single underscores between them; `afterDigit` tells whether one has just been read. -/
def digitsOf? (base : Nat) (afterDigit : Bool) : List Char → Option (List Nat)
  | [] => if afterDigit then some [] else none
  | c :: cs =>
    if c == '_' then
      if afterDigit then digitsOf? base false cs else none
    else match digitValue? base c with
      | some d => (digitsOf? base true cs).map (d :: ·)
      | none => none

/-- The most digits a decimal number that is read may have. -/
def digitLimit : Nat := 4300

def readNat? (cs : List Char) : Option Nat :=
  match digitsOf? 10 false cs with
  | some ds => if ds.length <= digitLimit then some (ofDigits 10 ds) else none
  | none => none

/-- A number of any length in another base; a zero and the letter of the base may stand before it. -/
def readNatIn? (base : Nat) (letter : Char) (cs : List Char) : Option Nat :=
  match cs with
  | '0' :: mark :: rest =>
    if mark == letter || mark == letter.toUpper then
      if rest.isEmpty then none else (digitsOf? base true rest).map (ofDigits base)
    else (digitsOf? base false cs).map (ofDigits base)
  | _ => (digitsOf? base false cs).map (ofDigits base)

/-- Blanks around a number; the information separators of ASCII are none here. -/
def isBlank (c : Char) : Bool :=
  Text.isBlank c && !(28 <= c.toNat && c.toNat <= 31)

def trimBlanks (cs : List Char) : List Char :=
  Text.dropTrailing isBlank (cs.dropWhile isBlank)

/-- Takes the blanks around a number and its sign away. -/
def readSigned? (read? : List Char → Option Nat) (cs : List Char) : Option Int :=
  match trimBlanks cs with
  | '-' :: cs => (read? cs).map fun n => -(n : Int)
  | '+' :: cs => (read? cs).map Int.ofNat
  | cs => (read? cs).map Int.ofNat

def readInt? (s : String) : Option Int :=
  readSigned? readNat? s.toList

def readIntIn? (base : Nat) (letter : Char) (cs : List Char) : Option Int :=
  readSigned? (readNatIn? base letter) cs

end ClusterMdns.Number
