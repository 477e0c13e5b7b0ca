import ClusterMdns.Number.Decimal
import ClusterMdns.Text.Blank
import ClusterMdns.Text.Fields
import ClusterMdns.Text.Prepared
import ClusterMdns.Text.Punycode

/-!
Domain names as lists of labels, the text of a name, and names read from text. Bytes that cannot be
shown are written as a backslash and three decimal digits; labels with characters beyond ASCII are coded
in plain ones.
-/

namespace ClusterMdns.Dns

abbrev Label := List UInt8

abbrev Name := List Label

namespace Name

def root : Name := []

/-- The lowest three decimal digits of a number. -/
def threeDigits (n : Nat) : List Char :=
  [Nat.digitChar (n / 100 % 10), Nat.digitChar (n / 10 % 10), Nat.digitChar (n % 10)]

def byteText (b : UInt8) : List Char :=
  let n := b.toNat
  if 33 <= n && n < 127 then [Char.ofNat n] else '\\' :: threeDigits n

/-- The labels, each followed by a dot; the root is a dot by itself. -/
def chars (name : Name) : List Char :=
  if name.isEmpty then ['.']
  else name.flatMap fun label => label.flatMap byteText ++ ['.']

def text (name : Name) : String :=
  String.ofList name.chars

/-- The text in lower case, by which names are compared. -/
def folded (name : Name) : String :=
  String.ofList (name.chars.map Char.toLower)

/-- The length of the labels and the dots between them. -/
def size (name : Name) : Nat :=
  name.foldr (fun label n => label.length + n) 0 + (name.length - 1)

/-- The character that three digits stand for. -/
def escaped? : List Char → Option Char
  | [a, b, c] =>
    if [a, b, c].all fun x => '0' <= x && x <= '9' then
      some (Char.ofNat ((a.toNat - 48) * 100 + (b.toNat - 48) * 10 + (c.toNat - 48)))
    else none
  | _ => none

/-- Puts characters for backslashes followed by three digits; the next `skip` characters are dropped. -/
def unescape : (skip : Nat) → List Char → List Char
  | _, [] => []
  | skip + 1, _ :: rest => unescape skip rest
  | 0, c :: rest =>
    match if c == '\\' then escaped? (rest.take 3) else none with
    | some x => x :: unescape 3 rest
    | none => c :: unescape 0 rest

def isLabel (cs : List Char) : Bool :=
  0 < cs.length && cs.length < 64

def isPlain (cs : List Char) : Bool :=
  cs.all (·.toNat < 0x80)

/-- Labels of a plain text between dots. -/
def labelsOf (cs : List Char) : Name :=
  (Text.splitChars (· == '.') cs).map fun label => label.map fun c => c.toNat.toUInt8

/-- The name in a plain text; only its last label may be empty, which is then left out. -/
def ofPlain? (cs : List Char) : Option Name :=
  let pieces := Text.splitChars (· == '.') cs
  let labels := if pieces.getLast? == some [] then pieces.dropLast else pieces
  if pieces.dropLast.all isLabel && labels.all isLabel then
    some (labels.map fun label => label.map fun c => c.toNat.toUInt8)
  else none

/-! ### Labels in any script -/

/-- What marks a label that holds characters in coded form. -/
def codedMark : List Char := ['x', 'n', '-', '-']

/-- The plain form of a label: prepared, and coded where that leaves characters beyond ASCII. A label that
has the mark before it is coded is refused. -/
def plainLabel? (cs : List Char) : Option (List Char) := do
  let prepared ← if isPlain cs then some cs else Text.Prepared.prepare? cs
  let plain ←
    if isPlain prepared then some prepared
    else if codedMark.isPrefixOf prepared then none
    else some (codedMark ++ Text.Punycode.encode prepared)
  if isLabel plain then some plain else none

/-- Dots of every script. -/
def isDot (c : Char) : Bool :=
  [0x2E, 0x3002, 0xFF0E, 0xFF61].contains c.toNat

/-- The name in a text of any characters. Labels whose prepared form has dots fall apart; dots at the end
are left out. -/
def ofPrepared? (cs : List Char) : Option Name := do
  let pieces := Text.splitChars isDot cs
  let pieces := if pieces.getLast? == some [] then pieces.dropLast else pieces
  let labels ← pieces.mapM plainLabel?
  some (labelsOf (Text.dropTrailing (· == '.') (Text.joinChars ['.'] labels)))

/-- The name that a text stands for, with or without a dot at its end. -/
def ofText? (s : String) : Option Name :=
  if s == "" || s == "." then some root
  else
    let cs := unescape 0 s.toList
    if isPlain cs then ofPlain? cs else ofPrepared? cs

/-- The name in a text that ends in a dot, and the one below `origin` in any other. -/
def below? (origin : Name) (s : String) : Option Name :=
  if Text.endsWith "." s then ofText? s else (ofText? s).map (· ++ origin)

end Name

end ClusterMdns.Dns
