import ClusterMdns.Document.Yaml.Cursor
import ClusterMdns.Number.Binary
import ClusterMdns.Text.Base64
import ClusterMdns.Text.Fields
import ClusterMdns.Text.Hex
import ClusterMdns.Text.LowerCase

/-!
The core types of YAML 1.1: which type the text of a plain scalar has, and the value of a text of a type.
-/

namespace ClusterMdns.Document.Yaml

open Number

/-- The types a node may have. Any other type that a document names is `unknown`. -/
inductive Tag where
  | null
  | bool
  | int
  | float
  | timestamp
  | binary
  | str
  | merge
  | equals
  | seq
  | map
  | omap
  | pairs
  | set
  | unknown
deriving DecidableEq, Repr

namespace Tag

def space : String := "tag:yaml.org,2002:"

def ofName (name : String) : Tag :=
  match [("null", null), ("bool", bool), ("int", int), ("float", float), ("timestamp", timestamp),
      ("binary", binary), ("str", str), ("merge", merge), ("value", equals), ("seq", seq),
      ("map", map), ("omap", omap), ("pairs", pairs), ("set", set)].find? fun (word, _) => space ++ word == name with
  | some (_, tag) => tag
  | none => unknown

end Tag

def isDigit (c : Char) : Bool := '0' <= c && c <= '9'

def isDigitOrGap (c : Char) : Bool := isDigit c || c == '_'

/-- A text without its sign, and whether that was a minus. -/
def unsign : List Char → Bool × List Char
  | '-' :: cs => (true, cs)
  | '+' :: cs => (false, cs)
  | cs => (false, cs)

/-- Digits and underscores, beginning with a digit. -/
def isGappedDigits (cs : List Char) : Bool :=
  cs.head?.any isDigit && cs.all isDigitOrGap

def isGappedNumber (cs : List Char) : Bool :=
  isGappedDigits cs && cs.head? != some '0'

/-- A place of a number in base 60: one digit, or two of which the first is at most 5. -/
def isSixtieth : List Char → Bool
  | [x] => isDigit x
  | [x, y] => '0' <= x && x <= '5' && isDigit y
  | _ => false

def isInt (cs : List Char) : Bool :=
  match (unsign cs).2 with
  | [] => false
  | ['0'] => true
  | '0' :: 'b' :: ds => !ds.isEmpty && ds.all fun c => c == '0' || c == '1' || c == '_'
  | '0' :: 'x' :: ds => !ds.isEmpty && ds.all fun c => (Text.hexValue? c).isSome || c == '_'
  | '0' :: ds => ds.all fun c => ('0' <= c && c <= '7') || c == '_'
  | ds => match Text.splitChars (· == ':') ds with
    | [whole] => isGappedNumber whole
    | whole :: places => isGappedNumber whole && places.all isSixtieth
    | [] => false

/-- An exponent: a letter, a sign and digits, or nothing at all. -/
def isExponent : List Char → Bool
  | [] => true
  | e :: sign :: ds =>
    (e == 'e' || e == 'E') && (sign == '+' || sign == '-') && !ds.isEmpty && ds.all isDigit
  | _ => false

/-- A decimal number with a point. -/
def isPointed (cs : List Char) : Bool :=
  match cs.dropWhile isDigitOrGap with
  | '.' :: rest => isExponent (rest.dropWhile isDigitOrGap)
  | _ => false

def isFloat (cs : List Char) : Bool :=
  let (_, body) := unsign cs
  let signed := body.length != cs.length
  match body with
  | '.' :: rest =>
    [".inf", ".Inf", ".INF"].contains (String.ofList body) ||
      (!signed && [".nan", ".NaN", ".NAN"].contains (String.ofList body)) ||
      (!signed && rest.head?.any isDigit && isPointed body)
  | _ =>
    if !body.head?.any isDigit then false
    else if body.contains ':' then
      let point := body.takeWhile (· != '.')
      let rest := body.dropWhile (· != '.')
      match Text.splitChars (· == ':') point with
      | whole :: place :: places =>
        isGappedDigits whole && (place :: places).all isSixtieth && !rest.isEmpty &&
          rest.tail.all isDigitOrGap
      | _ => false
    else isPointed body

/-! ### Dates and times -/

def digitsIn (cs : List Char) : List Nat :=
  (cs.filter isDigit).map fun c => c.toNat - 48

/-- A number of at least `least` and at most `most` digits. -/
def digits? (least most : Nat) (cs : List Char) : Option (Nat × List Char) :=
  let ds := (cs.takeWhile isDigit).take most
  if ds.length < least then none else some (ofDigits 10 (digitsIn ds), cs.drop ds.length)

def expect? (c : Char) : List Char → Option (List Char)
  | x :: cs => if x == c then some cs else none
  | [] => none

/-- Year, month and day, the latter two of `least` to two digits. -/
def date? (least : Nat) (cs : List Char) : Option (Date × List Char) := do
  let (year, cs) ← digits? 4 4 cs
  let (month, cs) ← digits? least 2 (← expect? '-' cs)
  let (day, cs) ← digits? least 2 (← expect? '-' cs)
  some (⟨year, month, day⟩, cs)

def isSpace (c : Char) : Bool := c == ' ' || c == '\t'

/-- What stands between date and time. -/
def timeMark? (cs : List Char) : Option (List Char) :=
  match cs with
  | 'T' :: rest => some rest
  | 't' :: rest => some rest
  | c :: _ => if isSpace c then some (cs.dropWhile isSpace) else none
  | [] => none

/-- The zone at the end of a time, in seconds. -/
def zone? (cs : List Char) : Option (Option Int) :=
  if cs.isEmpty then some none
  else
    match cs.dropWhile isSpace with
    | ['Z'] => some (some 0)
    | s :: rest =>
      if s == '+' || s == '-' then do
        let (hours, rest) ← digits? 1 2 rest
        let minutes ← match rest with
          | [] => some 0
          | ':' :: rest => do
            let (n, rest) ← digits? 2 2 rest
            if rest.isEmpty then some n else none
          | _ => none
        let seconds : Int := hours * 3600 + minutes * 60
        some (some (if s == '-' then -seconds else seconds))
      else none
    | [] => none

/-- The digits of a fraction of a second as microseconds. -/
def microseconds (ds : List Char) : Nat :=
  let six := ds.take 6
  ofDigits 10 (digitsIn (six ++ List.replicate (6 - six.length) '0'))

def time? (date : Date) (cs : List Char) : Option Timestamp := do
  let (hour, cs) ← digits? 1 2 cs
  let (minute, cs) ← digits? 2 2 (← expect? ':' cs)
  let (second, cs) ← digits? 2 2 (← expect? ':' cs)
  let (fraction, cs) := match cs with
    | '.' :: rest => (rest.takeWhile isDigit, rest.dropWhile isDigit)
    | _ => ([], cs)
  let offset ← zone? cs
  some ⟨date, hour, minute, second, microseconds fraction, offset⟩

/-- A date, or a date and a time; a date by itself has months and days of at least `least` digits. -/
def moment? (least : Nat) (cs : List Char) : Option (Date ⊕ Timestamp) := do
  let (date, rest) ← date? 1 cs
  if rest.isEmpty then
    let (date, _) ← date? least cs
    some (.inl date)
  else (time? date (← timeMark? rest)).map .inr

/-- Whether the day is in the calendar. -/
def inCalendar (d : Date) : Bool :=
  1 <= d.year && 1 <= d.month && d.month <= 12 && 1 <= d.day && d.day <= Date.monthLength d.year d.month

/-- Whether the time is on the clock and its zone less than a day away. -/
def onClock (t : Timestamp) : Bool :=
  inCalendar t.date && t.hour < 24 && t.minute < 60 && t.second < 60 &&
    (t.offset.getD 0).natAbs < 86400

/-! ### Types and values -/

def trueWords : List String := ["yes", "Yes", "YES", "true", "True", "TRUE", "on", "On", "ON"]

def falseWords : List String := ["no", "No", "NO", "false", "False", "FALSE", "off", "Off", "OFF"]

def nullWords : List String := ["", "~", "null", "Null", "NULL"]

/-- A text without one line feed at its end. -/
def withoutLineFeed (cs : List Char) : List Char :=
  if cs.getLast? == some '\n' then cs.dropLast else cs

/-- Numbers and points in time begin with a digit, a sign or a point. -/
def beginsNumber (cs : List Char) : Bool :=
  cs.head?.any fun c => isDigit c || c == '-' || c == '+' || c == '.'

/-- Other scalars that are no texts begin with one of these, unless they are empty. -/
def beginsWord (cs : List Char) : Bool :=
  cs.head?.all "yYtToOnNfF~<=!&*".toList.contains

/-- The type of a plain scalar. A line feed at its end does not count, unless there is nothing else. -/
def Tag.ofPlain (s : String) : Tag :=
  let cs := if s == "\n" then s.toList else withoutLineFeed s.toList
  if beginsNumber cs then
    if isFloat cs then .float
    else if isInt cs then .int
    else if (moment? 2 cs).isSome then .timestamp
    else .str
  else if !beginsWord cs then .str
  else
    let word := String.ofList cs
    if trueWords.contains word || falseWords.contains word then .bool
    else if word == "<<" then .merge
    else if nullWords.contains word then .null
    else if word == "=" then .equals
    else if ["!", "&", "*"].contains word then .unknown
    else .str

def bad {α : Type} : Except Error α := .error (.fault .badValue)

def boolValue (s : String) : Except Error Scalar :=
  match Text.lower s with
  | "yes" => .ok (.bool true)
  | "true" => .ok (.bool true)
  | "on" => .ok (.bool true)
  | "no" => .ok (.bool false)
  | "false" => .ok (.bool false)
  | "off" => .ok (.bool false)
  | _ => .error (.fault .noEntry)

/-- A number in base 60, most significant place first. -/
def sixtieths (places : List Int) : Int :=
  places.foldl (fun acc d => acc * 60 + d) 0

/-- A number without the sign before it: binary, hexadecimal, octal, in base 60 or decimal. -/
def whole? (cs : List Char) : Option Int :=
  match cs with
  | '0' :: 'b' :: ds => readIntIn? 2 'b' ds
  | '0' :: 'x' :: ds => readIntIn? 16 'x' ds
  | '0' :: _ => readIntIn? 8 'o' cs
  | _ => ((Text.splitChars (· == ':') cs).mapM (readSigned? readNat?)).map sixtieths

def intValue (s : String) : Except Error Scalar :=
  let (negative, cs) := unsign (s.toList.filter (· != '_'))
  if cs.isEmpty then .error (.fault .tooShort)
  else match whole? cs with
    | some n => .ok (.int (if negative then -n else n))
    | none => bad

/-- The most places of a number in base 60 that is rounded at every place. -/
def placeLimit : Nat := 174

/-- The sum of places in base 60, rounded at every step, least significant place first. -/
def sixtiethsRounded (base : Nat) (acc : Binary) : List Binary → Binary
  | [] => acc
  | d :: ds => sixtiethsRounded (base * 60) (acc.add (d.times base)) ds

def floatValue (s : String) : Except Error Scalar :=
  let all := (Text.lower s).toList.filter (· != '_')
  let (negative, cs) := unsign all
  let signed (x : Binary) : Except Error Scalar := .ok (.float (if negative then x.neg else x))
  if all.isEmpty then .error (.fault .tooShort)
  else match String.ofList cs with
    | ".inf" => signed (.infinite false)
    | ".nan" => signed .nan
    | _ =>
      if cs.contains ':' then
        match (Text.splitChars (· == ':') cs).mapM Binary.read? with
        | some places =>
          if places.length > placeLimit then .error (.fault .overflow)
          else signed (sixtiethsRounded 1 (.zero false) places.reverse)
        | none => bad
      else match Binary.read? cs with
        | some x => signed x
        | none => bad

def momentValue (s : String) : Except Error Scalar :=
  match moment? 1 (withoutLineFeed s.toList) with
  | some (.inl d) => if inCalendar d then .ok (.date d) else bad
  | some (.inr t) => if onClock t then .ok (.timestamp t) else bad
  | none => .error (.fault .noOperation)

def binaryValue (s : String) : Except Error Scalar :=
  if s.toList.all fun c => c.toNat < 128 then
    match Text.Base64.decode? s.toList with
    | some bs => .ok (.bytes bs)
    | none => .error .malformed
  else .error .malformed

/-- The value of the text of a scalar. -/
def Tag.value (tag : Tag) (s : String) : Except Error Scalar :=
  match tag with
  | .null => .ok .null
  | .bool => boolValue s
  | .int => intValue s
  | .float => floatValue s
  | .timestamp => momentValue s
  | .binary => binaryValue s
  | .str => .ok (.str s)
  | _ => .error .malformed

end ClusterMdns.Document.Yaml
