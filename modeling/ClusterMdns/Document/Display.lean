import ClusterMdns.Document.Value
import ClusterMdns.Text.Fields
import ClusterMdns.Text.Quoted

/-!
Values as log lines and messages show them. A text by itself stands bare; inside another value, and
where a message shows exactly what was given, it is quoted.
-/

namespace ClusterMdns.Document

open Number

/-- The least number with more digits than are ever written. -/
def writeLimit : Nat := Nat.pow 10 digitLimit

/-- A number of at least two digits. -/
def twoDigits (n : Nat) : String :=
  if n < 10 then "0" ++ natText n else natText n

/-- The lowest `width` digits of `n`. -/
def padded (width n : Nat) : String :=
  let ds := Nat.toDigits 10 n
  String.ofList (List.replicate (width - ds.length) '0' ++ ds)

namespace Date

def text (d : Date) : String :=
  padded 4 d.year ++ "-" ++ twoDigits d.month ++ "-" ++ twoDigits d.day

def fields (d : Date) : List String :=
  [natText d.year, natText d.month, natText d.day]

def literal (d : Date) : String :=
  "datetime.date(" ++ Text.join ", " d.fields ++ ")"

end Date

namespace Timestamp

/-- The distance from universal time as `+hh:mm`, with seconds if there are any. -/
def offsetText (seconds : Int) : String :=
  let n := seconds.natAbs
  let rest := n % 60
  (if seconds < 0 then "-" else "+") ++ twoDigits (n / 3600) ++ ":" ++ twoDigits (n / 60 % 60) ++
    (if rest == 0 then "" else ":" ++ twoDigits rest)

def text (t : Timestamp) : String :=
  t.date.text ++ " " ++ twoDigits t.hour ++ ":" ++ twoDigits t.minute ++ ":" ++ twoDigits t.second ++
    (if t.microsecond == 0 then "" else "." ++ padded 6 t.microsecond) ++
    (match t.offset with
      | some seconds => offsetText seconds
      | none => "")

/-- A zone is shown by its distance in days and seconds, the seconds never negative. -/
def zoneLiteral (seconds : Int) : String :=
  if seconds == 0 then "datetime.timezone.utc"
  else
    let days := Int.fdiv seconds 86400
    let rest := Int.fmod seconds 86400
    let parts := (if days == 0 then [] else ["days=" ++ intText days]) ++
      (if rest == 0 then [] else ["seconds=" ++ intText rest])
    "datetime.timezone(datetime.timedelta(" ++ Text.join ", " parts ++ "))"

/-- Seconds and microseconds of zero at the end are left out. -/
def literal (t : Timestamp) : String :=
  let clock := [natText t.hour, natText t.minute] ++
    (if t.microsecond != 0 then [natText t.second, natText t.microsecond]
     else if t.second != 0 then [natText t.second] else [])
  let zone := match t.offset with
    | some seconds => ["tzinfo=" ++ zoneLiteral seconds]
    | none => []
  "datetime.datetime(" ++ Text.join ", " (t.date.fields ++ clock ++ zone) ++ ")"

end Timestamp

def byteLiteral (quote : Char) (b : UInt8) : List Char :=
  let n := b.toNat
  let c := Char.ofNat n
  if c == quote || c == '\\' then ['\\', c]
  else if c == '\n' then ['\\', 'n']
  else if c == '\r' then ['\\', 'r']
  else if c == '\t' then ['\\', 't']
  else if 32 <= n && n < 127 then [c]
  else '\\' :: 'x' :: Text.hexDigits 2 n

def bytesLiteral (bs : List UInt8) : String :=
  let quote := if bs.contains 39 && !bs.contains 34 then '"' else '\''
  String.ofList ('b' :: quote :: bs.flatMap (byteLiteral quote) ++ [quote])

namespace Scalar

def literal : Scalar → String
  | null => "None"
  | bool true => "True"
  | bool false => "False"
  | int n => intText n
  | float x => x.text
  | str s => Text.quoted s
  | bytes bs => bytesLiteral bs
  | date d => d.literal
  | timestamp t => t.literal

/-- As `literal`, with texts and dates bare. -/
def text : Scalar → String
  | str s => s
  | date d => d.text
  | timestamp t => t.text
  | s => s.literal

/-- A number of too many digits cannot be written. -/
def isWritable : Scalar → Bool
  | int n => n.natAbs < writeLimit
  | _ => true

def text? (s : Scalar) : Except Fault String :=
  if s.isWritable then .ok s.text else .error .badValue

end Scalar

namespace Value

/-! ### Written form -/

/-- What stands for a collection inside itself. -/
def ellipsis : Value → String
  | dict _ => "\x7b...\x7d"
  | _ => "[...]"

def braced (items : List String) : String :=
  "\x7b" ++ Text.join ", " items ++ "\x7d"

mutual

/-- The written form inside the collections `around`, given by their labels and what stands for them. -/
def literalIn (around : List (Nat × String)) : Value → String
  | scalar s => s.literal
  | list items => "[" ++ Text.join ", " (itemLiterals around items) ++ "]"
  | dict entries => braced (entryLiterals around entries)
  | pair k v => "(" ++ literalIn around k ++ ", " ++ literalIn around v ++ ")"
  | set members => if members.isEmpty then "set()" else braced (members.map Scalar.literal)
  | tied label v =>
    match around.lookup label with
    | some s => s
    | none => literalIn ((label, ellipsis v) :: around) v
  | back label => (around.lookup label).getD ""

def itemLiterals (around : List (Nat × String)) : List Value → List String
  | [] => []
  | v :: rest => literalIn around v :: itemLiterals around rest

def entryLiterals (around : List (Nat × String)) : List (Scalar × Value) → List String
  | [] => []
  | (k, v) :: rest => (k.literal ++ ": " ++ literalIn around v) :: entryLiterals around rest

end

def literal (v : Value) : String :=
  literalIn [] v

def text : Value → String
  | scalar s => s.text
  | v => v.literal

/-! ### Values without a written form -/

mutual

def isWritable : Value → Bool
  | scalar s => s.isWritable
  | list items => areWritable items
  | dict entries => entriesAreWritable entries
  | pair k v => isWritable k && isWritable v
  | set members => members.all Scalar.isWritable
  | tied _ v => isWritable v
  | back _ => true

def areWritable : List Value → Bool
  | [] => true
  | v :: rest => isWritable v && areWritable rest

def entriesAreWritable : List (Scalar × Value) → Bool
  | [] => true
  | (k, v) :: rest => k.isWritable && isWritable v && entriesAreWritable rest

end

/-- The text of a value, if every number in it can be written. -/
def text? (v : Value) : Except Fault String :=
  if v.isWritable then .ok v.text else .error .badValue

end Value

/-- A list of texts as a log line shows it. -/
def textsLiteral (ss : List String) : String :=
  (Value.list (ss.map Value.str)).literal

end ClusterMdns.Document
