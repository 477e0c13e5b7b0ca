import ClusterMdns.Number.Binary

/-!
Values of documents: cluster objects, settings files and cluster access files. A mapping keeps its
entries in the order in which their keys came first; its keys are scalars. A collection may be part of
itself: it bears a label then, which stands for it inside.
-/

namespace ClusterMdns.Document

open Number

structure Date where
  year : Nat
  month : Nat
  day : Nat
deriving DecidableEq, Repr

namespace Date

def isLeapYear (year : Nat) : Bool :=
  year % 4 == 0 && (year % 100 != 0 || year % 400 == 0)

/-- Days of a month; every month that is no month has 31. -/
def monthLength (year month : Nat) : Nat :=
  if month == 2 then if isLeapYear year then 29 else 28
  else if [4, 6, 9, 11].contains month then 30
  else 31

/-- Days before a date, from the first day of the year 1 on. -/
def days (d : Date) : Nat :=
  let years := d.year - 1
  let months := (List.range (d.month - 1)).map fun m => monthLength d.year (m + 1)
  years * 365 + years / 4 - years / 100 + years / 400 + months.foldl (· + ·) 0 + (d.day - 1)

end Date

/-- A time of day on a date; `offset` is the distance from universal time in seconds, if one is given. -/
structure Timestamp where
  date : Date
  hour : Nat
  minute : Nat
  second : Nat
  microsecond : Nat
  offset : Option Int
deriving DecidableEq, Repr

namespace Timestamp

/-- Seconds on the clock since the first day of the year 1. -/
def clock (t : Timestamp) : Int :=
  ((t.date.days * 24 + t.hour) * 60 + t.minute) * 60 + t.second

/-- Whether two points in time are equal: the same instant if both have a zone, the same on the clock if
neither has. -/
def same (t u : Timestamp) : Bool :=
  match t.offset, u.offset with
  | some a, some b => t.clock - a == u.clock - b && t.microsecond == u.microsecond
  | none, none => t == u
  | _, _ => false

end Timestamp

inductive Scalar where
  | null
  | bool (b : Bool)
  | int (n : Int)
  | float (x : Binary)
  | str (s : String)
  | bytes (bs : List UInt8)
  | date (d : Date)
  | timestamp (t : Timestamp)
deriving DecidableEq, Repr

inductive Value where
  | scalar (s : Scalar)
  | list (items : List Value)
  | dict (entries : List (Scalar × Value))
  /-- A key with its value, as an item of an ordered mapping. -/
  | pair (key value : Value)
  | set (members : List Scalar)
  /-- A collection that parts of it refer to by a label, or that is inside one to which it refers. -/
  | tied (label : Nat) (v : Value)
  /-- The collection around this place that bears a label. -/
  | back (label : Nat)
deriving Repr, Inhabited

/-- Why something cannot be used where it stands. -/
inductive Fault where
  /-- A look-up or a text operation asked of another kind of value. -/
  | noOperation
  /-- A value of the wrong kind as an operand. -/
  | wrongKind
  /-- A value of the right kind that has no meaning here. -/
  | badValue
  /-- An infinite number where a whole number is needed. -/
  | overflow
  /-- Bytes that are no text. -/
  | undecodable
  /-- A word that names nothing. -/
  | noEntry
  /-- An empty text where a character is needed. -/
  | tooShort
  /-- Collections inside each other without measure. -/
  | tooDeep
  /-- A path that no file can have. -/
  | longPath
  /-- No home directory. -/
  | noHome
deriving DecidableEq, Repr

namespace Scalar

/-- A truth value counts as 0 or 1 among numbers. -/
def number? : Scalar → Option (Int ⊕ Binary)
  | bool b => some (.inl (if b then 1 else 0))
  | int n => some (.inl n)
  | float x => some (.inr x)
  | _ => none

/-- Equality of values: numbers by their size, whatever their kind; points in time by the instant, where
both have a zone; all else by kind and content. -/
def same (a b : Scalar) : Bool :=
  match a.number?, b.number? with
  | some (.inl m), some (.inl n) => m == n
  | some (.inl m), some (.inr y) => y.sameInt m
  | some (.inr x), some (.inl n) => x.sameInt n
  | some (.inr x), some (.inr y) => x.same y
  | none, none =>
    match a, b with
    | timestamp t, timestamp u => t.same u
    | _, _ => a == b
  | _, _ => false

/-- Whether two keys name the same entry; that which is no number is a key like any other. -/
def sameKey (a b : Scalar) : Bool :=
  a.same b || (a == float .nan && b == float .nan)

/-- Whether the value counts as something: not null, false, zero or empty. -/
def truthy : Scalar → Bool
  | null => false
  | bool b => b
  | int n => n != 0
  | float x => !x.isZero
  | str s => s != ""
  | bytes bs => !bs.isEmpty
  | date _ => true
  | timestamp _ => true

end Scalar

/-- The entry of a mapping under `key`. -/
def lookup (key : Scalar) : List (Scalar × Value) → Option Value
  | [] => none
  | (k, v) :: rest => if k.same key then some v else lookup key rest

/-- Sets an entry; a key that is there keeps its spelling and its place. -/
def insert {α : Type} (key : Scalar) (value : α) : List (Scalar × α) → List (Scalar × α)
  | [] => [(key, value)]
  | (k, v) :: rest => if k.sameKey key then (k, value) :: rest else (k, v) :: insert key value rest

/-- The mapping that the entries make when set one after another. -/
def ofEntries {α : Type} (entries : List (Scalar × α)) : List (Scalar × α) :=
  entries.foldl (fun acc (k, v) => insert k v acc) []

namespace Value

@[match_pattern] abbrev null : Value := scalar .null

@[match_pattern] abbrev str (s : String) : Value := scalar (.str s)

@[match_pattern] abbrev int (n : Int) : Value := scalar (.int n)

@[match_pattern] abbrev bool (b : Bool) : Value := scalar (.bool b)

/-! ### Collections that are part of themselves -/

mutual

/-- Puts a value for a label. -/
def fill (label : Nat) (w : Value) : Value → Value
  | scalar s => scalar s
  | list items => list (fillItems label w items)
  | dict entries => dict (fillEntries label w entries)
  | pair k v => pair (fill label w k) (fill label w v)
  | set members => set members
  | tied l v => if l == label then tied l v else tied l (fill label w v)
  | back l => if l == label then w else back l

def fillItems (label : Nat) (w : Value) : List Value → List Value
  | [] => []
  | v :: rest => fill label w v :: fillItems label w rest

def fillEntries (label : Nat) (w : Value) : List (Scalar × Value) → List (Scalar × Value)
  | [] => []
  | (k, v) :: rest => (k, fill label w v) :: fillEntries label w rest

end

/-- The collection itself, with its label filled in. -/
def opened (v : Value) : Value :=
  match v with
  | tied l inner => fill l v inner
  | _ => v

/-! ### Properties -/

def truthy : Value → Bool
  | scalar s => s.truthy
  | list items => !items.isEmpty
  | dict entries => !entries.isEmpty
  | set members => !members.isEmpty
  | tied _ v => truthy v
  | pair _ _ | back _ => true

/-- The value itself if it counts as something, else `other`. -/
def orElse (v other : Value) : Value :=
  if v.truthy then v else other

mutual

/-- Equality of values; the order of a mapping's entries does not matter. A collection that is part of
itself is equal to itself. -/
def same : Value → Value → Bool
  | scalar a, scalar b => a.same b
  | list xs, list ys => sameItems xs ys
  | dict xs, dict ys => xs.length == ys.length && sameEntries xs ys
  | pair k v, pair l w => same k l && same v w
  | set xs, set ys => xs.length == ys.length && xs.all fun x => ys.any x.same
  | tied l v, tied m w => l == m || same v w
  | back l, back m => l == m
  | _, _ => false

def sameItems : List Value → List Value → Bool
  | [], [] => true
  | x :: xs, y :: ys => same x y && sameItems xs ys
  | _, _ => false

def sameEntries : List (Scalar × Value) → List (Scalar × Value) → Bool
  | [], _ => true
  | (k, x) :: xs, ys =>
    (match lookup k ys with
      | some y => same x y
      | none => false) && sameEntries xs ys

end

mutual

/-- All texts inside a value, keys apart. -/
def texts : Value → List String
  | scalar (.str s) => [s]
  | scalar _ => []
  | list items => textsOfItems items
  | dict entries => textsOfEntries entries
  | pair k v => texts k ++ texts v
  | tied _ v => texts v
  | set _ | back _ => []

def textsOfItems : List Value → List String
  | [] => []
  | v :: rest => texts v ++ textsOfItems rest

def textsOfEntries : List (Scalar × Value) → List String
  | [] => []
  | (_, v) :: rest => texts v ++ textsOfEntries rest

end

/-- Whether the value is the text `s`. -/
def isText (v : Value) (s : String) : Bool :=
  match v with
  | str t => t == s
  | _ => false

/-! ### Looking into a value -/

/-- The entry under a text key of a mapping; other values have none to ask for. -/
def get? (v : Value) (key : String) : Except Fault (Option Value) :=
  match v.opened with
  | dict entries => .ok (lookup (.str key) entries)
  | _ => .error .noOperation

/-- The entry under a text key, null when there is none. -/
def get (v : Value) (key : String) : Except Fault Value :=
  (v.get? key).map (·.getD null)

/-- The mapping under a text key; a missing one, or one that counts as nothing, is empty. -/
def section? (v : Value) (key : String) : Except Fault Value :=
  (v.get key).map (·.orElse (dict []))

/-- What stepping through a value meets: the items of a list, the keys of a mapping, the characters of a
text, the numbers of a byte string. -/
def elements (v : Value) : Except Fault (List Value) :=
  match v.opened with
  | list items => .ok items
  | dict entries => .ok (entries.map fun (k, _) => scalar k)
  | pair k w => .ok [k, w]
  | set members => .ok (members.map scalar)
  | str s => .ok (s.toList.map fun c => str (String.singleton c))
  | scalar (.bytes bs) => .ok (bs.map fun b => int b.toNat)
  | _ => .error .wrongKind

/-- The text of a value that is one. Bytes have the operations of texts, but not with texts as operands. -/
def asText : Value → Except Fault String
  | str s => .ok s
  | scalar (.bytes _) => .error .wrongKind
  | _ => .error .noOperation

end Value

end ClusterMdns.Document
