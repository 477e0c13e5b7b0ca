import ClusterMdns.Dns.Record

/-!
The data of a record, read from the words of its line.
-/

namespace ClusterMdns.Dns.Zone

/-! ### Addresses -/

def octet? (n : Int) : Option UInt8 :=
  if 0 <= n && n <= 255 then some n.toNat.toUInt8 else none

/-- Four decimal numbers up to 255 between dots. -/
def addressV4? (s : String) : Option AddressV4 := do
  let cs := Text.dropTrailing (· == '.') s.toList
  match (Text.splitChars (· == '.') cs).mapM fun p => Number.readInt? (String.ofList p) with
  | some [a, b, c, d] => some ⟨← octet? a, ← octet? b, ← octet? c, ← octet? d⟩
  | _ => none

def number16? (n : Int) : Option UInt16 :=
  if 0 <= n && n < 65536 then some n.toNat.toUInt16 else none

/-- The groups between colons; empty ones are passed over. -/
def groups? (cs : List Char) : Option (List UInt16) :=
  ((Text.splitChars (· == ':') cs).filter (!·.isEmpty)).mapM fun p => do
    number16? (← Number.readIntIn? 16 'x' p)

/-- A text up to its first two colons, and what follows them. -/
def cutAtGap (before : List Char) : List Char → List Char × List Char
  | [] => (before.reverse, [])
  | ':' :: ':' :: rest => (before.reverse, rest)
  | c :: rest => cutAtGap (c :: before) rest

/-- Groups before and after two colons, with zeros between them up to eight groups. -/
def groupsV6? (s : String) : Option (Vector UInt16 8) := do
  let (front, back) := cutAtGap [] s.toList
  let front ← groups? front
  let back ← groups? back
  let all := front ++ List.replicate (8 - (front.length + back.length)) 0 ++ back
  if h : all.length = 8 then some ⟨all.toArray, by simpa using h⟩ else none

/-! ### Times -/

/-- Seconds in the unit that a letter of either case names. -/
def secondsIn? (c : Char) : Option Nat :=
  [('s', 1), ('m', 60), ('h', 3600), ('d', 86400), ('w', 604800)].findSome? fun (unit, seconds) =>
    if Text.lowerChar c == [unit] then some seconds else none

/-- A number of seconds, or of the unit that its last letter names. -/
def time? (s : String) : Option Int := do
  let cs := s.toList
  match secondsIn? (← cs.getLast?) with
  | some seconds => (Number.readInt? (String.ofList cs.dropLast)).map (· * seconds)
  | none => Number.readInt? s

def number32? (n : Int) : Option UInt32 :=
  if 0 <= n && n < 4294967296 then some n.toNat.toUInt32 else none

def times? (words : List String) : Option (Vector UInt32 5) := do
  let times ← words.mapM fun s => do number32? (← time? s)
  if h : times.length = 5 then some ⟨times.toArray, by simpa using h⟩ else none

/-! ### Texts -/

/-- The longest text, in bytes. -/
def textLimit : Nat := 255

def text? (s : String) : Option String :=
  if (Text.Utf8.encode s.toList).length <= textLimit then some s else none

/-! ### Records -/

def word16? (s : String) : Option UInt16 := do
  number16? (← Number.readInt? s)

/-- The data of a record of a type; further words are passed over where the type takes a fixed number. A
type without a form of its own takes the hexadecimal bytes in the last word. -/
def data? (origin : Name) (type : String) (words : List String) : Option RecordData := do
  let code ← RecordType.code? type
  match type, words with
  | "A", s :: _ => (addressV4? s).map .a
  | "AAAA", s :: _ => (groupsV6? s).map .aaaa
  | "CNAME", s :: _ => (Name.below? origin s).map .cname
  | "PTR", s :: _ => (Name.below? origin s).map .ptr
  | "NS", s :: _ => (Name.below? origin s).map .ns
  | "DNAME", s :: _ => (Name.below? origin s).map .dname
  | "MX", p :: s :: _ => some (.mx (← word16? p) (← Name.below? origin s))
  | "SRV", p :: w :: q :: s :: _ =>
    some (.srv (← word16? p) (← word16? w) (← word16? q) (← Name.below? origin s))
  | "SOA", a :: b :: times =>
    some (.soa (← Name.below? origin a) (← Name.below? origin b) (← times? times))
  | "TXT", texts => (texts.mapM text?).map .txt
  | "A", [] | "AAAA", [] | "CNAME", [] | "PTR", [] | "NS", [] | "DNAME", [] | "MX", _ | "SRV", _
  | "SOA", _ => none
  | _, words => some (.other code (← Text.decodeHex? (← words.getLast?)))

end ClusterMdns.Dns.Zone
