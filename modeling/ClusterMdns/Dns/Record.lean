import ClusterMdns.Address.Basic
import ClusterMdns.Address.Printer
import ClusterMdns.Dns.Name
import ClusterMdns.Dns.RecordType
import ClusterMdns.Text.LowerCase
import ClusterMdns.Text.Utf8

/-!
Resource records that can be published, and their zone lines.
-/

namespace ClusterMdns.Dns

inductive RecordClass where
  | internet
  | chaos
deriving DecidableEq, Repr

namespace RecordClass

def code : RecordClass → Nat
  | internet => 1
  | chaos => 3

def name : RecordClass → String
  | internet => "IN"
  | chaos => "CH"

end RecordClass

/-- The data of a record. Types without a form of their own hold plain bytes. -/
inductive RecordData where
  | a (address : AddressV4)
  | aaaa (groups : Vector UInt16 8)
  | cname (target : Name)
  | ptr (target : Name)
  | ns (target : Name)
  | dname (target : Name)
  | mx (preference : UInt16) (exchange : Name)
  | srv (priority weight port : UInt16) (target : Name)
  | soa (primary mailbox : Name) (times : Vector UInt32 5)
  | txt (texts : List String)
  | other (type : UInt16) (bytes : List UInt8)
deriving DecidableEq, Repr

namespace RecordData

def code : RecordData → Nat
  | a _ => 1
  | aaaa _ => 28
  | cname _ => 5
  | ptr _ => 12
  | ns _ => 2
  | dname _ => 39
  | mx .. => 15
  | srv .. => 33
  | soa .. => 6
  | txt _ => 16
  | other type _ => type.toNat

def typeName (d : RecordData) : String :=
  RecordType.name d.code

/-- The groups before the first of two or more zeros in a row, and those after that run. -/
def splitAtZeros : List UInt16 → Option (List UInt16 × List UInt16)
  | g :: h :: rest =>
    if g == 0 && h == 0 then some ([], rest.dropWhile (· == 0))
    else (splitAtZeros (h :: rest)).map fun (front, back) => (g :: front, back)
  | _ => none

/-- The first run of two or more groups of zeros is written as two colons. -/
def groupsText (groups : List UInt16) : String :=
  match splitAtZeros groups with
  | some (front, back) => AddressV6.groupsText front ++ "::" ++ AddressV6.groupsText back
  | none => AddressV6.groupsText groups

def words (numbers : List Nat) (names : List Name) : List String :=
  numbers.map Number.natText ++ names.map Name.text

/-- A text in double quotes. -/
def quoteText (s : String) : String :=
  "\"" ++ String.ofList (s.toList.flatMap fun c => if c == '"' then ['\\', c] else [c]) ++ "\""

/-- Bytes in hexadecimal behind their number. -/
def bytesText (bytes : List UInt8) : String :=
  let count := "\\# " ++ Number.natText bytes.length
  if bytes.isEmpty then count else count ++ " " ++ (Text.encodeHex bytes).map Char.toUpper

def text : RecordData → String
  | a address => address.text
  | aaaa groups => groupsText groups.toList
  | cname target | ptr target | ns target | dname target => target.text
  | mx preference exchange => Text.join " " (words [preference.toNat] [exchange])
  | srv priority weight port target =>
    Text.join " " (words [priority.toNat, weight.toNat, port.toNat] [target])
  | soa primary mailbox times =>
    Text.join " " (words [] [primary, mailbox] ++ words (times.toList.map (·.toNat)) [])
  | txt texts => Text.join " " (texts.map quoteText)
  | other _ bytes => bytesText bytes

/-- The text in lower case, by which data are compared. -/
def folded (d : RecordData) : String :=
  match d with
  | txt _ => Text.lower d.text
  | _ => d.text.map Char.toLower

end RecordData

structure Record where
  owner : Name
  ttl : Nat
  recordClass : RecordClass
  data : RecordData
deriving DecidableEq, Repr

namespace Record

/-- Fills a text up with blanks to a width. -/
def fill (width : Nat) (s : String) : String :=
  s ++ String.ofList (List.replicate (width - s.length) ' ')

/-- The line of a record in a zone file, in columns. -/
def zoneLine (r : Record) : String :=
  Text.join " " [fill 23 r.owner.text, fill 7 (Number.natText r.ttl), fill 7 r.recordClass.name,
    fill 7 r.data.typeName, r.data.text]

/-- What a goodbye says: the same record with no time to live. -/
def expired (r : Record) : Record :=
  { r with ttl := 0 }

end Record

/-- Owner, type and data, without regard to case. -/
structure RecordKey where
  owner : String
  type : Nat
  data : String
deriving DecidableEq, Repr

def Record.key (r : Record) : RecordKey :=
  ⟨r.owner.folded, r.data.code, r.data.folded⟩

end ClusterMdns.Dns
