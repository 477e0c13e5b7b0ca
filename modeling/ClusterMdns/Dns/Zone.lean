import ClusterMdns.Dns.Zone.Data
import ClusterMdns.Dns.Zone.Token

/-!
Reading zone text. A line makes a record, and parentheses as words of their own join lines. Directives set
the origin that names without a final dot lie below, and the time to live of records that give none.
-/

namespace ClusterMdns.Dns.Zone

/-! ### Records -/

def isNumber (s : String) : Bool :=
  s != "" && s.toList.all fun c => (Text.digitValue? c).isSome

/-- The greatest time to live. -/
def ttlLimit : Int := 4294967295

def ttlOf? (n : Int) : Option Nat :=
  if 0 <= n && n <= ttlLimit then some n.toNat else none

/-- What holds for the lines to come: the origin, the owner of the last record, and the time to live of
records that give none. -/
structure Context where
  origin : Name := Name.root
  owner : Name := Name.root
  ttl : Int := 0

/-- The owner that a word names: `@` is the origin, an empty word the owner of the record before. -/
def Context.ownerOf? (c : Context) (s : String) : Option Name :=
  if s == "" then some c.owner
  else if s == "@" then some c.origin
  else Name.below? c.origin s

/-- What stands behind an owner: perhaps a time to live and a class, a type and data. -/
def Context.body? (c : Context) (words : List String) : Option (Nat × RecordClass × RecordData) := do
  let word ← words.head?
  let (ttl, words) ← if isNumber word then (Number.readInt? word).map (·, words.tail)
    else some (c.ttl, words)
  let word ← words.head?
  let (recordClass, words) ← match word with
    | "IN" => some (RecordClass.internet, words.tail)
    | "CH" => some (RecordClass.chaos, words.tail)
    | "HS" => none
    | _ => some (RecordClass.internet, words)
  let type ← words.head?
  some (← ttlOf? ttl, recordClass, ← data? c.origin type words.tail)

/-- The record of a line of words. -/
def Context.record? (c : Context) : List String → Option Record
  | [] => none
  | first :: words => do
    let owner ← c.ownerOf? first
    let (ttl, recordClass, data) ← c.body? words
    some ⟨owner, ttl, recordClass, data⟩

/-! ### Lines -/

inductive Directive where
  | origin
  | ttl
deriving DecidableEq

def Directive.ofWord? : String → Option Directive
  | "$ORIGIN" => some .origin
  | "$TTL" => some .ttl
  | _ => none

/-- The words of the line read so far, whether it is inside parentheses, whether the token before was a
line end, and the records read. -/
structure Reader where
  context : Context := {}
  words : List String := []
  grouped : Bool := false
  afterLine : Bool := false
  records : List Record := []

namespace Reader

def endRecord (r : Reader) : Option Reader :=
  if r.words.isEmpty then some r
  else do
    let record ← r.context.record? r.words
    some { r with
      words := []
      records := r.records ++ [record]
      context := { r.context with owner := record.owner } }

def direct (d : Directive) (s : String) (r : Reader) : Option Reader :=
  match d with
  | .origin => do
    let name ← Name.ofText? s
    some { r with context := { r.context with origin := name, owner := name }, afterLine := false }
  | .ttl => do some { r with context := { r.context with ttl := ← time? s }, afterLine := false }

def takeWord (s : String) (r : Reader) : Reader :=
  if s == "(" then { r with grouped := true, afterLine := false }
  else if s == ")" then { r with grouped := false, afterLine := false }
  else { r with words := r.words ++ [s], afterLine := false }

/-- Blanks at the start of a line stand for an owner left out. -/
def takeSpace (r : Reader) : Reader :=
  { r with
    words := if r.afterLine && !r.grouped then r.words ++ [""] else r.words
    afterLine := false }

/-- Reads on to the end. A directive needs blanks and a word behind it, unless the text ends there. -/
def run (r : Reader) : List Token → Option Reader
  | [] => r.endRecord
  | .lineEnd :: ts => do
    let r ← if r.grouped then some r else r.endRecord
    run { r with afterLine := true } ts
  | .space :: ts => run r.takeSpace ts
  | .comment :: ts => run { r with afterLine := false } ts
  | .word s :: ts =>
    match Directive.ofWord? s with
    | none => run (r.takeWord s) ts
    | some d =>
      match ts with
      | [] | [.space] => r.endRecord
      | .space :: .word value :: ts => do run (← r.direct d value) ts
      | _ => none

end Reader

/-- The records of a zone text. -/
def read (s : String) : Option (List Record) := do
  let r ← Reader.run {} (← tokens s)
  some r.records

end ClusterMdns.Dns.Zone
