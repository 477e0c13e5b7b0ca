import ClusterMdns.Dns.Writer
import ClusterMdns.Text.Utf8

/-!
Reading packets. Of the records in a packet only the form is looked at; bytes after the last one do not
matter.
-/

namespace ClusterMdns.Dns

/-- What a packet asks. -/
structure Query where
  id : Nat
  flags : Nat
  questions : List Question
deriving DecidableEq, Repr

namespace Query

/-- Whether the packet is itself a reply. -/
def isReply (q : Query) : Bool :=
  q.flags / 0x8000 % 2 == 1

/-! ### Reading -/

/-- A packet and the place to read at. -/
structure Reader where
  packet : List UInt8
  place : Nat

namespace Reader

def take? (n : Nat) (r : Reader) : Option (List UInt8 × Reader) :=
  let bs := (r.packet.drop r.place).take n
  if bs.length == n then some (bs, { r with place := r.place + n }) else none

def number (bs : List UInt8) : Nat :=
  bs.foldl (fun acc b => acc * 256 + b.toNat) 0

def number? (bytes : Nat) (r : Reader) : Option (Nat × Reader) := do
  let (bs, r) ← r.take? bytes
  some (number bs, r)

/-- How many pointers a name may lead through. -/
def pointerLimit : Nat := 980

/-- The labels of a name from a place on. A byte of 192 or more begins a pointer back, which must not lead
to itself: `last` is the place behind the pointer that led here, and `pointers` tells how many may follow.
No place is met twice unless pointers go round, so the length of the packet bounds the steps. -/
def labels? (packet : List UInt8) : (fuel pointers : Nat) → (last : Option Nat) → (place : Nat) →
    Option (Name × Nat)
  | 0, _, _, _ => none
  | fuel + 1, pointers, last, place => do
    let (length, r) ← (Reader.mk packet place).number? 1
    if 192 <= length then
      let (pointer, r) ← (Reader.mk packet place).number? 2
      let target := pointer % 0x4000
      if last == some r.place || r.place <= target || pointers == 0 then none
      else
        let (name, _) ← labels? packet fuel (pointers - 1) (some r.place) target
        some (name, r.place)
    else if length == 0 then some ([], r.place)
    else
      let (label, r) ← r.take? length
      if (Text.Utf8.decode? label).isNone then none
      else
        let (name, place) ← labels? packet fuel pointers last r.place
        some (label :: name, place)

def name? (r : Reader) : Option (Name × Reader) := do
  let (name, place) ← labels? r.packet (r.packet.length + 1) pointerLimit none r.place
  some (name, { r with place })

def question? (r : Reader) : Option (Question × Reader) := do
  let (name, r) ← r.name?
  let (type, r) ← r.number? 2
  let (questionClass, r) ← r.number? 2
  some (⟨name, type, questionClass⟩, r)

/-- The options of an extension record: codes and lengths, as long as there is more than a header. -/
def passOptions : (fuel : Nat) → List UInt8 → Option Unit
  | 0, _ => some ()
  | fuel + 1, bs =>
    if bs.length > 4 then
      let length := number ((bs.drop 2).take 2)
      if bs.length - 4 < length then none else passOptions fuel (bs.drop (4 + length))
    else some ()

def extensionType : Nat := 41

def textType : Nat := 16

/-- Texts behind their lengths, up to the end of the data, together shorter than these. -/
def passTexts (length finish : Nat) : (fuel total : Nat) → Reader → Option Reader
  | 0, _, r => some r
  | fuel + 1, total, r =>
    if finish <= r.place then some r
    else do
      let (n, r) ← r.number? 1
      if total + n < length then passTexts length finish fuel (total + n) (← r.take? n).2 else none

/-- The parts that the data of a type consists of. -/
inductive Part where
  | bytes (count : Nat)
  | name
  /-- Bytes behind their number. -/
  | counted

/-- Types with data of a form that their own length does not settle. -/
def parts? : Nat → Option (List Part)
  | 1 => some [.bytes 4]
  | 28 => some [.bytes 16]
  | 2 | 5 | 12 | 39 => some [.name]
  | 6 => some [.name, .name, .bytes 20]
  | 15 => some [.bytes 2, .name]
  | 17 => some [.name, .name]
  | 33 => some [.bytes 6, .name]
  | 35 => some [.bytes 4, .counted, .counted, .counted, .name]
  | _ => none

/-- Types whose data begin with numbers that must be in the packet whatever the length says. -/
def leastLength : Nat → Nat
  | 43 | 48 => 4
  | 44 => 2
  | 52 => 3
  | _ => 0

def passPart (r : Reader) : Part → Option Reader
  | .bytes count => do some (← r.take? count).2
  | .name => do some (← r.name?).2
  | .counted => do
    let (n, r) ← r.number? 1
    some (← r.take? n).2

/-- Passes the data of a record. Only extension records may be empty. -/
def passData (type length : Nat) (r : Reader) : Option Reader := do
  if type == extensionType then
    let (bs, r) ← r.take? length
    passOptions bs.length bs
    some r
  else if length == 0 then none
  else if type == textType then passTexts length (r.place + length) length 0 r
  else match parts? type with
    | some parts => parts.foldlM passPart r
    | none =>
      let _ ← r.take? (leastLength type)
      some (← r.take? length).2

def passRecord (r : Reader) : Option Reader := do
  let (_, r) ← r.name?
  let (type, r) ← r.number? 2
  let (_, r) ← r.number? 6
  let (length, r) ← r.number? 2
  r.passData type length

def passRecords : (count : Nat) → Reader → Option Reader
  | 0, r => some r
  | count + 1, r => do passRecords count (← r.passRecord)

def questions? : (count : Nat) → Reader → Option (List Question × Reader)
  | 0, r => some ([], r)
  | count + 1, r => do
    let (q, r) ← r.question?
    let (qs, r) ← questions? count r
    some (q :: qs, r)

end Reader

/-- The query in a packet, if the packet is well-formed throughout. -/
def decode? (packet : List UInt8) : Option Query := do
  let (id, r) ← (Reader.mk packet 0).number? 2
  let (flags, r) ← r.number? 2
  let (questionCount, r) ← r.number? 2
  let (answerCount, r) ← r.number? 2
  let (authorityCount, r) ← r.number? 2
  let (additionalCount, r) ← r.number? 2
  let (questions, r) ← r.questions? questionCount
  let _ ← r.passRecords (answerCount + authorityCount + additionalCount)
  some ⟨id, flags, questions⟩

end Query

end ClusterMdns.Dns
