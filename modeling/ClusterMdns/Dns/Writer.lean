import ClusterMdns.Dns.Record

/-!
Writing packets. A name, or the end of one, that was written before is replaced by a pointer to that
place.
-/

namespace ClusterMdns.Dns

/-- A question: the name, and the codes of type and class. -/
structure Question where
  name : Name
  type : Nat
  questionClass : Nat
deriving DecidableEq, Repr

/-- A reply: an identifier, flag bits, the questions it repeats and the records it answers with. -/
structure Reply where
  id : Nat
  flags : Nat
  questions : List Question
  answers : List Record
deriving DecidableEq, Repr

/-- What has been written, and where the ends of names were. -/
structure Writer where
  bytes : List UInt8
  places : List (Name × Nat)

namespace Writer

def empty : Writer := ⟨[], []⟩

def bytes16 (n : Nat) : List UInt8 :=
  [(n / 256).toUInt8, n.toUInt8]

def bytes32 (n : Nat) : List UInt8 :=
  bytes16 (n / 65536) ++ bytes16 (n % 65536)

def put (bs : List UInt8) (w : Writer) : Writer :=
  { w with bytes := w.bytes ++ bs }

def put16 (n : Nat) (w : Writer) : Writer :=
  w.put (bytes16 n)

def place? (name : Name) (w : Writer) : Option Nat :=
  (w.places.find? fun (other, _) => other == name).map (·.2)

/-- Writes the labels of a name up to an end that was written before, or up to the root. -/
def putLabels : Name → Writer → Option Writer
  | [], w => some (w.put [0])
  | label :: rest, w =>
    match w.place? (label :: rest) with
    | some place => some (w.put16 (0xC000 + place % 0x4000))
    | none =>
      if label.length > 63 then none
      else putLabels rest
        { bytes := w.bytes ++ label.length.toUInt8 :: label
          places := (label :: rest, w.bytes.length) :: w.places }

/-- The longest name that can be written. -/
def sizeLimit : Nat := 253

def putName (name : Name) (w : Writer) : Option Writer :=
  if name.size > sizeLimit then none else putLabels name w

/-- A text behind its length. -/
def textBytes (s : String) : List UInt8 :=
  let bytes := Text.Utf8.encode s.toList
  bytes.length.toUInt8 :: bytes

def putData (d : RecordData) (w : Writer) : Option Writer :=
  match d with
  | .a address => some (w.put address.octets)
  | .aaaa groups => some (w.put (groups.toList.flatMap fun g => bytes16 g.toNat))
  | .cname target | .ptr target | .ns target | .dname target => w.putName target
  | .mx preference exchange => (w.put16 preference.toNat).putName exchange
  | .srv priority weight port target =>
    (((w.put16 priority.toNat).put16 weight.toNat).put16 port.toNat).putName target
  | .soa primary mailbox times => do
    some ((← (← w.putName primary).putName mailbox).put (times.toList.flatMap fun t => bytes32 t.toNat))
  | .txt texts => some (w.put (texts.flatMap textBytes))
  | .other _ bytes => some (w.put bytes)

def putQuestion (q : Question) (w : Writer) : Option Writer := do
  some (((← w.putName q.name).put16 q.type).put16 q.questionClass)

/-- The greatest number that two bytes hold. -/
def countLimit : Nat := 65535

/-- The length of the data stands before them, so they are written behind room for it. -/
def putRecord (r : Record) (w : Writer) : Option Writer := do
  let w ← w.putName r.owner
  let w := ((w.put16 r.data.code).put16 r.recordClass.code).put (bytes32 r.ttl)
  let d ← (w.put16 0).putData r.data
  let length := d.bytes.length - w.bytes.length - 2
  if length > countLimit then none
  else some { d with bytes := w.bytes ++ bytes16 length ++ d.bytes.drop (w.bytes.length + 2) }

def putAll {α : Type} (put : α → Writer → Option Writer) : List α → Writer → Option Writer
  | [], w => some w
  | x :: rest, w => do putAll put rest (← put x w)

end Writer

/-- The packet of a reply; there is none if a name in it is too long, or if more data or records are in it
than can be counted. -/
def Reply.encode? (r : Reply) : Option (List UInt8) :=
  if r.questions.length > Writer.countLimit || r.answers.length > Writer.countLimit then none
  else do
    let header := (Writer.empty.put16 r.id).put16 r.flags
    let header := (header.put16 r.questions.length).put16 r.answers.length
    let w ← Writer.putAll Writer.putQuestion r.questions (header.put (Writer.bytes32 0))
    some (← Writer.putAll Writer.putRecord r.answers w).bytes

end ClusterMdns.Dns
