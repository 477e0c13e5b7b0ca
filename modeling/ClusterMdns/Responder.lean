import ClusterMdns.Dispatcher
import ClusterMdns.Dns.Query
import ClusterMdns.Dns.Zone
import ClusterMdns.Table

/-!
The responder keeps the table of published records, announces every change of it on the local link, and
answers queries for it.
-/

namespace ClusterMdns

open Dns

/-- The group address and the port of the protocol. -/
def mdnsAddress : AddressV4 := ⟨224, 0, 0, 251⟩

def mdnsPort : Nat := 5353

/-- A datagram and where it goes. -/
structure Packet where
  address : String
  port : Nat
  data : List UInt8
deriving DecidableEq, Repr

/-- What the network does to the responder: there has been no connection, one that was given up before
it could be used, one in use (sending fails with a text, if there is one), or one that was closed. -/
inductive Connection where
  | never
  | abandoned
  | attached (sendFailure : Option String)
  | closed
deriving DecidableEq, Repr

inductive ResponderError where
  | unreadable (line : String)
  | notOne (line : String) (count : Nat)
  | unannounced (record : Record) (cause : String)
deriving DecidableEq, Repr

def ResponderError.message : ResponderError → String
  | unreadable line => "Unable to parse record '" ++ line ++ "': *"
  | notOne line count =>
    "Expected exactly one record in '" ++ line ++ "', got " ++ Number.natText count
  | unannounced record cause => "Failed to announce " ++ record.zoneLine ++ ": " ++ cause

/-- Why a record was not published or retracted: an error of the responder, or a name that fits into no
packet. -/
inductive PublishError where
  | responder (e : ResponderError)
  | unwritable
deriving DecidableEq, Repr

def PublishError.text : PublishError → String
  | responder e => e.message
  | unwritable => "*"

/-- `sent` is the history of packets that went out. -/
structure Responder where
  interface : String := "0.0.0.0"
  port : Nat := mdnsPort
  table : Table RecordKey Record := []
  closed : Bool := false
  connection : Connection := .never
  sent : List Packet := []

namespace Responder

/-- The record of a line, which must hold exactly one. -/
def readLine (line : String) : Except ResponderError Record :=
  match Zone.read line with
  | none => .error (.unreadable line)
  | some [record] => .ok record
  | some records => .error (.notOne line records.length)

/-- The zone lines of the table. -/
def lines (r : Responder) : List String :=
  r.table.values.map Record.zoneLine

/-! ### Sending -/

/-- A reply with the authority bit. The bit for recursion is set as well. -/
def replyFlags : Nat := 0x8500

def announcement (record : Record) : Reply :=
  ⟨0, replyFlags, [], [record]⟩

/-- Sends a packet on the connection, if there is one. -/
def send (p : Packet) (r : Responder) : Responder × Except String Unit :=
  match r.connection with
  | .attached none => ({ r with sent := r.sent ++ [p] }, .ok ())
  | .attached (some cause) => (r, .error cause)
  | _ => (r, .ok ())

def isAttached (r : Responder) : Bool :=
  match r.connection with
  | .attached _ => true
  | _ => false

/-- Tells the group about a record. Without a connection nothing is said. -/
def announce (record : Record) (r : Responder) : Responder × Except PublishError Unit :=
  if r.isAttached then
    match (announcement record).encode? with
    | none => (r, .error .unwritable)
    | some data =>
      let (r, outcome) := r.send ⟨mdnsAddress.text, mdnsPort, data⟩
      (r, outcome.mapError fun cause => .responder (.unannounced record cause))
  else (r, .ok ())

/-! ### Publishing -/

/-- Puts a record into the table and announces it. A record whose key is there already stays as it is. -/
def publish (line : String) (r : Responder) : Responder × Except PublishError Unit :=
  match readLine line with
  | .error e => (r, .error (.responder e))
  | .ok record =>
    if r.table.contains record.key then (r, .ok ())
    else announce record { r with table := r.table.set record.key record }

/-- Takes a record out of the table and says goodbye for it; nothing happens if it is not there. -/
def unpublish (line : String) (r : Responder) : Responder × Except PublishError Unit :=
  match readLine line with
  | .error e => (r, .error (.responder e))
  | .ok record =>
    match r.table.find? record.key with
    | none => (r, .ok ())
    | some published => announce published.expired { r with table := r.table.erase record.key }

/-- The responder as something that the dispatcher calls. -/
def publisher : Publisher Responder where
  call op line r :=
    let (r, outcome) := match op with
      | .publish => r.publish line
      | .unpublish => r.unpublish line
    (r, .ofExcept (outcome.mapError PublishError.text))

/-! ### Answering -/

/-- The type that asks for records of every type. -/
def anyType : Nat := 255

/-- The records that a question asks for, in the order of the table. -/
def matching (r : Responder) (q : Question) : List Record :=
  (r.table.filter fun (key, _) =>
    key.owner == q.name.folded && (q.type == anyType || q.type == key.type)).map (·.2)

/-- Marks the flags of a query as those of a reply: with authority, and without recursion. -/
def flagsOfReply (flags : Nat) : Nat :=
  (flags ||| 0x8400) &&& 0xFF7F

/-- The reply to a query. A legacy one, to a sender outside the group, repeats identifier and first
question. -/
def replyTo (legacy : Bool) (q : Query) (answers : List Record) : Reply :=
  if legacy then ⟨q.id, flagsOfReply q.flags, q.questions.take 1, answers⟩
  else ⟨0, replyFlags, [], answers⟩

/-- The reply packet to a packet, if it asks for published records. A packet that is malformed, or whose
reply cannot be written, has none to speak of. -/
def answer (r : Responder) (data : List UInt8) (legacy : Bool) : Except Unit (Option (List UInt8)) :=
  match Query.decode? data with
  | none => .error ()
  | some q =>
    if q.isReply then .ok none
    else
      let answers := q.questions.flatMap r.matching
      if answers.isEmpty then .ok none
      else match (replyTo legacy q answers).encode? with
        | some data => .ok (some data)
        | none => .error ()

/-! ### Listening -/

/-- What comes from the connection: a datagram, nothing for a while, or a failure. -/
inductive Arrival where
  | datagram (data : List UInt8) (address : String) (port : Nat)
  | silence
  | failure (cause : String)

/-- Handles a datagram. One from the port of the protocol is answered to the group, any other to its
sender. -/
def handle (data : List UInt8) (address : String) (port : Nat) (r : Responder) :
    Responder × List LogLine :=
  let legacy := port != mdnsPort
  match r.answer data legacy with
  | .error () => (r, [⟨.debug, "Ignoring malformed mDNS packet from " ++ address ++ ": *"⟩])
  | .ok none => (r, [])
  | .ok (some reply) =>
    let target := if legacy then address else mdnsAddress.text
    match r.send ⟨target, if legacy then port else mdnsPort, reply⟩ with
    | (r, .ok ()) => (r, [])
    | (r, .error cause) =>
      (r, [⟨.warning, "Failed to send mDNS response to " ++ target ++ ": " ++ cause⟩])

/-- Handles what arrives, until the connection is closed or fails. -/
def serve (r : Responder) : List Arrival → Responder × List LogLine
  | [] => (r, [])
  | arrival :: rest =>
    if r.closed || !r.isAttached then (r, [])
    else match arrival with
      | .silence => serve r rest
      | .failure cause => (r, [⟨.warning, "mDNS receive failed: " ++ cause⟩])
      | .datagram data address port =>
        let (r, here) := r.handle data address port
        let (r, later) := serve r rest
        (r, here ++ later)

/-! ### Opening and closing -/

/-- What is asked of a new connection before it is used. -/
inductive Setup where
  | reuseAddress
  | reusePort
  | bind (port : Nat)
  | joinGroup (membership : List UInt8)
  | multicastTtl (hops : Nat)
  | receiveTimeout
deriving DecidableEq, Repr

/-- Why a connection could not be opened: its port was refused, or the interface is no address; a text
that holds a null character is not even looked at as one. -/
inductive StartError where
  | refused (cause : String)
  | noInterface
  | badInterface
deriving DecidableEq, Repr

def StartError.text : StartError → String
  | refused cause => cause
  | noInterface | badInterface => "*"

/-- A number in C notation: decimal, octal after a zero, or hexadecimal after `0x`. -/
def part? (cs : List Char) : Option Nat :=
  match cs with
  | '0' :: 'x' :: ds => digits? 16 ds
  | '0' :: 'X' :: ds => digits? 16 ds
  | '0' :: d :: ds => digits? 8 (d :: ds)
  | ds => digits? 10 ds
where
  digit? (c : Char) : Option Nat :=
    if '0' <= c && c <= '9' then some (c.toNat - 48)
    else if 'a' <= c && c <= 'f' then some (c.toNat - 87)
    else if 'A' <= c && c <= 'F' then some (c.toNat - 55)
    else none
  digits? (base : Nat) (ds : List Char) : Option Nat :=
    if ds.isEmpty then none
    else ds.foldlM (fun acc c => do
      let d ← digit? c
      if d < base then some (acc * base + d) else none) 0

/-- The four bytes of an interface address of one to four parts; the last part fills what is left, and
whatever follows a blank is passed over. -/
def interfaceBytes? (s : String) : Option (List UInt8) := do
  let cs := s.toList.takeWhile fun c => !(c == ' ' || (9 <= c.toNat && c.toNat <= 13))
  let parts ← (Text.splitChars (· == '.') cs).mapM part?
  let last ← parts.getLast?
  let front := parts.dropLast
  if front.length > 3 || front.any (· > 255) || last >= Nat.pow 256 (4 - front.length) then none
  else
    let tail := (Writer.bytes32 last).drop front.length
    some (front.map (·.toUInt8) ++ tail)

/-- A new connection that cannot be used is given up; one in use stays. -/
def abandon (r : Responder) : Responder :=
  { r with connection := if r.isAttached then r.connection else .abandoned }

/-- The bytes of the interface to listen on. -/
def interface? (r : Responder) : Except StartError (List UInt8) :=
  if r.interface.toList.contains (Char.ofNat 0) then .error .badInterface
  else match interfaceBytes? r.interface with
    | some bytes => .ok bytes
    | none => .error .noInterface

/-- Opens a connection; `refusal` is why its port cannot be had, if so. -/
def start (refusal : Option String) (r : Responder) :
    Responder × Logged StartError (List Setup) :=
  match refusal, r.interface? with
  | some cause, _ => (r.abandon, .fail (.refused cause))
  | none, .error e => (r.abandon, .fail e)
  | none, .ok interface =>
    ({ r with connection := .attached none }, do
      Logged.info ("mDNS responder listening on " ++ mdnsAddress.text ++ ":" ++ Number.natText r.port)
      pure [.reuseAddress, .reusePort, .bind r.port, .joinGroup (mdnsAddress.octets ++ interface),
        .multicastTtl 255, .receiveTimeout])

/-- Closes the connection for good; the table stays as it is. -/
def close (r : Responder) : Responder :=
  { r with closed := true, connection := if r.isAttached then .closed else r.connection }

end Responder

end ClusterMdns
