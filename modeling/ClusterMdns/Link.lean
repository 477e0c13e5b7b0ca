import ClusterMdns.Daemon
import ClusterMdns.Text.Hex

/-!
The link to the process that holds the connections of the program. Each message is one JSON text on a
line: requests to the cluster and packets for the local link go out, and replies, datagrams and the signal
to end come in.
-/

namespace ClusterMdns

open Document

inductive Incoming where
  | reply (source : Nat) (r : Response)
  | arrival (a : Responder.Arrival)
  | signal

inductive Outgoing where
  | request (source : Nat) (c : Client) (r : Request)
  | packet (p : Packet)

namespace Link

def mapping (fields : List (String × Value)) : Value :=
  .dict (fields.map fun (name, v) => (.str name, v))

/-! ### Going out -/

def fileValue : FileReference → Value
  | .none => .null
  | .path path => .str path
  | .content bytes => mapping [("content", .str (Text.encodeHex bytes))]

def trustValue : Trust → Value
  | .none => .bool false
  | .known => .bool true
  | .authority file => fileValue file

def credentialsValue : Credentials → Value
  | .anonymous => .null
  | .bearer token => mapping [("bearer", .str token)]
  | .password user password => mapping [("user", user), ("password", password)]

def requestValue (source : Nat) (c : Client) (r : Request) : Value :=
  mapping [
    ("source", .int source),
    ("url", .str r.url),
    ("parameters", mapping (r.parameters.map fun (name, s) => (name, .str s))),
    ("credentials", credentialsValue c.credentials),
    ("certificate", match c.certificate with
      | some (certificate, key) => .list [fileValue certificate, fileValue key]
      | none => .null),
    ("trust", trustValue c.trust),
    ("timeout", .str c.timeout.text),
    ("streamTimeout", match r.streamTimeout with
      | some t => .str t.text
      | none => .null)]

def packetValue (p : Packet) : Value :=
  mapping [("address", .str p.address), ("port", .int p.port), ("data", .str (Text.encodeHex p.data))]

def render : Outgoing → String
  | .request source c r => Json.render (mapping [("request", requestValue source c r)])
  | .packet p => Json.render (mapping [("packet", packetValue p)])

/-! ### Coming in -/

def textOf? (v : Value) (name : String) : Option String :=
  match v.get? name with
  | .ok (some (.str s)) => some s
  | _ => none

def numberOf? (v : Value) (name : String) : Option Int :=
  match v.get? name with
  | .ok (some (.int n)) => some n
  | _ => none

/-- A reply has a status and a body, or else says why there is none. -/
def readResponse (v : Value) : Response :=
  match numberOf? v "status" with
  | some status =>
    let body := (textOf? v "body").getD ""
    .received status ((textOf? v "reason").getD "") (Text.Utf8.encode body.toList)
  | none => .noConnection ((textOf? v "error").getD "")

/-- A datagram has data and a sender, or else says why there is none. -/
def readArrival (v : Value) : Responder.Arrival :=
  match (textOf? v "data").bind Text.decodeHex? with
  | some data =>
    .datagram data ((textOf? v "address").getD "") ((numberOf? v "port").getD 0).toNat
  | none => .failure ((textOf? v "error").getD "")

def read? (line : String) : Option Incoming :=
  match Json.read (Text.Surrogate.ofText line) with
  | .error _ => none
  | .ok v =>
    match v.get? "reply", v.get? "datagram", v.get? "signal" with
    | .ok (some r), _, _ => some (.reply ((numberOf? r "source").getD 0).toNat (readResponse r))
    | _, .ok (some d), _ => some (.arrival (readArrival d))
    | _, _, .ok (some _) => some .signal
    | _, _, _ => none

end Link

/-- Takes what came in. -/
def Daemon.take (d : Daemon) : Incoming → Daemon
  | .reply source r => d.receive source r
  | .arrival a => d.hear a
  | .signal => d.terminate

/-- The messages that the program has sent in going from `before` to `after`. -/
def Daemon.news (before after : Daemon) : List Outgoing :=
  let sent (d : Daemon) := d.controller.publisher.responder.sent
  let packets := ((sent after).drop (sent before).length).map .packet
  let requests := (before.tasks.zip after.tasks).zipIdx.flatMap fun ((old, new), i) =>
    (new.requests.drop old.requests.length).map (.request i after.client)
  packets ++ requests

/-- The requests that are under way when the program starts. -/
def Daemon.opening (d : Daemon) : List Outgoing :=
  d.tasks.zipIdx.flatMap fun (t, i) => t.requests.map (.request i d.client)

end ClusterMdns
