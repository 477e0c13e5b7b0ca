import ClusterMdns.Cluster.Config
import ClusterMdns.Document.Json
import ClusterMdns.Text.Encoding

/-!
The client of the cluster's interface: the requests that list and watch one type of object, and what is
made of the replies.
-/

namespace ClusterMdns

open Document Number

/-- How the identity of the server is checked. -/
inductive Trust where
  | none
  | known
  | authority (file : FileReference)
deriving DecidableEq, Repr

/-- What accompanies every request. -/
inductive Credentials where
  | anonymous
  | bearer (token : String)
  | password (user password : Value)

/-- How long to wait, a whole number of seconds or not. -/
abbrev Seconds := Int ⊕ Binary

namespace Seconds

def text : Seconds → String
  | .inl n => intText n
  | .inr x => x.text

/-- A wait that is `n` seconds longer. -/
def later (n : Int) : Seconds → Seconds
  | .inl m => .inl (n + m)
  | .inr x => .inr ((Binary.ofInt n).add x)

end Seconds

structure Client where
  base : String
  credentials : Credentials
  certificate : Option (FileReference × FileReference)
  trust : Trust
  timeout : Seconds

/-- A request as far as it differs from others of one client. A request for a stream also limits the time
between two parts of the reply. -/
structure Request where
  url : String
  parameters : List (String × String) := []
  streamTimeout : Option Seconds := none

inductive Response where
  | received (status : Int) (reason : String) (body : List UInt8)
  | noConnection (message : String)
  | timedOut (message : String)

inductive ClientError where
  | unsupported (resource : String)
  | noConnection (message : String)
  | timedOut (message : String)
  | refused (status : Int) (reason url : String)
  | unreadable
  | expired (message : String)
  | fault (f : Fault)

namespace ClientError

def text : ClientError → String
  | unsupported resource => "Unsupported resource '" ++ resource ++ "'"
  | noConnection message => message
  | timedOut message => message
  | refused status reason url =>
    intText status ++ (if status < 500 then " Client" else " Server") ++ " Error: " ++ reason ++
      " for url: " ++ url
  | unreadable => "*"
  | expired message => message
  | fault _ => "*"

end ClientError

def FileReference.given : FileReference → Bool
  | .none => false
  | .path s => s != ""
  | .content _ => true

namespace Client

/-- A token goes before a password, which needs a user; a certificate needs its key. -/
def ofConfig (c : ClusterConfig) (timeout : Seconds) : Except Fault Client := do
  let server ← c.server.asText
  let credentials ←
    if c.token.truthy then pure (.bearer (← c.token.text?))
    else if c.username.truthy && c.password.truthy then pure (.password c.username c.password)
    else pure .anonymous
  pure {
    base := String.ofList (server.toList.reverse.dropWhile (· == '/')).reverse
    credentials := credentials
    certificate :=
      if c.clientCert.given && c.clientKey.given then some (c.clientCert, c.clientKey) else none
    trust :=
      if !c.verifyTls then .none else if c.caFile.given then .authority c.caFile else .known
    timeout := timeout }

/-- Where the objects of a type are found. -/
def path? : String → Option String
  | "services" => some "/api/v1"
  | "ingresses" => some "/apis/networking.k8s.io/v1"
  | _ => none

def url (c : Client) (resource space : String) : Except ClientError String :=
  match path? resource with
  | none => .error (.unsupported resource)
  | some path =>
    let root := c.base ++ path ++ "/"
    .ok (if space == "" then root ++ resource else root ++ "namespaces/" ++ space ++ "/" ++ resource)

def listRequest (c : Client) (resource space : String) : Except ClientError Request := do
  pure { url := ← c.url resource space }

def watchRequest (c : Client) (resource space : String) (version : Value) (seconds : Int) :
    Except ClientError Request := do
  pure {
    url := ← c.url resource space
    parameters := [("watch", "true"), ("allowWatchBookmarks", "true"),
      ("timeoutSeconds", intText seconds)] ++
        if version.truthy then [("resourceVersion", version.text)] else []
    streamTimeout := some (c.timeout.later seconds) }

/-! ### Replies -/

/-- The body of a reply that is no failure. -/
def bodyOf (url : String) : Response → Except ClientError (List UInt8)
  | .noConnection message => .error (.noConnection message)
  | .timedOut message => .error (.timedOut message)
  | .received status reason body =>
    if 400 <= status && status < 600 then .error (.refused status reason url) else .ok body

/-- How the text of a body without a mark is encoded: its first four bytes belong to JSON, of which the
first two characters are ASCII, so that it shows where the zeros are. -/
def bodyEncoding? (body : List UInt8) : Option Text.Encoding :=
  match (body.take 4).map (· == 0) with
  | [false, false, false, false] => some .bytes
  | [true, false, true, false] => some (.pairs true)
  | [false, true, false, true] => some (.pairs false)
  | [true, true, true, false] => some (.quads true)
  | [false, true, true, true] => some (.quads false)
  | _ => none

/-- The text of a body. Where it is too short to tell its encoding, or has another one, every byte is a
character. -/
def bodyText (body : List UInt8) : String :=
  let marked := (Text.Encoding.ofMark? body).orElse fun _ =>
    (bodyEncoding? body).map fun e => (e, body)
  let decoded := if body.length <= 3 then none else marked.bind fun (e, rest) => e.decode? rest
  decoded.getD (Text.Encoding.narrow body)

def readBody (body : List UInt8) : Except ClientError Value :=
  match Json.read (bodyText body) with
  | .ok v => .ok v
  | .error .malformed => .error .unreadable
  | .error .tooManyDigits => .error (.fault .badValue)
  | .error .tooDeep => .error (.fault .tooDeep)

/-- The items and the version of a listing. -/
def listingOf (body : Value) : Except Fault (Value × Value) := do
  let items ← body.get "items"
  let header ← body.section? "metadata"
  let version ← header.get? "resourceVersion"
  pure (items.orElse (.list []), version.getD (.str ""))

def readListing (url : String) (reply : Response) : Except ClientError (Value × Value) := do
  let body ← readBody (← bodyOf url reply)
  (listingOf body).mapError .fault

/-- The lines of a body, which end in a line feed, a carriage return or both; empty ones are left out.
`acc` is the line so far, last byte first. -/
def linesFrom (acc : List UInt8) : List UInt8 → List (List UInt8)
  | [] => if acc.isEmpty then [] else [acc.reverse]
  | b :: rest =>
    if b == 10 || b == 13 then
      if acc.isEmpty then linesFrom [] rest else acc.reverse :: linesFrom [] rest
    else linesFrom (b :: acc) rest

/-- How a line without a mark is encoded, by where its zeros are. -/
def lineEncoding (line : List UInt8) : Text.Encoding :=
  match (line.take 4).map (· == 0) with
  | [true, second, _, _] => if second then .quads true else .pairs true
  | [false, true, third, fourth] => if third && fourth then .quads false else .pairs false
  | [true, _] => .pairs true
  | [false, true] => .pairs false
  | _ => .bytes

def readLine (line : List UInt8) : Except Fault Value :=
  let (e, content) := (Text.Encoding.ofMark? line).getD (lineEncoding line, line)
  match e.decodeHalves? content with
  | none => .error .undecodable
  | some text => match Json.read text with
    | .ok v => .ok v
    | .error .tooDeep => .error .tooDeep
    | .error _ => .error .badValue

/-- The values on lines, up to the first line that holds none. -/
def valuesOn : List (List UInt8) → List Value × Option Fault
  | [] => ([], none)
  | line :: rest =>
    match readLine line with
    | .error f => ([], some f)
    | .ok v => let (vs, end?) := valuesOn rest; (v :: vs, end?)

/-- The events of a watch, and why it ended early if it did. -/
def readWatch (resource url : String) (reply : Response) : List Value × Option ClientError :=
  match reply with
  | .received 410 _ _ => ([], some (.expired (resource ++ " watch expired")))
  | reply => match bodyOf url reply with
    | .error e => ([], some e)
    | .ok body =>
      let (values, fault) := valuesOn (linesFrom [] body)
      (values, fault.map .fault)

end Client

end ClusterMdns
