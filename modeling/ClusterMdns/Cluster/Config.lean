import ClusterMdns.Document.Comparison
import ClusterMdns.Document.Display
import ClusterMdns.Document.Yaml.Content
import ClusterMdns.Host
import ClusterMdns.Text.Base64

/-!
How to reach the cluster and how to authenticate there: from inside the cluster by the service account
that every container gets, elsewhere by an access file that names clusters, users and contexts.
-/

namespace ClusterMdns

open Document

/-- A file that a configuration refers to: none, one by its path, or one whose content is given. -/
inductive FileReference where
  | none
  | path (path : String)
  | content (bytes : List UInt8)
deriving DecidableEq, Repr

/-- Server and credentials are kept as they are written in the access file, whatever kind of value
that is. -/
structure ClusterConfig where
  server : Value
  token : Value := .str ""
  caFile : FileReference := .none
  clientCert : FileReference := .none
  clientKey : FileReference := .none
  username : Value := .str ""
  password : Value := .str ""
  verifyTls : Bool := true

namespace ClusterConfig

/-- Why there is no configuration. -/
inductive Error where
  | unreadableToken
  | unreadableFile (path : String)
  | noCurrentContext (path : String)
  | notFound (kind : String) (name : Value)
  | noServer (cluster : Value)
  | unreadableTokenFile (file : Value)
  | nowhere (path : String)
  /-- A value of the access file that cannot be used where it stands. -/
  | fault (f : Fault)

def Error.message : Error → String
  | unreadableToken => "failed to read service account token: *"
  | unreadableFile path => "failed to load kubeconfig " ++ path ++ ": *"
  | noCurrentContext path => "kubeconfig " ++ path ++ " has no current-context"
  | notFound kind name => kind ++ " '" ++ name.text ++ "' not found in kubeconfig"
  | noServer cluster => "cluster '" ++ cluster.text ++ "' has no server"
  | unreadableTokenFile file => "failed to read token file " ++ file.text ++ ": *"
  | nowhere path => "not running in-cluster and no kubeconfig at " ++ path
  | fault _ => "*"

/-- Faults of values count as errors of the configuration. -/
def lift {α : Type} (x : Except Fault α) : Except Error α :=
  x.mapError .fault

/-- The trimmed text of a file; `unreadable` is the error if there is none to read. -/
def readToken (host : Host) (path : String) (unreadable : Error) : Except Error String :=
  match host.files.readText path with
  | .ok text => .ok (Text.trim text)
  | .error .badPath => .error (.fault .badValue)
  | .error .undecodable => .error (.fault .undecodable)
  | .error _ => .error unreadable

/-! ### Inside the cluster -/

/-- The server that the environment of a container names, if it names one. -/
def server? (host : Host) : Option String :=
  let name := host.variableOr "KUBERNETES_SERVICE_HOST"
  let gate := host.variableOr "KUBERNETES_SERVICE_PORT"
  if name == "" || gate == "" then none
  else some ("https://" ++ (if name.toList.contains ':' then "[" ++ name ++ "]" else name) ++ ":" ++ gate)

/-- The file with the token of the service account. -/
def tokenFile (host : Host) : String :=
  ((Path.ofString host.credentialDirectory).append (.ofString "token")).text

/-- The file with the certificate of the server's authority. -/
def authorityFile (host : Host) : Path :=
  (Path.ofString host.credentialDirectory).append (.ofString "ca.crt")

/-- The configuration of a container in the cluster; none where the environment names no server. -/
def inCluster (host : Host) : Except Error (Option ClusterConfig) :=
  match server? host with
  | none => .ok none
  | some server => do
    let token ← readToken host (tokenFile host) .unreadableToken
    let known ← lift (host.files.exists? (authorityFile host))
    .ok (some
      { server := .str server
        token := .str token
        caFile := if known then .path (authorityFile host).text else .none })

/-! ### Access files -/

/-- The access file to use when none is given. -/
def defaultPath (host : Host) : Except Fault String :=
  match Text.splitOn ':' (host.variableOr "KUBECONFIG") with
  | path :: _ => if path != "" then .ok path else homePath
  | [] => homePath
where
  homePath : Except Fault String := do
    pure ((← host.homeDirectory).append (.ofString ".kube/config")).text

/-- The first mapping among items that bears a name; what is no mapping is passed over. -/
def firstNamed? (name : Value) : List Value → Except Fault (Option (List (Scalar × Value)))
  | [] => .ok none
  | item :: rest =>
    match item.opened with
    | .dict fields => do
      if ← ((lookup (.str "name") fields).getD .null).equal name then .ok (some fields)
      else firstNamed? name rest
    | _ => firstNamed? name rest

/-- The first entry with a name in one of the lists of an access file. -/
def entryNamed? (data : Value) (list : String) (name : Value) :
    Except Fault (Option (List (Scalar × Value))) := do
  firstNamed? name (← ((← data.get list).orElse (.list [])).elements)

/-- An error whose message shows a value, if the value can be shown. -/
def showing (v : Value) (e : Error) : Error :=
  if v.isWritable then e else .fault .badValue

/-- What an entry holds of its kind; what counts as nothing is an empty mapping. -/
def contentOf (kind : String) (fields : List (Scalar × Value)) : Value :=
  ((lookup (.str kind) fields).getD .null).orElse (.dict [])

/-- The content of the first entry with a name. -/
def named (data : Value) (list kind : String) (name : Value) : Except Error Value := do
  match ← lift (entryNamed? data list name) with
  | some fields => .ok (contentOf kind fields)
  | none => .error (showing name (.notFound kind name))

/-- The bytes that a text or byte string stands for in base 64. -/
def decodeData : Value → Except Fault (List UInt8)
  | .str s =>
    if s.toList.all fun c => c.toNat < 128 then
      match Text.Base64.decode? s.toList with
      | some bytes => .ok bytes
      | none => .error .badValue
    else .error .badValue
  | .scalar (.bytes bs) =>
    match Text.Base64.decode? (bs.map fun b => Char.ofNat b.toNat) with
    | some bytes => .ok bytes
    | none => .error .badValue
  | _ => .error .wrongKind

/-- The account whose home directory a path begins with, without the tilde; empty where it is the own one or
none. -/
def accountOf {α : Type} [BEq α] (tilde slash : α) : List α → List α
  | [] => []
  | c :: rest => if c == tilde then rest.takeWhile (· != slash) else []

/-- Why a byte string is no path. Before it is refused it is asked for an account, of which the name is ASCII. -/
def bytePathFault (bs : List UInt8) : Fault :=
  let account := accountOf 126 47 bs
  if account.any (128 <= ·) then .undecodable else if account.contains 0 then .badValue else .wrongKind

/-- The path that a value stands for, with the home directory of the account that it names. -/
def pathOf (host : Host) : Value → Except Fault Path
  | .str s =>
    if (Text.Surrogate.codes (accountOf '~' '/' s.toList)).any FileSystem.isForeign then .error .badValue
    else .ok (.ofString (host.expandTilde s))
  | .scalar (.bytes bs) => .error (bytePathFault bs)
  | _ => .error .wrongKind

/-- The file that an entry refers to: data goes before a path, and a path is seen from the directory
`base`. -/
def fileReference (host : Host) (base : Path) (entry : Value) (key : String) :
    Except Fault FileReference := do
  let data ← entry.get (key ++ "-data")
  if data.truthy then pure (.content (← decodeData data))
  else
    let path ← entry.get key
    if path.truthy then pure (.path (base.append (← pathOf host path)).text)
    else pure .none

/-- The token in the file under a path. -/
def tokenAt (host : Host) : Value → Except Error Value
  | .str s => (readToken host (Path.ofString s).text (.unreadableTokenFile (.str s))).map .str
  | _ => .error (.fault .wrongKind)

/-- The token of a user, read from a file if it is not given itself. -/
def userToken (host : Host) (user : Value) : Except Error Value := do
  let token := (← lift (user.get "token")).orElse (.str "")
  if token.truthy then .ok token
  else
    let file ← lift (user.get "tokenFile")
    if file.truthy then tokenAt host file else .ok token

def readDocument (host : Host) (path : String) : Except Error Value :=
  match host.files.readBytes path with
  | .ok content =>
    match Yaml.read (.ofBytes content) with
    | .ok v => .ok (v.orElse (.dict []))
    | .error .malformed => .error (.unreadableFile path)
    | .error (.fault f) => .error (.fault f)
  | .error .badPath => .error (.fault .badValue)
  | .error _ => .error (.unreadableFile path)

/-- What the current context of an access file selects. -/
structure Selection where
  cluster : Value
  user : Value
  server : Value

/-- The content of the current context. -/
def contextIn (path : String) (data : Value) : Except Error Value := do
  let current ← lift (data.get "current-context")
  if current.truthy then named data "contexts" "context" current else .error (.noCurrentContext path)

/-- The cluster that a context names. -/
def clusterOf (data context : Value) : Except Error Value := do
  named data "clusters" "cluster" ((← lift (context.get? "cluster")).getD (.str ""))

/-- The user that a context names, nobody where it names none. -/
def userOf (data context : Value) : Except Error Value := do
  let name ← lift (context.get "user")
  if name.truthy then named data "users" "user" name else .ok (.dict [])

def serverOf (context cluster : Value) : Except Error Value := do
  let server := (← lift (cluster.get "server")).orElse (.str "")
  if server.truthy then .ok server
  else
    let name ← lift (context.get "cluster")
    .error (showing name (.noServer name))

def select (path : String) (data : Value) : Except Error Selection := do
  let context ← contextIn path data
  let cluster ← clusterOf data context
  let user ← userOf data context
  let server ← serverOf context cluster
  .ok { cluster, user, server }

/-- The configuration that a selection makes, apart from the token; `base` is the directory of the access file. -/
def withoutToken (host : Host) (base : Path) (s : Selection) : Except Fault ClusterConfig := do
  let caFile ← fileReference host base s.cluster "certificate-authority"
  let clientCert ← fileReference host base s.user "client-certificate"
  let clientKey ← fileReference host base s.user "client-key"
  let username := (← s.user.get "username").orElse (.str "")
  let password := (← s.user.get "password").orElse (.str "")
  let skip ← s.cluster.get "insecure-skip-tls-verify"
  pure { server := s.server, caFile, clientCert, clientKey, username, password, verifyTls := !skip.truthy }

def ofSelection (host : Host) (base : Path) (s : Selection) : Except Error ClusterConfig := do
  let token ← userToken host s.user
  let config ← lift (withoutToken host base s)
  .ok { config with token }

/-- The configuration of the current context of an access file. -/
def ofFile (host : Host) (path : String) : Except Error ClusterConfig := do
  let data ← readDocument host path
  let selection ← select path data
  ofSelection host (host.absolute path).parent selection

/-- The access file to use. -/
def accessFile (host : Host) (kubeconfig : String) : Except Fault String :=
  if kubeconfig != "" then .ok kubeconfig else defaultPath host

/-- The configuration with another server, if one is given. -/
def withMaster (master : String) (config : ClusterConfig) : ClusterConfig :=
  if master != "" then { config with server := .str master } else config

/-- The configuration of an access file; where there is none, a server is enough. -/
def outside (host : Host) (kubeconfig master : String) : Except Error ClusterConfig := do
  let path ← lift (accessFile host kubeconfig)
  if ← lift (host.files.exists? (.ofString path)) then
    .ok (withMaster master (← ofFile host path))
  else if master != "" then .ok { server := .str master }
  else .error (.nowhere path)

/-- The configuration to use. An access file that is given goes before the environment of a container,
and `master` replaces the server of either. -/
def load (host : Host) (kubeconfig master : String) : Except Error ClusterConfig := do
  match ← if kubeconfig != "" then .ok none else inCluster host with
  | some config => .ok (withMaster master config)
  | none => outside host kubeconfig master

end ClusterConfig

end ClusterMdns
