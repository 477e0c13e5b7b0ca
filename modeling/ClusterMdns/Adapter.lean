import ClusterMdns.Hostname
import ClusterMdns.Settings.Coercion

/-!
Adapters turn one kind of cluster object into resources. Services are advertised under their own name or
the names of an annotation; of ingresses every rule host under `.local` is advertised.
-/

namespace ClusterMdns

open Document

def annotationSpace : String := "external-mdns.blakecovarrubias.com/"

/-- Names to publish instead of the service's own, between commas. -/
def hostnameAnnotation : String := annotationSpace ++ "hostname"

/-- Whether bare names are published as well. -/
def bareNamesAnnotation : String := annotationSpace ++ "without-namespace"

/-! ### The parts of a cluster object that adapters look at -/
namespace ClusterObject

def metadata (obj : Value) : Except Fault Value :=
  obj.section? "metadata"

/-- Namespace and name; a missing part is empty. -/
def key (obj : Value) : Except Fault String := do
  let header ← metadata obj
  let part (field : String) : Except Fault String :=
    (header.get? field).map fun v => (v.map Value.text).getD ""
  let space ← part "namespace"
  let name ← part "name"
  pure (space ++ "/" ++ name)

/-- The address of an entry of a load balancer's list; entries without one have none. -/
def entryAddress? (entry : Value) : Option Value :=
  match entry with
  | .dict fields => match lookup (.str "ip") fields with
    | some ip => if ip.truthy then some ip else none
    | none => none
  | _ => none

def loadBalancerAddresses (obj : Value) : Except Fault (List Value) := do
  let status ← obj.section? "status"
  let balancer ← status.section? "loadBalancer"
  let ingress ← balancer.get "ingress"
  let entries ← (ingress.orElse (.list [])).elements
  pure (entries.filterMap entryAddress?)

end ClusterObject

inductive Adapter where
  | services (publishInternal : Bool)
  | ingresses
deriving DecidableEq, Repr

namespace Adapter

open ClusterObject

def source : Adapter → SourceType
  | services _ => .service
  | ingresses => .ingress

def name (a : Adapter) : String :=
  a.source.name

/-! ### Services -/

/-- Load balancer addresses of a load-balanced service; cluster addresses of the other kinds, if those
are published at all. -/
def serviceAddresses (publishInternal : Bool) (service : Value) : Except Fault (List Value) := do
  let spec ← service.section? "spec"
  let kind := (← spec.get "type").orElse (.str "ClusterIP")
  if kind.isText "LoadBalancer" then loadBalancerAddresses service
  else if kind.isText "ClusterIP" || kind.isText "NodePort" then
    if publishInternal then
      let many ← spec.get "clusterIPs"
      let one ← spec.get "clusterIP"
      let addresses ← (many.orElse (.list [one])).elements
      pure (addresses.filter fun ip => ip.truthy && !ip.isText "None")
    else pure []
  else pure []

/-- The names a service asks for, before they are checked. -/
def wantedNames (header annotations : Value) : Except Fault (List String) := do
  let annotated ← annotations.get hostnameAnnotation
  if annotated.truthy then
    pure ((Text.splitOn ',' (← annotated.asText)).map Text.trim)
  else
    let name ← header.get "name"
    if name.truthy then pure [← name.asText] else pure []

/-- Keeps the valid names; empty ones are passed over, others that are invalid get a log line. -/
def validNames (obj : Value) : List String → Logged Fault (List String)
  | [] => pure []
  | name :: rest => do
    if name == "" then validNames obj rest
    else match Hostname.validate name with
      | .ok name => do
        let more ← validNames obj rest
        pure (name :: more)
      | .error e => do
        Logged.info ("Skipping hostname for service '" ++ (← key obj) ++ "': " ++ e.message)
        validNames obj rest

def buildService (publishInternal : Bool) (obj : Value) (action : Action) :
    Logged Fault (List Resource) := do
  let header ← metadata obj
  let addresses ← serviceAddresses publishInternal obj
  if addresses.isEmpty then pure []
  else
    let annotations ← header.section? "annotations"
    let wanted ← wantedNames header annotations
    let names ← validNames obj wanted
    let space ← header.get "namespace"
    let bare ← annotations.get bareNamesAnnotation
    let bare ← Settings.boolOf false bare
    pure [⟨.service, action, names, space.orElse (.str ""), addresses, bare⟩]

/-! ### Ingresses -/

/-- The host of a rule, empty if it has none. -/
def ruleHost (rule : Value) : Except Fault String := do
  let host ← (rule.orElse (.dict [])).get "host"
  if host.truthy then host.asText else pure ""

def buildRule (header : Value) (addresses : List Value) (action : Action) (rule : Value) :
    Logged Fault (List Resource) := do
  let host ← ruleHost rule
  if Text.endsWith Hostname.localSuffix host then
    match Hostname.ofLocalHost host with
    | .ok name => do
      let space ← header.get "namespace"
      pure [⟨.ingress, action, [name], space.orElse (.str ""), addresses, false⟩]
    | .error e => do
      Logged.info ("Unable to parse hostname '" ++ host ++ "': " ++ e.message)
      pure []
  else pure []

def buildRules (header : Value) (addresses : List Value) (action : Action) :
    List Value → Logged Fault (List Resource)
  | [] => pure []
  | rule :: rest => do
    let here ← buildRule header addresses action rule
    let more ← buildRules header addresses action rest
    pure (here ++ more)

def buildIngress (obj : Value) (action : Action) : Logged Fault (List Resource) := do
  let addresses ← loadBalancerAddresses obj
  if addresses.isEmpty then pure []
  else
    let header ← metadata obj
    let spec ← obj.section? "spec"
    let rules ← spec.get "rules"
    buildRules header addresses action (← (rules.orElse (.list [])).elements)

/-- The resources that an object contributes, marked with `action`. -/
def build (a : Adapter) (obj : Value) (action : Action) : Logged Fault (List Resource) :=
  match a with
  | services publishInternal => buildService publishInternal obj action
  | ingresses => buildIngress obj action

end Adapter

end ClusterMdns
