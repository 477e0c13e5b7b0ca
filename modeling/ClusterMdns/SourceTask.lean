import ClusterMdns.Adapter.Run
import ClusterMdns.Cluster.Client
import ClusterMdns.Informer.Events
import ClusterMdns.Settings.Basic

/-!
A source at work: an informer asks the cluster for objects, and an adapter makes resources of what it
reports.
-/

namespace ClusterMdns

open Document

/-- What is watched for a source, and how. -/
structure SourcePlan where
  adapter : Adapter
  resource : String
  namespaceName : String
  resyncPeriod : Int

def Settings.plans (settings : Settings) : List SourcePlan :=
  settings.sources.map fun s =>
    { adapter := match s with
        | .service => .services settings.publishInternalServices
        | .ingress => .ingresses
      resource := match s with
        | .service => "services"
        | .ingress => "ingresses"
      namespaceName := settings.namespaceName
      resyncPeriod := settings.resyncPeriod }

/-- `requests` are those that the informer has made, `failed` says that the source has ended, and `lines`
is its part of the log. -/
structure SourceTask where
  plan : SourcePlan
  stream : EventStream
  requests : List Request := []
  failed : Bool := false
  lines : List LogLine := []

namespace SourceTask

def ofPlan (plan : SourcePlan) : SourceTask where
  plan := plan
  stream := { informer := { resource := plan.resource } }

def name (t : SourceTask) : String :=
  t.plan.adapter.name

def synced (t : SourceTask) : Bool :=
  t.stream.informer.synced

/-- How long the cluster keeps a watch open, in seconds. -/
def watchSeconds : Int := 60

/-- Without a period everything is listed again at every turn. -/
def due (t : SourceTask) : Bool :=
  t.plan.resyncPeriod <= 0

/-! ### Replies -/

def callError : ClientError → CallError
  | .expired message => .expired message
  | .fault f => .fault f
  | e => .failed e.text

/-- The inputs that a reply to the last request means for the informer, and those that follow up to its
next request. Inputs that are not needed are passed over. -/
def inputsOf (t : SourceTask) (r : Request) (reply : Response) : List StreamInput :=
  let after := [.rested, .turn t.due]
  match t.stream.phase with
  | .listing =>
    match Client.readListing r.url reply with
    | .error e => .failed (callError e) :: after
    | .ok (items, version) =>
      let most := (items.elements.toOption.getD []).length + t.stream.informer.cache.length
      .listed items version :: List.replicate most .taken ++ after
  | .watching =>
    let (raws, ending) := Client.readWatch t.plan.resource r.url reply
    let last := match ending with
      | some e => .failed (callError e)
      | none => .closed
    raws.flatMap (fun raw => [.received raw, .taken]) ++ last :: after
  | _ => after

/-! ### Outputs -/

def fail (e : Adapter.RunError) (t : SourceTask) : SourceTask :=
  { t with failed := true, lines := t.lines ++ [t.plan.adapter.failureLine e] }

def ask (t : SourceTask) : Except ClientError Request → SourceTask
  | .ok r => { t with requests := t.requests ++ [r] }
  | .error e => t.fail (.source e.text)

/-- What an output of the informer makes the source do, and the resources that it has to put then. -/
def act (c : Client) (t : SourceTask) : StreamOutput → SourceTask × List Resource
  | .list => (t.ask (c.listRequest t.plan.resource t.plan.namespaceName), [])
  | .watch version =>
    (t.ask (c.watchRequest t.plan.resource t.plan.namespaceName version watchSeconds), [])
  | .line l => ({ t with lines := t.lines ++ [l] }, [])
  | .event e =>
    let (step, outcome) := Adapter.putAll false (t.plan.adapter.batches e)
    let t := { t with lines := t.lines ++ step.lines }
    (match outcome with
      | .ok () => t
      | .error f => t.fail (.fault f), step.resources)

/-- Acts on outputs, until the source fails. -/
def actAll (c : Client) (t : SourceTask) : List StreamOutput → SourceTask × List Resource
  | [] => (t, [])
  | o :: rest =>
    if t.failed then (t, [])
    else
      let (t, here) := t.act c o
      let (t, later) := actAll c t rest
      (t, here ++ later)

/-- Gives inputs to the informer. A source whose informer has broken down has failed. -/
def feed (c : Client) (inputs : List StreamInput) (t : SourceTask) : SourceTask × List Resource :=
  let (stream, outputs) := t.stream.run inputs
  let (t, resources) := actAll c { t with stream } outputs
  match t.failed, stream.phase with
  | false, .broken f => (t.fail (.fault f), resources)
  | _, _ => (t, resources)

/-- Makes the first request. -/
def start (c : Client) (t : SourceTask) : SourceTask :=
  let opened := { t with lines := t.lines ++ [t.plan.adapter.openingLine t.stream.informer.name] }
  (opened.feed c [.turn t.due]).1

/-- Takes the reply to the last request. -/
def receive (c : Client) (reply : Response) (t : SourceTask) : SourceTask × List Resource :=
  match t.failed, t.requests.getLast? with
  | false, some r => t.feed c (t.inputsOf r reply)
  | _, _ => (t, [])

end SourceTask

end ClusterMdns
