import ClusterMdns.Adapter
import ClusterMdns.Membership

/-!
An adapter at work. It turns every event into the resources to be put on the pipeline: an update first
retracts what the old object contributed and then adds what the new one does.
-/

namespace ClusterMdns

open Document

namespace Adapter

/-- The resources that an object contributes to the pipeline, marked with `mark`. An object of which none
can be made contributes nothing, and a log line says so. -/
def contribution (a : Adapter) (obj : Value) (action mark : Action) : Logged Fault (List Resource) :=
  if obj.truthy then do
    let resources ← (a.build obj action).recover fun _ => do
      Logged.info ("Error building " ++ a.name ++ " '" ++ (← ClusterObject.key obj) ++ "': *")
      pure []
    pure ((resources.filter Resource.publishable).map (·.withAction mark))
  else pure []

/-- The batches that an event puts on the pipeline, one after another. -/
def batches (a : Adapter) (e : MembershipEvent) : List (Logged Fault (List Resource)) :=
  match e.action with
  | .added => [a.contribution e.obj .added .added]
  | .deleted => [a.contribution e.obj .deleted .deleted]
  | .updated => [a.contribution (e.old.getD .null) .updated .deleted,
      a.contribution e.obj .updated .added]

/-- What the handling of one event put on the pipeline and logged. -/
structure Step where
  resources : List Resource
  lines : List LogLine

/-- Puts batches on the pipeline, up to one that fails. Once the signal to stop was given nothing is put. -/
def putAll (stopped : Bool) : List (Logged Fault (List Resource)) → Step × Except Fault Unit
  | [] => (⟨[], []⟩, .ok ())
  | batch :: rest =>
    match batch.outcome with
    | .error f => (⟨[], batch.lines⟩, .error f)
    | .ok resources =>
      let (later, outcome) := putAll stopped rest
      let here := if stopped then [] else resources
      (⟨here ++ later.resources, batch.lines ++ later.lines⟩, outcome)

/-- Why an adapter ended before its source did. -/
inductive RunError where
  | fault (f : Fault)
  | source (cause : String)
deriving DecidableEq, Repr

def RunError.text : RunError → String
  | fault _ => "*"
  | source cause => cause

/-- The line that tells of an adapter's failure. -/
def failureLine (a : Adapter) (e : RunError) : LogLine :=
  ⟨.error, "Source '" ++ a.name ++ "' failed: " ++ e.text⟩

def openingLine (a : Adapter) (sourceName : String) : LogLine :=
  ⟨.info, "Watching " ++ sourceName ++ " for " ++ a.name ++ " resources"⟩

/-- What an adapter did: a step for every event after which it asked for another, and what came after the
last time it asked. -/
structure Run where
  steps : List Step
  last : Step
  outcome : Except RunError Unit

/-- Handles what the source delivers, until its end or the signal to stop; `opening` are lines not yet
counted to a step. -/
def handleAll (a : Adapter) (opening : List LogLine) : List Delivery → Run
  | [] => ⟨[], ⟨[], opening ++ [closingLine]⟩, .ok ()⟩
  | .failure cause :: _ => ⟨[], ⟨[], opening⟩, .error (.source cause)⟩
  | .event stopped e :: rest =>
    let (step, outcome) := putAll stopped (a.batches e)
    let lines := opening ++ step.lines
    match outcome with
    | .error f => ⟨[], ⟨step.resources, lines⟩, .error (.fault f)⟩
    | .ok () =>
      if stopped then ⟨[], ⟨step.resources, lines ++ [closingLine]⟩, .ok ()⟩
      else
        let later := handleAll a [] rest
        { later with steps := ⟨step.resources, lines⟩ :: later.steps }
where
  closingLine : LogLine := ⟨.info, "Stopped watching " ++ a.name ++ " resources"⟩

def run (a : Adapter) (sourceName : String) (deliveries : List Delivery) : Run :=
  a.handleAll [a.openingLine sourceName] deliveries

namespace Run

def resources (r : Run) : List Resource :=
  r.steps.flatMap (·.resources) ++ r.last.resources

/-- All lines of a run, and one that tells of its failure. -/
def lines (a : Adapter) (r : Run) : List LogLine :=
  r.steps.flatMap (·.lines) ++ r.last.lines ++ match r.outcome with
    | .ok () => []
    | .error e => [a.failureLine e]

end Run

end Adapter

end ClusterMdns
