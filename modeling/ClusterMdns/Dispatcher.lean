import ClusterMdns.Record.Synthesis

/-!
The dispatcher turns resources into calls of a publisher, one for each record line.
-/

namespace ClusterMdns

open Document

inductive Operation where
  | publish
  | unpublish
deriving DecidableEq, Repr

namespace Operation

def name : Operation → String
  | publish => "publish"
  | unpublish => "unpublish"

/-- What is logged before a call. -/
def heading : Operation → String
  | publish => "Publishing new DNS record: "
  | unpublish => "Removing DNS record: "

end Operation

/-- Something with states `σ` that publishes and retracts record lines. A call that fails says why. -/
structure Publisher (σ : Type) where
  call : Operation → String → σ → σ × Logged String Unit

/-- A call that the publisher refused. -/
structure DispatchError where
  operation : Operation
  record : String
  cause : String
deriving DecidableEq, Repr

def DispatchError.message (e : DispatchError) : String :=
  "Failed to " ++ e.operation.name ++ " record '" ++ e.record ++ "': " ++ e.cause

/-- Why a resource was not dispatched: no lines could be made of it, or a call was refused. -/
inductive DispatchFailure where
  | fault (f : Fault)
  | refused (e : DispatchError)
deriving DecidableEq, Repr

/-- The call that a resource asks for. An update must have been split before and asks for none. -/
def Action.operation? : Action → Option Operation
  | .added => some .publish
  | .deleted => some .unpublish
  | .updated => none

namespace Publisher

variable {σ : Type} (p : Publisher σ)

/-- Makes a call for each record, up to the first that is refused. -/
def callAll (op : Operation) : List String → σ → σ × Logged DispatchFailure Unit
  | [], s => (s, .ok ())
  | record :: rest, s =>
    let (s, here) := p.call op record s
    let lines := ⟨.info, op.heading ++ record⟩ :: here.lines
    match here.outcome with
    | .error cause => (s, ⟨lines, .error (.refused ⟨op, record, cause⟩)⟩)
    | .ok () =>
      let (s, later) := callAll op rest s
      (s, ⟨lines ++ later.lines, later.outcome⟩)

def dispatch (policy : RecordPolicy) (r : Resource) (s : σ) : σ × Logged DispatchFailure Unit :=
  match r.action.operation? with
  | none =>
    (s, Logged.warning
      ("Ignoring unsplit update for " ++ textsLiteral r.names ++ " in '" ++ r.namespaceName.text ++ "'"))
  | some op =>
    let made := policy.lines r
    match made.outcome with
    | .error f => (s, ⟨made.lines, .error (.fault f)⟩)
    | .ok lines =>
      let (s, called) := p.callAll op (lines.map RecordLine.text) s
      (s, ⟨made.lines ++ called.lines, called.outcome⟩)

/-- Retracts every record of `old` and then publishes those of `new`. -/
def dispatchUpdate (policy : RecordPolicy) (old new : Resource) (s : σ) :
    σ × Logged DispatchFailure Unit :=
  let (s, retracted) := p.dispatch policy (old.withAction .deleted) s
  match retracted.outcome with
  | .error e => (s, ⟨retracted.lines, .error e⟩)
  | .ok () =>
    let (s, published) := p.dispatch policy (new.withAction .added) s
    (s, ⟨retracted.lines ++ published.lines, published.outcome⟩)

end Publisher

end ClusterMdns
