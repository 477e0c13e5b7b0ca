import ClusterMdns.Informer.Basic

/-!
The events of an informer. It lists the objects once and then watches them; a failure, a watch that
expired, or the end of the resync period makes it list again. It is a machine that takes one input at a
time and answers with outputs: calls of the client, events for the consumer, and log lines.
-/

namespace ClusterMdns

open Document

/-- Why a call of the client ended: the version asked for is gone, something went wrong that may pass, or
a value could not be used. -/
inductive CallError where
  | expired (message : String)
  | failed (message : String)
  | fault (f : Fault)
deriving DecidableEq, Repr

/-- Where an informer stands. -/
inductive StreamPhase where
  /-- About to look at the signal to stop. -/
  | turning
  /-- A listing was asked for. -/
  | listing
  /-- The consumer has an event of a listing; `rest` is to follow. -/
  | delivering (rest : List MembershipEvent)
  /-- A watch is open. -/
  | watching
  /-- The consumer has an event of the watch. -/
  | handing
  /-- Waiting after a failure. -/
  | resting
  | ended
  /-- Ended by a value that could not be used. -/
  | broken (f : Fault)

structure EventStream where
  informer : Informer
  mustList : Bool := true
  stopped : Bool := false
  phase : StreamPhase := .turning

inductive StreamInput where
  /-- The signal to stop, which is never taken back. -/
  | stop
  /-- The next turn, which lists again if the resync period is over. -/
  | turn (due : Bool)
  | listed (items version : Value)
  /-- An event of the watch. -/
  | received (raw : Value)
  /-- The watch came to its end. -/
  | closed
  | failed (e : CallError)
  /-- The consumer asks for the next event. -/
  | taken
  | rested

inductive StreamOutput where
  | list
  | watch (version : Value)
  | event (e : MembershipEvent)
  | line (l : LogLine)

namespace EventStream

def logged (lines : List LogLine) : List StreamOutput :=
  lines.map .line

/-- After a failed call everything is listed again, in some cases after a while. Only a value that could
not be used ends the stream, and not even that if it had the right kind. -/
def fail (e : CallError) (s : EventStream) : EventStream × List StreamOutput :=
  match e with
  | .expired message =>
    ({ s with mustList := true, phase := .turning },
      [.line ⟨.info, "Relisting " ++ s.informer.resource ++ ": " ++ message⟩])
  | .failed message => retry message
  | .fault .badValue => retry "*"
  | .fault .undecodable => retry "*"
  | .fault f => ({ s with phase := .broken f }, [])
where
  retry (message : String) : EventStream × List StreamOutput :=
    ({ s with mustList := true, phase := .resting },
      [.line ⟨.warning, "Failed to watch " ++ s.informer.resource ++ ": " ++ message⟩])

def openWatch (s : EventStream) : EventStream × List StreamOutput :=
  ({ s with mustList := false, phase := .watching }, [.watch s.informer.version])

/-- Hands over the events of a listing, one after another, and then opens a watch. -/
def deliver (events : List MembershipEvent) (s : EventStream) : EventStream × List StreamOutput :=
  match events with
  | [] => s.openWatch
  | e :: rest => ({ s with phase := .delivering rest }, [.event e])

/-- After an event of the watch the signal to stop is looked at. -/
def goOn (s : EventStream) : EventStream :=
  { s with phase := if s.stopped then .ended else .watching }

def turn (due : Bool) (s : EventStream) : EventStream × List StreamOutput :=
  if s.stopped then ({ s with phase := .ended }, [])
  else if s.mustList || due then ({ s with phase := .listing }, [.list])
  else s.openWatch

def takeListing (items version : Value) (s : EventStream) : EventStream × List StreamOutput :=
  let (informer, done) := s.informer.relist items version
  let (next, outputs) := match done.outcome with
    | .ok events => deliver events { s with informer }
    | .error f => fail (.fault f) { s with informer }
  (next, logged done.lines ++ outputs)

def takeEvent (raw : Value) (s : EventStream) : EventStream × List StreamOutput :=
  let (informer, done) := s.informer.apply raw
  let s := { s with informer }
  let (next, outputs) := match done.outcome with
    | .ok none => (s.goOn, [])
    | .ok (some e) => ({ s with phase := .handing }, [.event e])
    | .error (.expired message) => s.fail (.expired message)
    | .error (.fault f) => s.fail (.fault f)
  (next, logged done.lines ++ outputs)

/-- One input. Inputs that mean nothing where the machine stands are passed over. -/
def step (s : EventStream) (input : StreamInput) : EventStream × List StreamOutput :=
  match input, s.phase with
  | .stop, _ => ({ s with stopped := true }, [])
  | .turn due, .turning => s.turn due
  | .listed items version, .listing => s.takeListing items version
  | .failed e, .listing => s.fail e
  | .taken, .delivering rest => s.deliver rest
  | .received raw, .watching => s.takeEvent raw
  | .closed, .watching => ({ s with phase := .turning }, [])
  | .failed e, .watching => s.fail e
  | .taken, .handing => (s.goOn, [])
  | .rested, .resting => ({ s with phase := .turning }, [])
  | _, _ => (s, [])

def run (s : EventStream) : List StreamInput → EventStream × List StreamOutput
  | [] => (s, [])
  | input :: rest =>
    let (s, here) := s.step input
    let (s, later) := run s rest
    (s, here ++ later)

end EventStream

end ClusterMdns
