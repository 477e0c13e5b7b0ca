import ClusterMdns.Controller
import ClusterMdns.Responder
import ClusterMdns.Settings.Logging
import ClusterMdns.SourceTask

/-!
The running program: sources that feed the controller, and the responder behind it. It is moved by the
replies of the cluster and by the signal to end.
-/

namespace ClusterMdns

/-! ### The responder under a signal -/

def signalLine : LogLine :=
  ⟨.info, "Received signal 15, shutting down"⟩

/-- The responder, whether it still listens, and whether the signal to end has arrived. The signal arrives
at the latest when `quota` packets have been sent, if there is such a number. -/
structure Station where
  responder : Responder := {}
  listening : Bool := true
  quota : Option Nat := none
  signalled : Bool := false

namespace Station

def exhausted (s : Station) : Bool :=
  match s.quota with
  | some n => n <= s.responder.sent.length
  | none => false

/-- Calls the responder. The signal is taken note of as soon as the call is over. -/
def publisher : Publisher Station where
  call op line s :=
    let (responder, done) := Responder.publisher.call op line s.responder
    let s := { s with responder }
    if s.exhausted && !s.signalled then
      ({ s with signalled := true }, ⟨done.lines ++ [signalLine], done.outcome⟩)
    else (s, done)

end Station

/-! ### The running program -/

/-- How the program ended. -/
inductive Ending where
  | finished
  | exit (code : Nat)
  | fault (f : Document.Fault)
deriving DecidableEq, Repr

/-- What the program did: what it showed of its log, its responder at the end, and how it ended. -/
structure Report where
  lines : List LogLine
  responder : Responder
  ending : Ending

/-- `shown` is what was shown before the sources were started; of later lines those of severity `level`
and above are shown. -/
structure Daemon where
  client : Client
  policy : RecordPolicy
  level : Nat
  shown : List LogLine
  tasks : List SourceTask
  controller : Controller Station

namespace Daemon

/-- Lets the controller and its feeds move. Once the signal has arrived everything stops. -/
def run (moves : List ControllerMove) (d : Daemon) : Daemon :=
  { d with controller := moves.foldl (fun c move =>
      let c := c.step Station.publisher d.policy move
      if c.publisher.signalled then c.step Station.publisher d.policy .stop else c) d.controller }

/-- Looks whether the sources have synced. -/
def sync (d : Daemon) : Daemon :=
  let pending := d.tasks.filter fun t => !t.synced
  d.run [.sync (pending.map SourceTask.name) false]

/-- Puts resources of source `i` on the pipeline; each is dispatched before the next is put. -/
def deliver (i : Nat) (resources : List Resource) (d : Daemon) : Daemon :=
  let c := { d.controller with
    feeds := d.controller.feeds.modify i fun f => { f with waiting := f.waiting ++ resources } }
  { d with controller := c }.run (resources.flatMap fun _ => [.look i, .offer i, .check, .take])

/-- Takes a reply of the cluster to source `i`. -/
def receive (i : Nat) (reply : Response) (d : Daemon) : Daemon :=
  match d.tasks[i]? with
  | none => d
  | some t =>
    let (t, resources) := t.receive d.client reply
    ({ d with tasks := d.tasks.set i t }.sync).deliver i resources

/-- Takes what arrived on the local link; after a failure nothing is listened to. -/
def hear (a : Responder.Arrival) (d : Daemon) : Daemon :=
  let station := d.controller.publisher
  if station.listening then
    let (responder, lines) := station.responder.serve [a]
    let listening := match a with
      | .failure _ => false
      | _ => true
    let c := { d.controller with publisher := { station with responder, listening } }
    { d with controller := c.log lines }
  else d

/-- Takes the signal to end. -/
def terminate (d : Daemon) : Daemon :=
  let c := d.controller
  let told := if c.outcome?.isSome || c.publisher.signalled then c else c.log [signalLine]
  { d with controller := told }.run [.stop, .sync [] false, .check]

/-- Every request that was made. -/
def requests (d : Daemon) : List Request :=
  d.tasks.flatMap (·.requests)

/-- The last line of a failed run, if there is something to say, and how it ended. -/
def lastWords : DispatchFailure → List LogLine × Ending
  | .refused e => ([⟨.error, "Fatal responder error: " ++ e.message⟩], .exit 1)
  | .fault f => ([], .fault f)

/-- What has been shown of the log so far. -/
def visible (d : Daemon) : List LogLine :=
  d.shown ++ shownAt d.level d.controller.lines

def isOver (d : Daemon) : Bool :=
  d.controller.outcome?.isSome

/-- The report when the program is over. -/
def report (d : Daemon) : Report :=
  let (words, ending) := match d.controller.outcome? with
    | some (.error e) => lastWords e
    | _ => ([], .finished)
  ⟨d.visible ++ shownAt d.level words, d.controller.publisher.responder.close, ending⟩

end Daemon

end ClusterMdns
