import ClusterMdns.Dispatcher
import ClusterMdns.Pipeline

/-!
The controller and its feeds, the adapters that put resources on its pipeline. All run side by side; a
run is the list of the moves that they make, in the order in which they make them.
-/

namespace ClusterMdns

/-! ### Waiting for the caches -/

/-- What one look at the caches shows: the signal to stop, the names of the sources that have not
synced, and whether time is up. -/
structure CacheLook where
  stopped : Bool
  pending : List String
  late : Bool

namespace CacheLook

/-- Whether the caches are synced, once that is decided. -/
def verdict? (l : CacheLook) : Option (Logged Empty Bool) :=
  if l.stopped then some (.ok false)
  else if l.pending.isEmpty then some (.ok true)
  else if l.late then some do
    Logged.error ("Timed out waiting for caches to sync: " ++ ", ".intercalate l.pending)
    pure false
  else none

end CacheLook

/-- Checks that a wait of some seconds has an end: the time of it must be a finite binary number. -/
def checkWait (seconds : Int) : Except Document.Fault Unit :=
  match Number.Binary.ofInt seconds with
  | .infinite _ => .error .overflow
  | _ => .ok ()

/-- Looks at the caches until the matter is decided. -/
def awaitCaches : List CacheLook → Logged Empty Bool
  | [] => .ok false
  | l :: later => l.verdict?.getD (awaitCaches later)

/-! ### The controller and its feeds -/

/-- An adapter that puts resources: those it has still to put, whether it has seen that it may go on with
the first, those it has put, and those it gave up. -/
structure Feed where
  waiting : List Resource
  offering : Bool := false
  put : List Resource := []
  refused : List Resource := []

/-- What the controller does next: wait for the caches, look at the signal to stop, or take a resource.
In the end it has stopped, or a dispatch has failed. -/
inductive ControllerPhase where
  | syncing
  | looking
  | taking
  | ended (outcome : Except DispatchFailure Unit)

/-- `taken` is the history of resources that were dispatched. -/
structure Controller (σ : Type) where
  feeds : List Feed
  pipeline : Pipeline Resource
  publisher : σ
  phase : ControllerPhase := .syncing
  stopped : Bool := false
  taken : List Resource := []
  lines : List LogLine := []

/-- What happens next: the signal to stop is given; a feed looks at it or tries to put its first resource;
the controller looks at the caches, looks at the signal or tries to take a resource. -/
inductive ControllerMove where
  | stop
  | look (feed : Nat)
  | offer (feed : Nat)
  | sync (pending : List String) (late : Bool)
  | check
  | take

namespace Feed

/-- A feed that sees the signal to stop gives its first resource up. -/
def look (stopped : Bool) (f : Feed) : Feed :=
  match f.waiting with
  | [] => f
  | r :: rest =>
    if stopped then { f with waiting := rest, offering := false, refused := f.refused ++ [r] }
    else { f with offering := true }

/-- Tries to put the first resource; without room the feed looks at the signal again. -/
def offer (f : Feed) (p : Pipeline Resource) : Feed × Pipeline Resource :=
  match f.offering, f.waiting with
  | true, r :: rest =>
    match p.offer? r with
    | some p => ({ f with waiting := rest, offering := false, put := f.put ++ [r] }, p)
    | none => ({ f with offering := false }, p)
  | _, _ => (f, p)

end Feed

namespace Controller

variable {σ : Type} (p : Publisher σ) (policy : RecordPolicy)

def log (lines : List LogLine) (c : Controller σ) : Controller σ :=
  { c with lines := c.lines ++ lines }

def sync (pending : List String) (late : Bool) (c : Controller σ) : Controller σ :=
  match CacheLook.verdict? ⟨c.stopped, pending, late⟩ with
  | none => c
  | some v =>
    let synced : List LogLine := match v.outcome with
      | .ok true => [⟨.info, "Caches synced, processing events"⟩]
      | _ => []
    { c.log (v.lines ++ synced) with phase := .looking }

/-- A call that was refused stops everything, any other failure the controller alone. -/
def settle (outcome : Except DispatchFailure Unit) (c : Controller σ) : Controller σ :=
  match outcome with
  | .ok () => { c with phase := .looking }
  | .error (.refused e) => { c with phase := .ended (.error (.refused e)), stopped := true }
  | .error (.fault f) => { c with phase := .ended (.error (.fault f)) }

def take (c : Controller σ) : Controller σ :=
  match c.pipeline.take? with
  | none => { c with phase := .looking }
  | some (r, rest) =>
    let (s, done) := p.dispatch policy r c.publisher
    settle done.outcome
      ({ c with pipeline := rest, publisher := s, taken := c.taken ++ [r] }.log done.lines)

def step (c : Controller σ) : ControllerMove → Controller σ
  | .stop => { c with stopped := true }
  | .look i => { c with feeds := c.feeds.modify i (Feed.look c.stopped) }
  | .offer i =>
    match c.feeds[i]? with
    | none => c
    | some f =>
      let (f, pipeline) := f.offer c.pipeline
      { c with feeds := c.feeds.set i f, pipeline := pipeline }
  | .sync pending late =>
    match c.phase with
    | .syncing => c.sync pending late
    | _ => c
  | .check =>
    match c.phase with
    | .looking =>
      if c.stopped then
        { c.log [⟨.info, "Stopping external-mdns"⟩] with phase := .ended (.ok ()) }
      else { c with phase := .taking }
    | _ => c
  | .take =>
    match c.phase with
    | .taking => c.take p policy
    | _ => c

def run (moves : List ControllerMove) (c : Controller σ) : Controller σ :=
  moves.foldl (step p policy) c

/-- Every feed in turn: each of its resources is taken before the next is put. -/
def inTurn : (feed : Nat) → List Feed → List ControllerMove
  | _, [] => []
  | i, f :: rest =>
    f.waiting.flatMap (fun _ => [.look i, .offer i, .check, .take]) ++ inTurn (i + 1) rest

/-- The outcome, once there is one. -/
def outcome? (c : Controller σ) : Option (Except DispatchFailure Unit) :=
  match c.phase with
  | .ended outcome => some outcome
  | _ => none

end Controller

end ClusterMdns
