import ClusterMdns.CommandLine
import ClusterMdns.Daemon
import ClusterMdns.Settings.Load

/-!
Starting the program: command line, settings, responder, and then either the fixed records of the testing
mode or the sources.
-/

namespace ClusterMdns

def programVersion : String := "0.4.0"

/-- What the program is started with: the machine, the arguments, the level of the log until the settings say
another, why its port cannot be had and why sending fails, if so, and after how many packets it is told to end,
if it is. -/
structure Launch where
  host : Host
  arguments : List String
  firstLevel : Nat := Settings.defaultLevel
  refusal : Option String := none
  sendFailure : Option String := none
  quota : Option Nat := none

/-- A program that was started is over, perhaps because of its command line, or it runs. -/
inductive Started where
  | over (exit : Option CommandExit) (report : Report)
  | running (d : Daemon)

def testRecords : List String :=
  ["router.local. 60 IN A 192.168.1.254", "254.1.168.192.in-addr.arpa. 60 IN PTR router.local."]

/-- Publishes the fixed records and waits for the signal to end. -/
def runTest (level : Nat) (shown : List LogLine) (s : Station) : Report :=
  let (s, done) := Station.publisher.callAll .publish testRecords s
  let (words, ending) := match done.outcome with
    | .ok () => (if s.signalled then [] else [signalLine], .finished)
    | .error (.refused e) => ([⟨.error, "Fatal responder error: " ++ e.cause⟩], .exit 1)
    | .error (.fault f) => ([], .fault f)
  ⟨shown ++ shownAt level (done.lines ++ words), s.responder.close, ending⟩

namespace Launch

/-- The variable that names the level of the log until there are settings. -/
def levelVariable : String := "LOG_LEVEL"

def connect (l : Launch) (settings : Settings) : Except ClusterConfig.Error Client := do
  let config ← ClusterConfig.load l.host settings.kubeconfig settings.master
  (Client.ofConfig config (.inr (.ofInt 10))).mapError .fault

def openStation (l : Launch) : Station × Logged Responder.StartError Unit :=
  let (r, opened) := ({} : Responder).start l.refusal
  let r := if r.isAttached then { r with connection := .attached l.sendFailure } else r
  ({ responder := r, quota := l.quota }, ⟨opened.lines, opened.outcome.map fun _ => ()⟩)

/-- Sets up client, sources and controller. -/
def build (l : Launch) (settings : Settings) (level : Nat) (shown : List LogLine) (s : Station) :
    Started :=
  let failed (line : String) : Started :=
    .over none ⟨shown ++ shownAt level [⟨.error, line⟩], s.responder.close, .exit 1⟩
  let broken (f : Document.Fault) : Started :=
    .over none ⟨shown, s.responder.close, .fault f⟩
  match l.connect settings, checkWait settings.cacheSyncTimeout with
  | .error (.fault .longPath), _ => failed "Failed to start mDNS responder: *"
  | .error (.fault f), _ => broken f
  | .error e, _ => failed ("Failed to create Kubernetes client: " ++ e.message)
  | .ok _, .error f => broken f
  | .ok client, .ok () =>
    let tasks := settings.plans.map fun p => (SourceTask.ofPlan p).start client
    .running {
      client := client
      policy := settings.recordPolicy
      level := level
      shown := shown
      tasks := tasks
      controller := {
        feeds := tasks.map fun _ => { waiting := [] }
        pipeline := .ofSize 64
        publisher := s } }

/-- Goes on when the settings are loaded. -/
def withSettings (l : Launch) (settings : Settings) (level : Nat) (shown : List LogLine) : Started :=
  let (s, opened) := l.openStation
  let shown := shown ++ shownAt level opened.lines
  match opened.outcome with
  | .error e =>
    let last : LogLine := ⟨.error, "Failed to start mDNS responder: " ++ e.text⟩
    .over none ⟨shown ++ shownAt level [last], s.responder.close, .exit 1⟩
  | .ok () =>
    if settings.test then .over none (runTest level shown s) else l.build settings level shown s

/-- What is logged about the settings. It fails if they hold a number that cannot be written. -/
def greeting (settings : Settings) : Logged Document.Fault Unit := do
  Logged.info ("external-mdns " ++ programVersion ++ ": " ++
    Text.join ", " (settings.sources.map SourceType.name) ++ " -> mDNS")
  if settings.isWritable then
    Logged.debug ("Starting external-mdns with configuration: " ++ settings.literal)
  else Logged.fail .badValue

/-- The launch on a machine, whose environment may name the level of the log until there are settings. -/
def onHost (host : Host) (arguments : List String) : Except Document.Fault Launch := do
  .ok { host, arguments, firstLevel := ← Settings.firstLevel (host.environment.get? levelVariable) }

def endingOf : CommandExit → Ending
  | .help => .exit 0
  | .version => .exit 0
  | .misuse _ => .exit 2
  | .fault f => .fault f

/-- Loads the settings that a command line asks for, and the level of the log. -/
def configure (host : Host) (p : CommandLine.Parsed) : Logged SettingsError (Settings × Nat) := do
  let settings ← Settings.load host p.flags host.environment (p.config.getD "")
  let level ← settings.level
  pure (settings, level)

def start (l : Launch) : Started :=
  match CommandLine.parse l.arguments with
  | .error e => .over (some e) ⟨[], {}, endingOf e⟩
  | .ok parsed =>
    let configured := configure l.host parsed
    let early := shownAt l.firstLevel configured.lines
    match configured.outcome with
    | .error (.fault f) => .over none ⟨early, {}, .fault f⟩
    | .error (.config e) =>
      let last : LogLine := ⟨.error, "Configuration error: " ++ e.message⟩
      .over none ⟨early ++ shownAt l.firstLevel [last], {}, .exit 1⟩
    | .ok (settings, level) =>
      let greeted := greeting settings
      let shown := early ++ shownAt level greeted.lines
      match greeted.outcome with
      | .error f => .over none ⟨shown, {}, .fault f⟩
      | .ok () => l.withSettings settings level shown

/-! ### What the program looks at -/

def variableNames : List String :=
  Setting.all.map Setting.variableName ++
    ["HOME", "KUBECONFIG", "KUBERNETES_SERVICE_HOST", "KUBERNETES_SERVICE_PORT", levelVariable]

/-- The settings files that a command line may make the program read. -/
def settingsFiles (l : Launch) : List String :=
  match CommandLine.parse l.arguments with
  | .error _ => []
  | .ok p =>
    let file := p.config.getD ""
    if file != "" then [file] else (Settings.searchPaths l.host).map Path.text

/-- The files that say how to reach the cluster, once the settings files are known. -/
def clusterFiles (l : Launch) : List String :=
  match CommandLine.parse l.arguments with
  | .error _ => []
  | .ok p => match (configure l.host p).outcome with
    | .error _ => []
    | .ok (settings, _) =>
      (ClusterConfig.accessFile l.host settings.kubeconfig).toOption.toList ++
        [ClusterConfig.tokenFile l.host, (ClusterConfig.authorityFile l.host).text]

/-- Every text in an access file may name another file. -/
def namedFiles (l : Launch) : List String :=
  l.clusterFiles.flatMap fun path => match ClusterConfig.readDocument l.host path with
    | .ok v => v.texts
    | .error _ => []

end Launch

end ClusterMdns
