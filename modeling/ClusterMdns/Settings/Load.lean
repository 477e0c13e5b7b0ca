import ClusterMdns.Document.Yaml.Content
import ClusterMdns.Host
import ClusterMdns.Settings.Basic
import ClusterMdns.Settings.Coercion
import ClusterMdns.Table

/-!
Loading the settings. A value on the command line goes before one in the environment, which goes before
one in the settings file.
-/

namespace ClusterMdns

open Document

inductive ConfigError where
  | unreadable (path : String)
  | noMapping (path : String)
  | noInteger (setting : String) (value : Value)
  | noSources

/-- What goes wrong when settings are loaded: an error of the configuration, or a fault that no rule of
the configuration foresees. -/
inductive SettingsError where
  | config (e : ConfigError)
  | fault (f : Fault)

def ConfigError.message : ConfigError → String
  | unreadable path => "Config file " ++ path ++ " was found but could not be read: *"
  | noMapping path => "Config file " ++ path ++ " must contain a mapping"
  | noInteger setting value => setting ++ " must be an integer, got " ++ value.literal
  | noSources => "No sources specified. Use --source=service or --source=ingress."

namespace Settings

/-! ### Whole numbers -/

/-- The number a value stands for: numbers lose their fraction, texts are read. `none` if it stands for
no whole number. -/
def integerOf : Value → Except Fault (Option Int)
  | .scalar (.bool b) => .ok (some (if b then 1 else 0))
  | .scalar (.int n) => .ok (some n)
  | .scalar (.float (.infinite _)) => .error .overflow
  | .scalar (.float x) => .ok x.truncate?
  | .scalar (.str s) => .ok (Number.readInt? s)
  | .scalar (.bytes bs) =>
    .ok (if bs.all (· < 0x80) then
      Number.readInt? (String.ofList (bs.map fun b => Char.ofNat b.toNat)) else none)
  | _ => .ok none

/-- Faults of values are errors of the settings. -/
def orFault {α : Type} (x : Except Fault α) : Logged SettingsError α :=
  .ofExcept (x.mapError .fault)

/-- The content of a kind that the setting `name` takes from a value. -/
def coerceAs (kind : Setting.Kind) (name : String) (default : kind.Content) (v : Value) :
    Logged SettingsError kind.Content :=
  match kind, default with
  | .switch, default => orFault (boolOf default v)
  | .text, _ => orFault (textOf v)
  | .sources, _ => (sourcesOf v).mapError .fault
  | .number, _ => do
    match ← orFault (integerOf v) with
    | some n => pure n
    | none =>
      if v.isWritable then Logged.fail (.config (.noInteger name v))
      else Logged.fail (.fault .badValue)

def coerce (s : Setting) (v : Value) : Logged SettingsError s.Content :=
  coerceAs s.kind s.name s.default v

/-! ### Layers -/

abbrev Layer := Table String Value

def fileName : String := "external-mdns.yaml"

/-- The places where a settings file is looked for, in this order. -/
def searchPaths (host : Host) : List Path :=
  [host.systemDirectory, (host.environment.get? "HOME").getD "$HOME", "."].map fun directory =>
    (Path.ofString directory).append (.ofString fileName)

/-- The settings file to use: the given one, else the first that is found. -/
def findFile (host : Host) (explicit : String) : Except Fault (Option Path) :=
  if explicit != "" then .ok (some (.ofString explicit))
  else (searchPaths host).findM? host.files.isFile

/-- A key of a settings file may be written with dashes. -/
def keyName (key : Scalar) : Except Fault String :=
  key.text?.map (Text.replaceChar '-' '_')

def readFile (host : Host) (path : Path) : Except SettingsError Value :=
  match host.files.readBytes path.text with
  | .ok content =>
    match Yaml.read (.ofBytes content) with
    | .ok v => .ok v
    | .error .malformed => .error (.config (.unreadable path.text))
    | .error (.fault f) => .error (.fault f)
  | .error .badPath => .error (.fault .badValue)
  | .error _ => .error (.config (.unreadable path.text))

def fileLayer (host : Host) (path : Path) : Logged SettingsError Layer := do
  let v ← readFile host path
  match (v.orElse (.dict [])).opened with
  | .dict entries => do
    Logged.info ("Using config file: " ++ path.text)
    orFault do
      pure (.ofList (← entries.mapM fun (k, v) => do pure (← keyName k, v)))
  | _ => Logged.fail (.config (.noMapping path.text))

def environmentLayer (env : Environment) : Layer :=
  Setting.all.filterMap fun s => (env.get? s.variableName).map fun text => (s.name, .str text)

/-- Flags that are null are absent. -/
def flagLayer (flags : List (String × Value)) : Layer :=
  .ofList (flags.filter fun (_, v) => match v with | .null => false | _ => true)

/-- Sets what the entries of a layer say, in their order; names of no setting are passed over. -/
def apply (settings : Settings) : Layer → Logged SettingsError Settings
  | [] => pure settings
  | (name, v) :: rest =>
    match Setting.ofName? name with
    | none => apply settings rest
    | some s => do
      let content ← coerce s v
      apply (settings.set s content) rest

def warnUnknown : List String → Logged SettingsError Unit
  | [] => pure ()
  | name :: rest => do
    Logged.warning ("Ignoring unknown setting '" ++ name ++ "'")
    warnUnknown rest

/-- The order of texts by code points. -/
def textLe (a b : String) : Bool :=
  !(Text.Surrogate.codes b.toList < Text.Surrogate.codes a.toList)

def unknownNames (layer : Layer) : List String :=
  (layer.keys.filter fun name => (Setting.ofName? name).isNone).mergeSort textLe

/-- Loads the settings from flags, an environment and a settings file. -/
def load (host : Host) (flags : List (String × Value)) (env : Environment) (file : String) :
    Logged SettingsError Settings := do
  let fromFile ← match ← orFault (findFile host file) with
    | some path => fileLayer host path
    | none => pure []
  let merged := (fromFile.setAll (environmentLayer env)).setAll (flagLayer flags)
  warnUnknown (unknownNames merged)
  let settings ← apply default merged
  if settings.sources.isEmpty && !settings.test then Logged.fail (.config .noSources)
  else pure settings

end Settings

end ClusterMdns
