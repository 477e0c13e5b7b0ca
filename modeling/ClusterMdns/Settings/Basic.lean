import ClusterMdns.Record.Policy
import ClusterMdns.Document.Value

/-!
The settings of the program. Each setting has a name, which is also that of its flag, and a kind that
says what its content is.
-/

namespace ClusterMdns

open Document

inductive Setting where
  | debug
  | kubeconfig
  | master
  | namespaceName
  | publishInternalServices
  | test
  | recordTtl
  | withoutNamespace
  | source
  | exposeV4
  | exposeV6
  | defaultNamespace
  | resyncPeriod
  | cacheSyncTimeout
  | logLevel
deriving DecidableEq, Repr

namespace Setting

inductive Kind where
  | switch
  | number
  | text
  | sources
deriving DecidableEq, Repr

abbrev Kind.Content : Kind → Type
  | switch => Bool
  | number => Int
  | text => String
  | sources => List SourceType

/-- All settings, in the order in which they are listed. -/
def all : List Setting :=
  [debug, kubeconfig, master, namespaceName, publishInternalServices, test, recordTtl, withoutNamespace,
    source, exposeV4, exposeV6, defaultNamespace, resyncPeriod, cacheSyncTimeout, logLevel]

def name : Setting → String
  | debug => "debug"
  | kubeconfig => "kubeconfig"
  | master => "master"
  | namespaceName => "namespace"
  | publishInternalServices => "publish_internal_services"
  | test => "test"
  | recordTtl => "record_ttl"
  | withoutNamespace => "without_namespace"
  | source => "source"
  | exposeV4 => "expose_ipv4"
  | exposeV6 => "expose_ipv6"
  | defaultNamespace => "default_namespace"
  | resyncPeriod => "resync_period"
  | cacheSyncTimeout => "cache_sync_timeout"
  | logLevel => "log_level"

def ofName? (s : String) : Option Setting :=
  all.find? (·.name == s)

def kind : Setting → Kind
  | debug => .switch
  | kubeconfig => .text
  | master => .text
  | namespaceName => .text
  | publishInternalServices => .switch
  | test => .switch
  | recordTtl => .number
  | withoutNamespace => .switch
  | source => .sources
  | exposeV4 => .switch
  | exposeV6 => .switch
  | defaultNamespace => .text
  | resyncPeriod => .number
  | cacheSyncTimeout => .number
  | logLevel => .text

abbrev Content (s : Setting) : Type := s.kind.Content

def default : (s : Setting) → s.Content
  | debug => false
  | kubeconfig => ""
  | master => ""
  | namespaceName => ""
  | publishInternalServices => false
  | test => false
  | recordTtl => (120 : Int)
  | withoutNamespace => false
  | source => [SourceType.service]
  | exposeV4 => true
  | exposeV6 => false
  | defaultNamespace => "default"
  | resyncPeriod => (300 : Int)
  | cacheSyncTimeout => (60 : Int)
  | logLevel => "INFO"

def environmentSpace : String := "EXTERNAL_MDNS_"

/-- The environment variable of a setting. -/
def variableName (s : Setting) : String :=
  environmentSpace ++ s.name.map Char.toUpper

end Setting

/-- The content of every setting. -/
structure Settings where
  get : (s : Setting) → s.Content

namespace Settings

def default : Settings := ⟨Setting.default⟩

def set (settings : Settings) (s : Setting) (content : s.Content) : Settings :=
  ⟨fun t => if h : s = t then h ▸ content else settings.get t⟩

variable (settings : Settings)

def debug : Bool := settings.get .debug

def kubeconfig : String := settings.get .kubeconfig

def master : String := settings.get .master

def namespaceName : String := settings.get .namespaceName

def publishInternalServices : Bool := settings.get .publishInternalServices

def test : Bool := settings.get .test

def recordTtl : Int := settings.get .recordTtl

def withoutNamespace : Bool := settings.get .withoutNamespace

def sources : List SourceType := settings.get .source

def exposeV4 : Bool := settings.get .exposeV4

def exposeV6 : Bool := settings.get .exposeV6

def defaultNamespace : String := settings.get .defaultNamespace

def resyncPeriod : Int := settings.get .resyncPeriod

def cacheSyncTimeout : Int := settings.get .cacheSyncTimeout

def logLevel : String := settings.get .logLevel

/-- The policy under which records are written. -/
def recordPolicy : RecordPolicy where
  ttl := settings.recordTtl
  exposeV4 := settings.exposeV4
  exposeV6 := settings.exposeV6
  defaultNamespace := settings.defaultNamespace
  withoutNamespace := settings.withoutNamespace

end Settings

/-- The content of a setting as a value of a document. -/
def Setting.valueOf (kind : Setting.Kind) (content : kind.Content) : Value :=
  match kind, content with
  | .switch, b => .bool b
  | .number, n => .int n
  | .text, s => .str s
  | .sources, ss => .list (ss.map fun s => .str s.name)

/-- All settings by name, in the order in which they are listed. -/
def Settings.entries (settings : Settings) : List (String × Value) :=
  Setting.all.map fun s => (s.name, Setting.valueOf s.kind (settings.get s))

end ClusterMdns
