import ClusterMdns.Document.Value

/-!
What is to be advertised for one cluster object at the time of one event. Namespace and addresses are
kept as the object gave them, whatever kind of value that was.
-/

namespace ClusterMdns

open Document

inductive Action where
  | added
  | updated
  | deleted
deriving DecidableEq, Repr

/-- The kind of object that a resource was made from. -/
inductive SourceType where
  | service
  | ingress
deriving DecidableEq, Repr

namespace SourceType

def all : List SourceType := [service, ingress]

def name : SourceType → String
  | service => "service"
  | ingress => "ingress"

def ofName? (s : String) : Option SourceType :=
  all.find? (·.name == s)

end SourceType

structure Resource where
  source : SourceType
  action : Action
  names : List String
  namespaceName : Value
  addresses : List Value
  withoutNamespace : Bool := false

namespace Resource

/-- Nothing can be published without a name and an address. -/
def publishable (r : Resource) : Bool :=
  !r.names.isEmpty && !r.addresses.isEmpty

def withAction (r : Resource) (action : Action) : Resource :=
  { r with action }

end Resource

end ClusterMdns
