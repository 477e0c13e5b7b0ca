import ClusterMdns.Resource

/-!
The policy under which records are written, and whether a resource gets bare names under it.
-/

namespace ClusterMdns

/-- `unqualifiedSources` are the kinds of objects whose names belong to the host rather than to a
namespace; they always get bare names besides the namespaced ones. -/
structure RecordPolicy where
  ttl : Int := 120
  exposeV4 : Bool := true
  exposeV6 : Bool := false
  defaultNamespace : String := "default"
  withoutNamespace : Bool := false
  unqualifiedSources : List SourceType := [.ingress]

/-- Whether bare names are published for the resource. -/
def RecordPolicy.publishesUnqualified (policy : RecordPolicy) (r : Resource) : Bool :=
  r.namespaceName.isText policy.defaultNamespace || r.withoutNamespace || policy.withoutNamespace ||
    policy.unqualifiedSources.contains r.source

end ClusterMdns
