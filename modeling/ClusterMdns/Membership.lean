import ClusterMdns.Resource

/-!
Changes of cluster objects, as a source of them delivers them.
-/

namespace ClusterMdns

open Document

/-- One object was added, updated or deleted; an update may know the object as it was before. -/
structure MembershipEvent where
  action : Action
  obj : Value
  old : Option Value := none

/-- What a source of events delivers: an event, or its own failure. An event may come after the signal to
stop was given. -/
inductive Delivery where
  | event (stopped : Bool) (e : MembershipEvent)
  | failure (cause : String)

end ClusterMdns
