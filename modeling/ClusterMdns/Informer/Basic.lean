import ClusterMdns.Adapter
import ClusterMdns.Membership
import ClusterMdns.Table

/-!
An informer keeps a copy of all objects of one type. A listing replaces the copy and a watch event changes
one object of it; both say what changed.
-/

namespace ClusterMdns

open Document

/-- The version that an object carries, empty if it has none. -/
def ClusterObject.revision (obj : Value) : Except Fault Value := do
  let header ← (obj.orElse (.dict [])).section? "metadata"
  let version ← header.get? "resourceVersion"
  pure (version.getD (.str ""))

/-- `cache` is the copy, by namespace and name; `version` is the version up to which it is known. -/
structure Informer where
  resource : String
  cache : Table String Value := []
  version : Value := .str ""
  synced : Bool := false

namespace Informer

open ClusterObject

def name (i : Informer) : String :=
  "kubernetes/" ++ i.resource

/-! ### Listings -/

/-- The objects of a listing by their keys; of several with one key the last counts. -/
def keyed (items : Value) : Except Fault (Table String Value) := do
  let objs ← items.elements
  let entries ← objs.mapM fun obj => do pure (← key obj, obj)
  pure (Table.ofList entries)

/-- What is new about the listed objects. -/
def additions (cache : Table String Value) : List (String × Value) → Except Fault (List MembershipEvent)
  | [] => pure []
  | (name, obj) :: rest => do
    let here ← match cache.find? name with
      | none => pure [{ action := .added, obj := obj : MembershipEvent }]
      | some old =>
        if (← revision old).same (← revision obj) then pure []
        else pure [{ action := .updated, obj := obj, old := some old }]
    pure (here ++ (← additions cache rest))

/-- The cached objects that are not listed any more. -/
def removals (cache fresh : Table String Value) : List MembershipEvent :=
  cache.filterMap fun (name, old) =>
    if fresh.contains name then none else some { action := .deleted, obj := old }

/-- Takes a listing in place of the cache and says what changed. A listing that cannot be read changes
nothing. -/
def relist (items version : Value) (i : Informer) : Informer × Logged Fault (List MembershipEvent) :=
  match (do let fresh ← keyed items; pure (fresh, ← additions i.cache fresh)) with
  | .error f => (i, .fail f)
  | .ok (fresh, added) =>
    ({ i with cache := fresh, version := version, synced := true }, do
      Logged.debug ("Listed " ++ Number.natText fresh.length ++ " " ++ i.resource ++ " at version " ++
        version.text)
      pure (added ++ removals i.cache fresh))

/-! ### Watch events -/

inductive WatchError where
  | expired (message : String)
  | fault (f : Fault)
deriving DecidableEq, Repr

/-- What an error event says: the watched version is gone, or something else went wrong. -/
def readError (resource : String) (obj : Value) : Logged WatchError (Option MembershipEvent) :=
  match (do pure (← obj.get "code", ← obj.get? "message")) with
  | .error f => .fail (.fault f)
  | .ok (code, message) =>
    if code.same (.int 410) then
      .fail (.expired ((message.map Value.text).getD "resource version expired"))
    else do
      Logged.warning ("Watch error for " ++ resource ++ ": " ++ (message.getD obj).text)
      Logged.fail (.expired "watch error")

/-- Takes over a version that counts as something. -/
def noteVersion (v : Value) (i : Informer) : Informer :=
  if v.truthy then { i with version := v } else i

/-- Takes an object out of the cache. The event holds the object as it was cached. -/
def remove (name : String) (obj : Value) (i : Informer) : Informer × MembershipEvent :=
  ({ i with cache := i.cache.erase name },
    { action := .deleted, obj := ((i.cache.find? name).getD .null).orElse obj })

/-- Puts an object into the cache. -/
def store (name : String) (obj : Value) (i : Informer) : Informer :=
  { i with cache := i.cache.set name obj }

/-- What putting an object into the cache changes; nothing, if its version is known. -/
def change (old : Option Value) (obj : Value) : Except Fault (Option MembershipEvent) :=
  match old with
  | none => pure (some { action := .added, obj := obj })
  | some before => do
    if (← revision before).same (← revision obj) then pure none
    else pure (some { action := .updated, obj := obj, old := some before })

/-- A watch event about an object. An event of an unknown type changes the cache all the same, but is not
reported. -/
def applyChange (kind obj : Value) (i : Informer) :
    Except Fault (Informer × Logged WatchError (Option MembershipEvent)) := do
  let i := i.noteVersion (← revision obj)
  if kind.isText "BOOKMARK" then pure (i, .ok none)
  else
    let name ← key obj
    if kind.isText "DELETED" then
      let (i, e) := i.remove name obj
      pure (i, .ok (some e))
    else if kind.isText "ADDED" || kind.isText "MODIFIED" then
      let e ← change (i.cache.find? name) obj
      pure (i.store name obj, .ok e)
    else
      pure (i.store name obj, do
        Logged.debug ("Ignoring unknown watch event type " ++ kind.literal)
        pure none)

/-- Takes a watch event and says what changed. One that cannot be read changes nothing. -/
def apply (raw : Value) (i : Informer) : Informer × Logged WatchError (Option MembershipEvent) :=
  match (do pure (← raw.get "type", ← raw.section? "object")) with
  | .error f => (i, .fail (.fault f))
  | .ok (kind, obj) =>
    if kind.isText "ERROR" then (i, readError i.resource obj)
    else match i.applyChange kind obj with
      | .error f => (i, .fail (.fault f))
      | .ok done => done

end Informer

end ClusterMdns
