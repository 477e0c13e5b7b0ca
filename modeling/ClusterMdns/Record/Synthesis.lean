import ClusterMdns.Address.Printer
import ClusterMdns.Address.Reader
import ClusterMdns.Document.Display
import ClusterMdns.Log
import ClusterMdns.Record.Policy

/-!
The record lines of a resource. For every address and name there are two namespaced forms, one with a
dot and one with a hyphen for resolvers that look up single labels only, each with a pointer back; bare
names follow where the policy publishes them.
-/

namespace ClusterMdns

open Document

/-- What a record line says: that a name has an address, or that a reverse name points to a name. -/
inductive LineKind where
  | a
  | aaaa
  | ptr
deriving DecidableEq, Repr

def LineKind.name : LineKind → String
  | a => "A"
  | aaaa => "AAAA"
  | ptr => "PTR"

structure RecordLine where
  owner : String
  ttl : Int
  kind : LineKind
  data : String
deriving DecidableEq, Repr

def RecordLine.text (l : RecordLine) : String :=
  l.owner ++ " " ++ Number.intText l.ttl ++ " IN " ++ l.kind.name ++ " " ++ l.data

namespace Resource

def dottedName (r : Resource) (name : String) : String :=
  name ++ "." ++ r.namespaceName.text ++ ".local."

def hyphenatedName (r : Resource) (name : String) : String :=
  name ++ "-" ++ r.namespaceName.text ++ ".local."

def bareName (name : String) : String :=
  name ++ ".local."

end Resource

namespace RecordPolicy

def exposes (policy : RecordPolicy) : Address → Bool
  | .v4 _ => policy.exposeV4
  | .v6 _ => policy.exposeV6

def lineKind : Address → LineKind
  | .v4 _ => .a
  | .v6 _ => .aaaa

variable (policy : RecordPolicy)

/-- The line from a name to an address. -/
def forward (a : Address) (owner : String) : RecordLine :=
  ⟨owner, policy.ttl, lineKind a, a.text⟩

/-- The line from an address back to a name. -/
def backward (reverse target : String) : RecordLine :=
  ⟨reverse, policy.ttl, .ptr, target⟩

def namespacedLines (r : Resource) (a : Address) (reverse name : String) : List RecordLine :=
  [policy.forward a (r.dottedName name), policy.forward a (r.hyphenatedName name),
    policy.backward reverse (r.dottedName name), policy.backward reverse (r.hyphenatedName name)]

def bareLines (a : Address) (reverse name : String) : List RecordLine :=
  [policy.forward a (Resource.bareName name), policy.backward reverse (Resource.bareName name)]

/-- All lines of one address. -/
def linesAt (r : Resource) (a : Address) (reverse : String) : List RecordLine :=
  r.names.flatMap (policy.namespacedLines r a reverse) ++
    if policy.publishesUnqualified r then r.names.flatMap (policy.bareLines a reverse) else []

/-- The lines of one address as the object gave it. Texts that are no address are skipped with a warning,
families that the policy hides without one. -/
def linesOf (r : Resource) (given : Value) : Logged Fault (List RecordLine) := do
  let text ← given.asText
  match Address.read? text with
  | none =>
    Logged.warning ("Skipping unparsable address '" ++ text ++ "' for " ++ textsLiteral r.names)
    pure []
  | some a =>
    if policy.exposes a then
      match a.reverseName? with
      | some reverse => pure (policy.linesAt r a reverse)
      | none => Logged.fail .badValue
    else pure []

def linesOfAll (r : Resource) : List Value → Logged Fault (List RecordLine)
  | [] => pure []
  | given :: rest => do
    let here ← policy.linesOf r given
    let more ← linesOfAll r rest
    pure (here ++ more)

/-- All lines of a resource, address by address. -/
def lines (r : Resource) : Logged Fault (List RecordLine) :=
  policy.linesOfAll r r.addresses

end RecordPolicy

end ClusterMdns
