import ClusterMdns.Document.Display
import ClusterMdns.Log
import ClusterMdns.Resource
import ClusterMdns.Text.Blank
import ClusterMdns.Text.LowerCase

/-!
What a setting makes of the value it is given, whether that came from a file, the environment or the
command line.
-/

namespace ClusterMdns

open Document

namespace Settings

def trueWords : List String := ["1", "true", "yes", "y", "on"]

def falseWords : List String := ["0", "false", "no", "n", "off"]

/-- Null means the default; any text that is no word for true means false. -/
def boolOf (default : Bool) : Value → Except Fault Bool
  | .null => .ok default
  | .bool b => .ok b
  | v => do .ok (trueWords.contains (Text.lower (Text.trim (← v.text?))))

/-- The items of a list, or of a text between its commas, trimmed and in lower case; blank ones are
left out. -/
def itemsOf (v : Value) : Except Fault (List String) := do
  let items ← match v.opened with
    | .list vs => vs.mapM Value.text?
    | _ => do pure (Text.splitOn ',' (← v.text?))
  .ok ((items.map Text.trim |>.filter (· != "")).map Text.lower)

def unknownSource (item : String) : String :=
  "Ignoring unknown source '" ++ item ++ "' (options: " ++
    Text.join ", " (SourceType.all.map SourceType.name) ++ ")"

/-- Adds the sources that items name to those already found, each once; other items get a warning. -/
def collectSources {ε : Type} (found : List SourceType) : List String → Logged ε (List SourceType)
  | [] => pure found
  | item :: rest =>
    match SourceType.ofName? item with
    | none => do
      Logged.warning (unknownSource item)
      collectSources found rest
    | some s => collectSources (if found.contains s then found else found ++ [s]) rest

def sourcesOf (v : Value) : Logged Fault (List SourceType) := do
  collectSources [] (← itemsOf v)

/-- The trimmed text of a value, empty for null. -/
def textOf : Value → Except Fault String
  | .null => .ok ""
  | v => v.text?.map Text.trim

end Settings

end ClusterMdns
