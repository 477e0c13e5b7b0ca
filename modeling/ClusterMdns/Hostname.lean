import ClusterMdns.Text.Blank
import ClusterMdns.Text.Fields

/-!
Names that can be advertised: labels between dots, each of 1 to 63 letters, digits and hyphens with no
hyphen at either end. A host is advertised when it lies under `.local`.
-/

namespace ClusterMdns.Hostname

inductive Error where
  | invalidLabel (label host : String)
  | notLocal (host : String)
deriving DecidableEq, Repr

def Error.message : Error → String
  | invalidLabel label host => "invalid label '" ++ label ++ "' in '" ++ host ++ "'"
  | notLocal host => "'" ++ host ++ "' is not under .local"

/-- A digit, or a letter in either case. Comparing without regard to case lets four more characters
pass for the letters i, s and k. -/
def isAlphanumeric (c : Char) : Bool :=
  ('0' <= c && c <= '9') || ('a' <= c && c <= 'z') || ('A' <= c && c <= 'Z') ||
    [0x130, 0x131, 0x17F, 0x212A].contains c.toNat

/-- A line feed at the end is not seen by the check. -/
def withoutLineEnd (cs : List Char) : List Char :=
  if cs.getLast? == some '\n' then cs.dropLast else cs

def isLabel (cs : List Char) : Bool :=
  let cs := withoutLineEnd cs
  cs.length <= 63 && cs.all (fun c => isAlphanumeric c || c == '-') &&
    cs.head?.any isAlphanumeric && cs.getLast?.any isAlphanumeric

/-- Fails at the first label that is none. -/
def checkLabels (host : String) : List String → Except Error Unit
  | [] => .ok ()
  | label :: rest =>
    if isLabel label.toList then checkLabels host rest else .error (.invalidLabel label host)

/-- The name itself, if every label of it is one. -/
def validate (name : String) : Except Error String := do
  checkLabels name (Text.splitOn '.' name)
  pure name

def localSuffix : String := ".local"

/-- Whether a text ends in `.local`, in any letter case. -/
def isUnderLocal (cs : List Char) : Bool :=
  localSuffix.toList.isSuffixOf (cs.map Char.toLower)

/-- A host without blanks around it and without dots at its end. -/
def tidy (host : String) : List Char :=
  Text.dropTrailing (· == '.') (Text.trimChars host.toList)

/-- The advertisable name of a host under `.local`: everything before that suffix. -/
def ofLocalHost (host : String) : Except Error String := do
  let cs := tidy host
  if isUnderLocal cs then
    let name := String.ofList (cs.take (cs.length - localSuffix.length))
    checkLabels (String.ofList cs) (Text.splitOn '.' name)
    pure name
  else .error (.notLocal (String.ofList cs))

end ClusterMdns.Hostname
