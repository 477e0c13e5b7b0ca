import ClusterMdns.Document.Display
import ClusterMdns.Log
import ClusterMdns.Settings.Basic

/-!
What concerns the log: the level from which lines are shown, before there are settings and with them, and the
text of the settings themselves.
-/

namespace ClusterMdns

open Document

namespace Settings

def levelNumbers : List (String × Nat) :=
  [("DEBUG", 10), ("INFO", 20), ("WARNING", 30), ("WARN", 30), ("ERROR", 40), ("CRITICAL", 50),
    ("FATAL", 50), ("NOTSET", 0)]

/-- The letters whose capital is an ASCII letter are the ASCII ones, the dotless i and the long s. -/
def capital (c : Char) : Char :=
  if c.toNat == 0x131 then 'I' else if c.toNat == 0x17F then 'S' else c.toUpper

def levelNumber? (name : String) : Option Nat :=
  levelNumbers.lookup (String.ofList (name.toList.map capital))

def defaultLevel : Nat := 20

/-- The capitals of two ligatures are an S and a T. -/
def capitals (c : Char) : List Char :=
  if c.toNat == 0xFB05 || c.toNat == 0xFB06 then ['S', 'T'] else [capital c]

/-- The least severity of the lines to show before there are settings, by the name of a level if one is given.
Two names are not of levels, and no log can be kept with what they stand for. -/
def firstLevel : Option String → Except Fault Nat
  | none => .ok defaultLevel
  | some name => match String.ofList (name.toList.flatMap capitals) with
    | "BASIC_FORMAT" => .error .badValue
    | "_STYLES" => .error .wrongKind
    | _ => .ok ((levelNumber? name).getD defaultLevel)

/-- The least severity of the lines to show. -/
def level {ε : Type} (settings : Settings) : Logged ε Nat :=
  if settings.debug then pure 10
  else match levelNumber? settings.logLevel with
    | some n => pure n
    | none => do
      Logged.warning ("Unknown log level '" ++ settings.logLevel ++ "', using INFO")
      pure defaultLevel

/-- Lists stand in round brackets, a single item with a comma. -/
def valueLiteral : Value → String
  | .list [v] => "(" ++ v.literal ++ ",)"
  | .list vs => "(" ++ Text.join ", " (vs.map Value.literal) ++ ")"
  | v => v.literal

/-- Whether every number among the settings can be written. -/
def isWritable (settings : Settings) : Bool :=
  settings.entries.all fun (_, v) => v.isWritable

def literal (settings : Settings) : String :=
  "\x7b" ++ Text.join ", " (settings.entries.map fun (name, v) =>
    Text.quoted name ++ ": " ++ valueLiteral v) ++ "\x7d"

end Settings

/-- The lines that are urgent enough to be shown. -/
def shownAt (level : Nat) (lines : List LogLine) : List LogLine :=
  lines.filter fun l => level <= l.level.severity

end ClusterMdns
