import ClusterMdns.Text.Fields
import ClusterMdns.Text.Hex

/-!
Mappings from characters to sequences of characters, as tables in text. A table consists of runs with
semicolons between them. A run is the first code point and the values of that point and of those that
follow it; a value is a sequence of code points with plus signs between them, and `a-b` stands for the
values from `a` to `b`. All numbers are hexadecimal.
-/

namespace ClusterMdns.Text

/-- The values of consecutive code points, from `first` on. -/
structure MappingRun where
  first : Nat
  values : List (List Nat)

abbrev Mapping := List MappingRun

namespace Mapping

/-- The number that hexadecimal digits stand for. -/
def number (cs : List Char) : Nat :=
  cs.foldl (fun n c => n * 16 + (hexValue? c).getD 0) 0

def values (cs : List Char) : List (List Nat) :=
  match splitChars (· == '-') cs with
  | [low, high] => (List.range (number high + 1 - number low)).map fun i => [number low + i]
  | _ => [(splitChars (· == '+') cs).map number]

/-- The words between blanks and line ends. -/
def words (cs : List Char) : List (List Char) :=
  (splitChars (fun c => c == ' ' || c == '\n') cs).filter (!·.isEmpty)

def run? (cs : List Char) : Option MappingRun :=
  match words cs with
  | [] => none
  | first :: rest => some ⟨number first, rest.flatMap values⟩

def ofText (table : String) : Mapping :=
  (splitChars (· == ';') table.toList).filterMap run?

/-- The value of a code point, if the table has one. -/
def find? (m : Mapping) (n : Nat) : Option (List Nat) :=
  match List.find? (fun r : MappingRun => r.first <= n && n < r.first + r.values.length) m with
  | some r => r.values[n - r.first]?
  | none => none

end Mapping

end ClusterMdns.Text
