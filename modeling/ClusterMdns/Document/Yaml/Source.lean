import ClusterMdns.Document.Value
import ClusterMdns.Text.Stream

/-!
The characters of a YAML text. They are read and checked a piece at a time, so that what is wrong with a piece
shows only when a character of it is wanted.
-/

namespace ClusterMdns.Document.Yaml

/-- Why a text is no document: it breaks the rules of the language, or one of its values is no value of
its type. -/
inductive Error where
  | malformed
  | fault (f : Fault)
deriving DecidableEq, Repr

/-- Characters that may stand in a text. -/
def isAllowed (c : Char) : Bool :=
  let n := c.toNat
  n == 9 || n == 10 || n == 13 || (0x20 <= n && n <= 0x7E) || n == 0x85 || (0xA0 <= n && n < 0xFFFE) ||
    0x10000 <= n

/-- The characters that can be had of a text, and why no more can be had, unless the text is over. -/
structure Source where
  chars : List Char
  cut : Option Error := none

namespace Source

/-- How many characters are read at once. -/
def pieceLength : Nat := 4096

/-- A piece before others, unless a character in it may not stand in a text. -/
def after (piece : List Char) (s : Source) : Source :=
  if piece.all isAllowed then { s with chars := piece.flatMap Text.Surrogate.literally ++ s.chars }
  else ⟨[], some .malformed⟩

/-- What is had of a text whose pieces are checked one by one. -/
def ofStream : (fuel : Nat) → Text.Stream → Source
  | 0, _ => ⟨[], some .malformed⟩
  | fuel + 1, s => match s.take? pieceLength with
    | some ([], _) => ⟨[], none⟩
    | some (piece, s) => (ofStream fuel s).after piece
    | none => ⟨[], some (.fault .undecodable)⟩

/-- The first two pieces, which are checked together. -/
def opening? (s : Text.Stream) : Option (List Char × Text.Stream) := do
  let (first, s) ← s.take? pieceLength
  let (second, s) ← s.take? pieceLength
  some (first ++ second, s)

/-- The text of a file. -/
def ofBytes (content : List UInt8) : Source :=
  match opening? { coming := content } with
  | some (piece, s) => (ofStream (content.length + 1) s).after piece
  | none => ⟨[], some (.fault .undecodable)⟩

end Source

end ClusterMdns.Document.Yaml
