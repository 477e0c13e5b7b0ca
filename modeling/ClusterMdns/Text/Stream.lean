import ClusterMdns.Number.Binary
import ClusterMdns.Text.Fields
import ClusterMdns.Text.Utf8

/-!
Texts that are read from bytes a piece at a time. Bytes that are no text do not matter before they are read.
-/

namespace ClusterMdns.Text

/-- A text of which a part is read. `held` is the start of a character that is not whole, `afterReturn` tells
whether a carriage return is held back, because a line feed may follow it, and `ready` are the characters that
are read and not yet taken. `last` counts the bytes that were read last and the characters that came of them. -/
structure Stream where
  coming : List UInt8
  held : List UInt8 := []
  afterReturn : Bool := false
  ready : List Char := []
  last : Nat × Nat := (0, 0)

namespace Stream

/-- The least number of bytes to read at once. -/
def chunkLength : Nat := 8192

/-- How many bytes `n` characters take, if they take as many as those that were read last. -/
def estimate (n : Nat) (s : Stream) : Nat :=
  let (bytes, chars) := s.last
  if chars == 0 || bytes <= chars then n
  else (((Number.Binary.ofQuotient false bytes chars).times n).truncate?.getD 0).toNat

/-- Characters with unified line ends, and whether a carriage return at their end is held back. -/
def settle (afterReturn : Bool) (cs : List Char) : List Char × Bool :=
  let cs := if afterReturn then '\r' :: cs else cs
  if cs.getLast? == some '\r' then (unifyLineEnds cs.dropLast, true) else (unifyLineEnds cs, false)

/-- Reads bytes for `n` characters, unless they show that the bytes are no text. -/
def refill (n : Nat) (s : Stream) : Option Stream :=
  let size := max chunkLength (s.estimate n)
  let bytes := s.coming.take size
  let (codes, held) := Utf8.front (s.held ++ bytes)
  if codes.any Surrogate.isHalf || !Utf8.isOpen held then none
  else
    let (cs, afterReturn) := settle s.afterReturn (codes.map Char.ofNat)
    some {
      coming := s.coming.drop size
      held := held
      afterReturn := afterReturn
      ready := s.ready ++ cs
      last := (bytes.length, cs.length) }

/-- No more bytes come, so that nothing is held back. -/
def finish (s : Stream) : Option Stream :=
  if s.held.isEmpty then
    some { s with afterReturn := false, ready := s.ready ++ if s.afterReturn then ['\n'] else [] }
  else none

/-- Reads until `n` characters are ready or the bytes are over. -/
def fill (n : Nat) : (fuel : Nat) → Stream → Option Stream
  | 0, s => some s
  | fuel + 1, s =>
    if n <= s.ready.length then some s
    else if s.coming.isEmpty then s.finish
    else (s.refill (n - s.ready.length)).bind (fill n fuel)

/-- The next `n` characters, fewer at the end of the text. -/
def take? (n : Nat) (s : Stream) : Option (List Char × Stream) :=
  (s.fill n (s.coming.length + 1)).map fun s => (s.ready.take n, { s with ready := s.ready.drop n })

end Stream

end ClusterMdns.Text
