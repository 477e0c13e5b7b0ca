/-!
Texts of any characters in letters, digits and hyphens: the plain characters come first, then, in the
order of their code points, the places of the others as numbers of variable length.
-/

namespace ClusterMdns.Text.Punycode

def base : Nat := 36

/-- Reduces a distance until it is small, counting digits on the way. -/
def settle (digits distance : Nat) : Nat :=
  if distance > 455 then settle (digits + base) (distance / 35)
  else digits + base * distance / (distance + 38)
termination_by distance
decreasing_by omega

/-- The bias for the next number, after `count` characters. -/
def adapt (distance count : Nat) (first : Bool) : Nat :=
  let distance := if first then distance / 700 else distance / 2
  settle 0 (distance + distance / count)

/-- Letters stand for 0 to 25, decimal digits for 26 to 35. -/
def digit (n : Nat) : Char :=
  Char.ofNat (if n < 26 then 97 + n else 22 + n)

/-- From which value on a digit at a position is not the last; between 1 and 26. -/
def threshold (bias position : Nat) : Nat :=
  max 1 (min 26 (position - bias))

/-- A number, lowest digit first. -/
def number (bias position n : Nat) : List Char :=
  let t := threshold bias position
  if n < t then [digit n]
  else digit (t + (n - t) % (base - t)) :: number bias (position + base) ((n - t) / (base - t))
termination_by n
decreasing_by
  have low : 1 ≤ threshold bias position := Nat.le_max_left ..
  have high : threshold bias position ≤ 26 := Nat.max_le.2 ⟨by decide, Nat.min_le_left ..⟩
  have : (n - threshold bias position) / (base - threshold bias position) ≤
      n - threshold bias position := Nat.div_le_self ..
  omega

structure State where
  /-- What has been written behind the plain characters. -/
  written : List Char
  distance : Nat
  bias : Nat
  /-- How many characters have been placed. -/
  placed : Nat
  /-- How many of them were plain. -/
  plain : Nat

/-- Passes a character while those with code point `target` are placed. -/
def State.pass (target : Nat) (s : State) (n : Nat) : State :=
  if n < target then { s with distance := s.distance + 1 }
  else if n == target then
    { s with
      written := s.written ++ number s.bias base s.distance
      bias := adapt s.distance (s.placed + 1) (s.placed == s.plain)
      distance := 0
      placed := s.placed + 1 }
  else s

/-- Places all characters of the code points `targets`, which ascend from `next` on. -/
def place (ns : List Nat) (next : Nat) (s : State) : (targets : List Nat) → List Char
  | [] => s.written
  | target :: targets =>
    let s := { s with distance := s.distance + (target - next) * (s.placed + 1) }
    let s := ns.foldl (State.pass target) s
    place ns (target + 1) { s with distance := s.distance + 1 } targets

/-- Code points beyond ASCII, each once and in order. -/
def targets (ns : List Nat) : List Nat :=
  ((ns.filter (· >= 0x80)).mergeSort (· <= ·)).eraseDups

def encode (cs : List Char) : List Char :=
  let plain := cs.filter (·.toNat < 0x80)
  let ns := cs.map Char.toNat
  let front := if plain.isEmpty then [] else plain ++ ['-']
  front ++ place ns 0x80 ⟨[], 0, 72, plain.length, plain.length⟩ (targets ns)

end ClusterMdns.Text.Punycode
