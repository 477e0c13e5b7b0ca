import ClusterMdns.Document.Yaml.Source

/-!
Places in a YAML text and the runs of characters that are read there.
-/

namespace ClusterMdns.Document.Yaml

def isBreak (c : Char) : Bool :=
  let n := c.toNat
  c == '\n' || c == '\r' || n == 0x85 || n == 0x2028 || n == 0x2029

/-- The end of the text or of a line. -/
def endsLine : Option Char → Bool
  | none => true
  | some c => isBreak c

/-- As `endsLine`, or a space. -/
def endsWord : Option Char → Bool
  | some ' ' => true
  | c => endsLine c

/-- As `endsWord`, or a tab. -/
def endsToken : Option Char → Bool
  | some '\t' => true
  | c => endsWord c

def byteOrderMark : Char := Char.ofNat 0xFEFF

/-- What is left of the characters that can be had of a text, with the number of characters before it and the
place in lines. `cut` says why no more can be had, unless the text is over. -/
structure Cursor where
  rest : List Char
  index : Nat := 0
  line : Nat := 0
  column : Nat := 0
  cut : Option Error := none

namespace Cursor

def start (s : Source) : Cursor := { rest := s.chars, cut := s.cut }

/-- Looks for `n` characters. There may be fewer only where the text is over. -/
def need (n : Nat) (c : Cursor) : Except Error Unit :=
  match c.cut with
  | some e => if (c.rest.take n).length < n then .error e else .ok ()
  | none => .ok ()

def peek (c : Cursor) : Option Char := c.rest.head?

def peekAt (n : Nat) (c : Cursor) : Option Char := c.rest[n]?

/-- Moves over one character. A byte order mark takes no column. -/
def advance (c : Cursor) : Cursor :=
  match c.rest with
  | [] => c
  | x :: rest =>
    let c := { c with rest, index := c.index + 1 }
    if isBreak x && !(x == '\r' && rest.head? == some '\n') then { c with line := c.line + 1, column := 0 }
    else if x == byteOrderMark then c
    else { c with column := c.column + 1 }

def advanceBy : Nat → Cursor → Cursor
  | 0, c => c
  | n + 1, c => advanceBy n c.advance

/-- The longest run of characters that satisfy `p`. -/
def span (p : Char → Bool) (c : Cursor) : List Char × Cursor :=
  let run := c.rest.takeWhile p
  (run, c.advanceBy run.length)

def skip (p : Char → Bool) (c : Cursor) : Cursor :=
  (c.span p).2

def skipSpaces (c : Cursor) : Cursor :=
  c.skip (· == ' ')

/-- At most `n` spaces. -/
def skipSpacesUpTo (n : Nat) (c : Cursor) : Cursor :=
  c.advanceBy (min n (c.rest.takeWhile (· == ' ')).length)

def skipLine (c : Cursor) : Cursor :=
  c.skip (!isBreak ·)

/-- A line end as the character that stands for it; nothing elsewhere. -/
def lineBreak (c : Cursor) : List Char × Cursor :=
  match c.rest with
  | '\r' :: '\n' :: _ => (['\n'], c.advanceBy 2)
  | x :: _ =>
    if x == '\n' || x == '\r' || x.toNat == 0x85 then (['\n'], c.advance)
    else if isBreak x then ([x], c.advance)
    else ([], c)
  | [] => ([], c)

/-- Whether three equal characters stand here as a word of their own. -/
def atMarker (x : Char) (c : Cursor) : Bool :=
  c.rest.take 3 == [x, x, x] && endsToken (c.peekAt 3)

/-- Whether a line that begins here separates documents. -/
def atSeparator (c : Cursor) : Except Error Bool := do
  c.need 3
  if ["---".toList, "...".toList].contains (c.rest.take 3) then c.need 4
  .ok (c.atMarker '-' || c.atMarker '.')

/-- Spaces and a comment up to the end of the line, and the line end. -/
def restOfLine (c : Cursor) : Except Error Cursor := do
  let c := c.skipSpaces
  let c := if c.peek == some '#' then c.skipLine else c
  c.need 1
  if endsLine c.peek then .ok c.lineBreak.2 else .error .malformed

end Cursor

end ClusterMdns.Document.Yaml
