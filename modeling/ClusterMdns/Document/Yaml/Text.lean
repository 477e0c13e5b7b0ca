import ClusterMdns.Document.Yaml.Cursor
import ClusterMdns.Text.Hex
import ClusterMdns.Text.Surrogate

/-!
The scalars of a YAML text: plain, quoted and block. Line ends inside a plain or quoted scalar are
folded: a single one becomes a space, of several the first is dropped.
-/

namespace ClusterMdns.Document.Yaml

/-- A line end and the further ones after it, folded. -/
def fold (first : List Char) (more : List Char) : List Char :=
  if first != ['\n'] then first ++ more
  else if more.isEmpty then [' ']
  else more

namespace Cursor

/-! ### Plain scalars -/

/-- Line ends and spaces after the first line end of a plain scalar; nothing where a document separator
begins a line. -/
def plainBreaks : (fuel : Nat) → Cursor → Except Error (Option (List Char) × Cursor)
  | 0, c => .ok (some [], c)
  | fuel + 1, c =>
    if c.peek == some ' ' then plainBreaks fuel c.advance
    else match c.lineBreak with
      | ([], _) => .ok (some [], c)
      | (x, c) => do
        if ← c.atSeparator then .ok (none, c)
        else
          let (more, c) ← plainBreaks fuel c
          .ok (more.map (x ++ ·), c)

/-- What stands between two words of a plain scalar; nothing when the scalar ends. The last component
tells whether a line end was passed. -/
def plainGap (c : Cursor) : Except Error (List Char × Cursor × Bool) :=
  let (spaces, c) := c.span (· == ' ')
  match c.lineBreak with
  | ([], _) => .ok (spaces, c, false)
  | (first, c) => do
    if ← c.atSeparator then .ok ([], c, true)
    else match ← plainBreaks (c.rest.length + 1) c with
      | (none, c) => .ok ([], c, true)
      | (some more, c) => .ok (fold first more, c, true)

/-- The length of the word at the cursor. -/
def plainWord (flow : Bool) : List Char → Nat
  | [] => 0
  | x :: rest =>
    if endsToken (some x) then 0
    else if x == ':' && (endsToken rest.head? ||
        (flow && rest.head?.any [',', '[', ']', '\x7b', '\x7d'].contains)) then 0
    else if flow && [',', '?', '[', ']', '\x7b', '\x7d'].contains x then 0
    else plainWord flow rest + 1

/-- The length of the word at the cursor, and a look at what ends it. A colon ends it only together with
what follows. -/
def plainLength (flow : Bool) (c : Cursor) : Except Error Nat := do
  let length := if c.peek == some '#' then 0 else plainWord flow c.rest
  c.need (length + 1)
  if c.peekAt length == some ':' then c.need (length + 2)
  .ok length

/-- The words of a plain scalar that is indented by at least `indent` columns. -/
def plainFrom (flow : Bool) (indent : Nat) : (fuel : Nat) → (gap : List Char) → (passed : Bool) → Cursor →
    Except Error (List Char × Cursor × Bool)
  | 0, _, passed, c => .ok ([], c, passed)
  | fuel + 1, gap, passed, c => do
    let length ← c.plainLength flow
    if length == 0 then .ok ([], c, passed)
    else
      let word := c.rest.take length
      let (next, d, broke) ← (c.advanceBy length).plainGap
      if next.isEmpty || d.peek == some '#' || (!flow && d.column < indent) then .ok (gap ++ word, d, broke)
      else
        let (more, e, passed) ← plainFrom flow indent fuel next broke d
        .ok (gap ++ word ++ more, e, passed)

/-- A plain scalar, and whether a line end follows its last word. -/
def plain (flow : Bool) (indent : Nat) (c : Cursor) : Except Error (List Char × Cursor × Bool) :=
  plainFrom flow indent (c.rest.length + 1) [] false c

/-! ### Quoted scalars -/

def escapeOf? (c : Char) : Option Char :=
  match c with
  | '0' => some (Char.ofNat 0)
  | 'a' => some (Char.ofNat 7)
  | 'b' => some (Char.ofNat 8)
  | 't' => some '\t'
  | '\t' => some '\t'
  | 'n' => some '\n'
  | 'v' => some (Char.ofNat 11)
  | 'f' => some (Char.ofNat 12)
  | 'r' => some '\r'
  | 'e' => some (Char.ofNat 27)
  | ' ' => some ' '
  | '"' => some '"'
  | '\\' => some '\\'
  | '/' => some '/'
  | 'N' => some (Char.ofNat 0x85)
  | '_' => some (Char.ofNat 0xA0)
  | 'L' => some (Char.ofNat 0x2028)
  | 'P' => some (Char.ofNat 0x2029)
  | _ => none

def codeLength? (c : Char) : Option Nat :=
  match c with
  | 'x' => some 2
  | 'u' => some 4
  | 'U' => some 8
  | _ => none

/-- A number of `length` hexadecimal digits. The digits are looked at up to the first that is none. -/
def code (length : Nat) (c : Cursor) : Except Error Nat := do
  let digits := (c.rest.take length).takeWhile fun x => (Text.hexValue? x).isSome
  c.need (min length (digits.length + 1))
  if digits.length < length then .error .malformed
  else .ok (Number.ofDigits 16 (digits.filterMap Text.hexValue?))

/-- The text of a code. Halves of code pairs stay apart. -/
def coded (n : Nat) : Except Error (List Char) :=
  if 0x80000000 <= n then .error (.fault .overflow)
  else if 0x110000 <= n then .error (.fault .badValue)
  else .ok (Text.Surrogate.ofCode n)

/-- Blanks and line ends inside a quoted scalar, after its first line end on a line. -/
def quotedBreaks : (fuel : Nat) → Cursor → Except Error (List Char × Cursor)
  | 0, c => .ok ([], c)
  | fuel + 1, c => do
    if ← c.atSeparator then .error .malformed
    else
      let c := c.skip fun x => x == ' ' || x == '\t'
      match c.lineBreak with
      | ([], _) => .ok ([], c)
      | (x, c) =>
        let (more, c) ← quotedBreaks fuel c
        .ok (x ++ more, c)

/-- The rest of a quoted scalar, up to and with the closing quote. -/
def quotedFrom (double : Bool) : (fuel : Nat) → Cursor → Except Error (List Char × Cursor)
  | 0, _ => .error .malformed
  | fuel + 1, c => do
    c.need 1
    match c.rest with
    | [] => .error .malformed
    | '\'' :: rest =>
      if double then
        let (more, d) ← quotedFrom double fuel c.advance
        .ok ('\'' :: more, d)
      else
        c.need 2
        if rest.head? == some '\'' then
          let (more, d) ← quotedFrom double fuel (c.advanceBy 2)
          .ok ('\'' :: more, d)
        else .ok ([], c.advance)
    | '"' :: _ =>
      if double then .ok ([], c.advance)
      else
        let (more, d) ← quotedFrom double fuel c.advance
        .ok ('"' :: more, d)
    | x :: _ =>
      if double && x == '\\' then
        let c := c.advance
        c.need 1
        match c.peek with
        | none => .error .malformed
        | some y =>
          match escapeOf? y, codeLength? y with
          | some z, _ =>
            let (more, d) ← quotedFrom double fuel c.advance
            .ok (z :: more, d)
          | none, some length =>
            let cs ← coded (← c.advance.code length)
            let (more, d) ← quotedFrom double fuel (c.advance.advanceBy length)
            .ok (cs ++ more, d)
          | none, none =>
            if isBreak y then
              let (breaks, c) ← quotedBreaks fuel c.lineBreak.2
              let (more, d) ← quotedFrom double fuel c
              .ok (breaks ++ more, d)
            else .error .malformed
      else if x == ' ' || x == '\t' || isBreak x then
        let (spaces, c) := c.span fun y => y == ' ' || y == '\t'
        match c.lineBreak with
        | ([], _) =>
          let (more, d) ← quotedFrom double fuel c
          .ok (spaces ++ more, d)
        | (first, c) =>
          let (breaks, c) ← quotedBreaks fuel c
          let (more, d) ← quotedFrom double fuel c
          .ok (fold first breaks ++ more, d)
      else
        let (more, d) ← quotedFrom double fuel c.advance
        .ok (x :: more, d)

/-- A quoted scalar; the cursor stands on the opening quote. -/
def quoted (double : Bool) (c : Cursor) : Except Error (List Char × Cursor) :=
  quotedFrom double (c.rest.length + 1) c.advance

/-! ### Block scalars -/

inductive Chomping where
  | strip
  | clip
  | keep
deriving DecidableEq

def chomping? : Option Char → Option Chomping
  | some '+' => some .keep
  | some '-' => some .strip
  | _ => none

/-- A digit from 1 to 9. -/
def increment? (c : Cursor) : Except Error (Option Nat × Cursor) := do
  c.need 1
  match c.peek with
  | some x =>
    if '1' <= x && x <= '9' then .ok (some (x.toNat - 48), c.advance)
    else if x == '0' then .error .malformed
    else .ok (none, c)
  | none => .ok (none, c)

/-- How line ends at the end are treated, and the extra indentation, in either order. -/
def blockIndicators (c : Cursor) : Except Error (Chomping × Option Nat × Cursor) := do
  c.need 1
  let (chomping, increment, c) ← match chomping? c.peek with
    | some k => do
      let (n, c) ← increment? c.advance
      pure (k, n, c)
    | none => do
      let (n, c) ← increment? c
      match n, chomping? c.peek with
      | some _, some k => pure (k, n, c.advance)
      | _, _ => pure (.clip, n, c)
  c.need 1
  if endsWord c.peek then .ok (chomping, increment, c) else .error .malformed

/-- Line ends before the first line of a block scalar, and the widest indentation met. -/
def blockIndentation : (fuel : Nat) → (widest : Nat) → Cursor → List Char × Nat × Cursor
  | 0, widest, c => ([], widest, c)
  | fuel + 1, widest, c =>
    if c.peek == some ' ' then
      let c := c.advance
      blockIndentation fuel (max widest c.column) c
    else match c.lineBreak with
      | ([], _) => ([], widest, c)
      | (x, c) =>
        let (more, widest, c) := blockIndentation fuel widest c
        (x ++ more, widest, c)

/-- Indentation and empty lines between the lines of a block scalar. -/
def blockBreaks (indent : Nat) : (fuel : Nat) → Cursor → List Char × Cursor
  | 0, c => ([], c)
  | fuel + 1, c =>
    let c := c.skipSpacesUpTo (indent - c.column)
    match c.lineBreak with
    | ([], _) => ([], c)
    | (x, c) =>
      let (more, c) := blockBreaks indent fuel c
      (x ++ more, c)

def isIndented (c : Cursor) : Bool :=
  c.peek == some ' ' || c.peek == some '\t'

/-- The lines of a block scalar from here on, `breaks` being the empty lines before them. -/
def blockLines (folded : Bool) (chomping : Chomping) (indent : Nat) :
    (fuel : Nat) → (breaks last : List Char) → Cursor → List Char × Cursor
  | 0, _, _, c => ([], c)
  | fuel + 1, breaks, last, c =>
    if c.column == indent && c.peek.isSome then
      let (text, d) := c.span (!isBreak ·)
      let (ending, d) := d.lineBreak
      let (more, d) := blockBreaks indent (d.rest.length + 1) d
      let joint :=
        if d.column == indent && d.peek.isSome then
          if folded && ending == ['\n'] && !c.isIndented && !d.isIndented then
            if more.isEmpty then [' '] else []
          else ending
        else []
      let (tail, e) := blockLines folded chomping indent fuel more ending d
      (breaks ++ text ++ joint ++ tail, e)
    else
      ((if chomping == .strip then [] else last) ++ (if chomping == .keep then breaks else []), c)

/-- A block scalar; the cursor stands on its indicator, inside a block indented by `indent`. -/
def block (folded : Bool) (indent : Int) (c : Cursor) : Except Error (List Char × Cursor) := do
  let (chomping, increment, c) ← c.advance.blockIndicators
  let c ← c.restOfLine
  let least := (max (indent + 1) 1).toNat
  let fuel := c.rest.length + 1
  match increment with
  | none =>
    let (breaks, widest, c) := blockIndentation fuel 0 c
    .ok (blockLines folded chomping (max least widest) fuel breaks [] c)
  | some n =>
    let width := least + n - 1
    let (breaks, c) := blockBreaks width fuel c
    .ok (blockLines folded chomping width fuel breaks [] c)

end Cursor

end ClusterMdns.Document.Yaml
