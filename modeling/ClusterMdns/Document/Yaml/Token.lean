import ClusterMdns.Document.Yaml.Text
import ClusterMdns.Text.Utf8

/-!
The tokens of a YAML text. Indentation is turned into block starts and ends. A key is recognised only at
the colon after it, so its mark is put before tokens that were read already; such a key lies on one line
and has at most 1024 characters. A text that breaks the rules has tokens too, up to where it does.
-/

namespace ClusterMdns.Document.Yaml

inductive Directive where
  | version (major : Nat)
  | tag (handle expansion : String)
  | other
deriving DecidableEq, Repr

inductive Token where
  | directive (d : Directive)
  | documentStart
  | documentEnd
  | blockSequenceStart
  | blockMappingStart
  | blockEnd
  | flowSequenceStart
  | flowSequenceEnd
  | flowMappingStart
  | flowMappingEnd
  | blockEntry
  | flowEntry
  | key
  | value
  | alias (name : String)
  | anchor (name : String)
  | tag (handle : Option String) (rest : String)
  | scalar (plain : Bool) (text : String)
  /-- Nothing more can be read. -/
  | broken (e : Error)
deriving DecidableEq, Repr

namespace Cursor

def isNameChar (c : Char) : Bool :=
  ('0' <= c && c <= '9') || ('A' <= c && c <= 'Z') || ('a' <= c && c <= 'z') || c == '-' || c == '_'

/-- The name of an anchor or alias after its indicator. -/
def anchorName (c : Cursor) : Except Error (String × Cursor) := do
  let (name, c) := c.advance.span isNameChar
  c.need 1
  let ended := endsToken c.peek ||
    c.peek.any ['?', ':', ',', ']', '\x7d', '%', '@', Char.ofNat 96].contains
  if name.isEmpty || !ended then .error .malformed else .ok (String.ofList name, c)

/-- The handle of a tag: an exclamation mark, or a name between two. -/
def tagHandle (c : Cursor) : Except Error (String × Cursor) := do
  c.need 1
  if c.peek != some '!' then .error .malformed
  else
    let name := c.advance.rest.takeWhile isNameChar
    c.need (name.length + 2)
    if c.peekAt 1 == some ' ' then .ok ("!", c.advance)
    else if c.peekAt (name.length + 1) == some '!' then
      .ok (String.ofList ('!' :: name ++ ['!']), c.advanceBy (name.length + 2))
    else .error .malformed

def isUriChar (c : Char) : Bool :=
  isNameChar c || ";/?:@&=+$,_.!~*'()[]".toList.contains c

/-- Bytes written as a percent sign and two hexadecimal digits each. -/
def escapedBytes : (fuel : Nat) → Cursor → Except Error (List UInt8 × Cursor)
  | 0, c => .ok ([], c)
  | fuel + 1, c => do
    c.need 1
    if c.peek == some '%' then
      let n ← c.advance.code 2
      let (more, d) ← escapedBytes fuel (c.advanceBy 3)
      .ok (n.toUInt8 :: more, d)
    else .ok ([], c)

/-- The identifier in a tag; escapes that follow one another are a text in UTF-8. -/
def tagUri : (fuel : Nat) → Cursor → Except Error (List Char × Cursor)
  | 0, c => .ok ([], c)
  | fuel + 1, c => do
    c.need 1
    match c.peek with
    | some x =>
      if x == '%' then
        let (bytes, d) ← escapedBytes fuel c
        match Text.Utf8.decode? bytes with
        | some cs =>
          let (more, d) ← tagUri fuel d
          .ok (cs ++ more, d)
        | none => .error .malformed
      else if isUriChar x then
        let (more, d) ← tagUri fuel c.advance
        .ok (x :: more, d)
      else .ok ([], c)
    | none => .ok ([], c)

def uri (c : Cursor) : Except Error (String × Cursor) := do
  let (cs, d) ← tagUri (c.rest.length + 1) c
  if cs.isEmpty then .error .malformed else .ok (String.ofList cs, d)

/-- A tag as its handle, if it has one, and the rest; the cursor stands on its exclamation mark. -/
def tag (c : Cursor) : Except Error (Token × Cursor) := do
  c.need 2
  let (token, d) ←
    if c.peekAt 1 == some '<' then do
      let (name, d) ← uri (c.advanceBy 2)
      if d.peek == some '>' then pure (Token.tag none name, d.advance) else .error .malformed
    else if endsToken (c.peekAt 1) then pure (Token.tag none "!", c.advance)
    else do
      let front := c.advance.rest.takeWhile fun x => !endsWord (some x) && x != '!'
      c.need (front.length + 2)
      let named := c.peekAt (front.length + 1) == some '!'
      let (handle, d) ← if named then tagHandle c else pure ("!", c.advance)
      let (name, d) ← uri d
      pure (Token.tag (some handle) name, d)
  d.need 1
  if endsWord d.peek then .ok (token, d) else .error .malformed

/-- A run of decimal digits. -/
def number (c : Cursor) : Except Error (Nat × Cursor) := do
  let (digits, c) := c.span fun x => '0' <= x && x <= '9'
  c.need 1
  if digits.isEmpty then .error .malformed
  else if digits.length > Number.digitLimit then .error (.fault .badValue)
  else .ok (Number.ofDigits 10 (digits.map fun x => x.toNat - 48), c)

def versionDirective (c : Cursor) : Except Error (Directive × Cursor) := do
  let (major, c) ← c.skipSpaces.number
  if c.peek != some '.' then .error .malformed
  else
    let (_, c) ← c.advance.number
    if endsWord c.peek then .ok (.version major, c) else .error .malformed

def tagDirective (c : Cursor) : Except Error (Directive × Cursor) := do
  let (handle, c) ← c.skipSpaces.tagHandle
  c.need 1
  if c.peek != some ' ' then .error .malformed
  else
    let (expansion, c) ← c.skipSpaces.uri
    if endsWord c.peek then .ok (.tag handle expansion, c) else .error .malformed

/-- A directive with the rest of its line; unknown ones are passed over. -/
def directive (c : Cursor) : Except Error (Directive × Cursor) := do
  let (name, c) := c.advance.span isNameChar
  c.need 1
  if name.isEmpty || !endsWord c.peek then .error .malformed
  else
    let (d, c) ← match String.ofList name with
      | "YAML" => c.versionDirective
      | "TAG" => c.tagDirective
      | _ => pure (Directive.other, c.skipLine)
    .ok (d, ← c.restOfLine)

end Cursor

/-- A place where a key may have begun: the number of the token there, and the place itself. A required
one begins a line of a block mapping, so that it must turn out to be a key. -/
structure Candidate where
  token : Nat
  required : Bool
  index : Nat
  line : Nat
  column : Nat

/-- The state of reading tokens. `tokens` holds those read, last first; `candidates` the possible keys,
each with its depth of flow collections. -/
structure Lexer where
  cursor : Cursor
  depth : Nat
  indent : Int
  indents : List Int
  keyAllowed : Bool
  candidates : List (Nat × Candidate)
  tokens : List Token
  finished : Bool

namespace Lexer

def start (s : Source) : Lexer :=
  let c := Cursor.start s
  let c := if c.peek == some byteOrderMark then c.advance else c
  ⟨c, 0, -1, [], true, [], [], false⟩

def inFlow (l : Lexer) : Bool := l.depth != 0

def emit (t : Token) (l : Lexer) : Lexer :=
  { l with tokens := t :: l.tokens }

/-- Puts tokens, last first, before the token with number `n`. -/
def emitBefore (n : Nat) (ts : List Token) (l : Lexer) : Lexer :=
  let later := l.tokens.length - n
  { l with tokens := l.tokens.take later ++ ts ++ l.tokens.drop later }

def allowKey (b : Bool) (l : Lexer) : Lexer :=
  { l with keyAllowed := b }

/-- Moves to the place of a cursor in the same text. -/
def moveTo (c : Cursor) (l : Lexer) : Lexer :=
  { l with cursor := { c with cut := l.cursor.cut } }

/-- Passes spaces, comments and line ends; outside flow collections a key may follow a line end. -/
def toNextToken : (fuel : Nat) → Lexer → Lexer
  | 0, l => l
  | fuel + 1, l =>
    let c := l.cursor.skipSpaces
    let c := if c.peek == some '#' then c.skipLine else c
    match c.lineBreak with
    | ([], _) => l.moveTo c
    | (_, d) => toNextToken fuel (l.allowKey (l.keyAllowed || !l.inFlow) |>.moveTo d)

/-- Whether a key that began at a candidate may still end at the cursor. -/
def isFresh (l : Lexer) (k : Candidate) : Bool :=
  k.line == l.cursor.line && l.cursor.index - k.index <= 1024

/-- Drops the candidates that the cursor has left behind. -/
def dropStale (l : Lexer) : Except Error Lexer :=
  if l.candidates.any fun (_, k) => !l.isFresh k && k.required then .error .malformed
  else .ok { l with candidates := l.candidates.filter fun (_, k) => l.isFresh k }

def candidate? (l : Lexer) : Option Candidate :=
  (l.candidates.find? fun (depth, _) => depth == l.depth).map (·.2)

/-- Gives up the candidate of the present depth. -/
def dropCandidate (l : Lexer) : Except Error Lexer :=
  match l.candidate? with
  | none => .ok l
  | some k =>
    if k.required then .error .malformed
    else .ok { l with candidates := l.candidates.filter fun (depth, _) => depth != l.depth }

/-- A key may begin at the cursor. -/
def saveCandidate (l : Lexer) : Except Error Lexer :=
  if l.keyAllowed then do
    let c := l.cursor
    let l ← l.dropCandidate
    let required := !l.inFlow && l.indent == (c.column : Int)
    let k : Candidate := ⟨l.tokens.length, required, c.index, c.line, c.column⟩
    .ok { l with candidates := (l.depth, k) :: l.candidates }
  else .ok l

/-- Ends the blocks that are indented by more than `column`. -/
def closeBlocks (column : Int) (indent : Int) : List Int → List Token → Int × List Int × List Token
  | [], ts => (indent, [], ts)
  | outer :: indents, ts =>
    if indent > column then closeBlocks column outer indents (.blockEnd :: ts)
    else (indent, outer :: indents, ts)

def unindent (column : Int) (l : Lexer) : Lexer :=
  if l.inFlow then l
  else
    let (indent, indents, tokens) := closeBlocks column l.indent l.indents l.tokens
    { l with indent, indents, tokens }

/-- Whether a block begins at a column, and the state with that block open. -/
def indentTo (column : Nat) (l : Lexer) : Bool × Lexer :=
  if l.indent < (column : Int) then
    (true, { l with indent := column, indents := l.indent :: l.indents })
  else (false, l)

/-! ### The kinds of tokens -/

def finish (l : Lexer) : Except Error Lexer := do
  let l ← (l.unindent (-1)).dropCandidate
  .ok { l with finished := true }

def readDirective (l : Lexer) : Except Error Lexer := do
  let l ← (l.unindent (-1)).dropCandidate
  let (d, c) ← l.cursor.directive
  .ok (l.allowKey false |>.emit (.directive d) |>.moveTo c)

def readMarker (t : Token) (l : Lexer) : Except Error Lexer := do
  let l ← (l.unindent (-1)).dropCandidate
  .ok (l.allowKey false |>.emit t |>.moveTo (l.cursor.advanceBy 3))

def openFlow (t : Token) (l : Lexer) : Except Error Lexer := do
  let l ← l.saveCandidate
  .ok ({ l with depth := l.depth + 1 }.allowKey true |>.emit t |>.moveTo l.cursor.advance)

def closeFlow (t : Token) (l : Lexer) : Except Error Lexer := do
  let l ← l.dropCandidate
  .ok ({ l with depth := l.depth - 1 }.allowKey false |>.emit t |>.moveTo l.cursor.advance)

def readFlowEntry (l : Lexer) : Except Error Lexer := do
  let l ← l.dropCandidate
  .ok (l.allowKey true |>.emit .flowEntry |>.moveTo l.cursor.advance)

/-- Opens a block at a column where the cursor stands, if it is further in. -/
def openBlock (t : Token) (l : Lexer) : Except Error Lexer :=
  if l.inFlow then .ok l
  else if !l.keyAllowed then .error .malformed
  else match l.indentTo l.cursor.column with
    | (true, l) => .ok (l.emit t)
    | (false, l) => .ok l

def readBlockEntry (l : Lexer) : Except Error Lexer := do
  let l ← l.openBlock .blockSequenceStart
  let l ← (l.allowKey true).dropCandidate
  .ok (l.emit .blockEntry |>.moveTo l.cursor.advance)

def readKey (l : Lexer) : Except Error Lexer := do
  let l ← l.openBlock .blockMappingStart
  let l ← (l.allowKey (!l.inFlow)).dropCandidate
  .ok (l.emit .key |>.moveTo l.cursor.advance)

/-- Marks what began at a candidate as a key. -/
def markKey (k : Candidate) (l : Lexer) : Lexer :=
  let l := { l with candidates := l.candidates.filter fun (depth, _) => depth != l.depth }
  let (opens, l) := if l.inFlow then (false, l) else l.indentTo k.column
  let marks := if opens then [Token.key, Token.blockMappingStart] else [Token.key]
  l.emitBefore k.token marks |>.allowKey false

/-- Ends the key before a colon, which may be left out. -/
def endKey (l : Lexer) : Except Error Lexer :=
  match l.candidate? with
  | some k => .ok (l.markKey k)
  | none => do
    let l ← l.openBlock .blockMappingStart
    (l.allowKey (!l.inFlow)).dropCandidate

def readValue (l : Lexer) : Except Error Lexer := do
  let l ← l.endKey
  .ok (l.emit .value |>.moveTo l.cursor.advance)

/-- A token that may be a key or the start of one. -/
def readNode (read : Cursor → Except Error (Token × Cursor)) (l : Lexer) : Except Error Lexer := do
  let l ← l.saveCandidate
  let (t, c) ← read l.cursor
  .ok (l.allowKey false |>.emit t |>.moveTo c)

def readBlockScalar (folded : Bool) (l : Lexer) : Except Error Lexer := do
  let l ← (l.allowKey true).dropCandidate
  let (cs, c) ← l.cursor.block folded l.indent
  .ok (l.emit (.scalar false (String.ofList cs)) |>.moveTo c)

def readPlain (l : Lexer) : Except Error Lexer := do
  let l ← l.saveCandidate
  let (cs, c, passed) ← l.cursor.plain l.inFlow (l.indent + 1).toNat
  .ok (l.allowKey passed |>.emit (.scalar true (String.ofList cs)) |>.moveTo c)

def readQuoted (double : Bool) (c : Cursor) : Except Error (Token × Cursor) := do
  let (cs, c) ← c.quoted double
  .ok (.scalar false (String.ofList cs), c)

/-- Whether a plain scalar may begin with `x` when `next` follows. -/
def beginsPlain (flow : Bool) (x : Char) (next : Option Char) : Bool :=
  !(endsToken (some x) ||
    ['-', '?', ':', ',', '[', ']', '\x7b', '\x7d', '#', '&', '*', '!', '|', '>', '\'', '"', '%', '@',
      Char.ofNat 96].contains x) ||
    (!endsToken next && (x == '-' || (!flow && (x == '?' || x == ':'))))

/-- Looks at the characters that show which token begins with `x`. -/
def lookAhead (x : Char) (l : Lexer) : Except Error Unit := do
  if l.cursor.column == 0 && (x == '-' || x == '.') then
    let _ ← l.cursor.atSeparator
  if x == '-' || (!l.inFlow && (x == '?' || x == ':')) then l.cursor.need 2

/-- Reads the token that begins with `x` at the cursor. -/
def readFrom (x : Char) (l : Lexer) : Except Error Lexer :=
  let c := l.cursor
  let alone := endsToken (c.peekAt 1)
  if x == '%' && c.column == 0 then l.readDirective
  else if x == '-' && c.column == 0 && c.atMarker '-' then l.readMarker .documentStart
  else if x == '.' && c.column == 0 && c.atMarker '.' then l.readMarker .documentEnd
  else if x == '[' then l.openFlow .flowSequenceStart
  else if x == '\x7b' then l.openFlow .flowMappingStart
  else if x == ']' then l.closeFlow .flowSequenceEnd
  else if x == '\x7d' then l.closeFlow .flowMappingEnd
  else if x == ',' then l.readFlowEntry
  else if x == '-' && alone then l.readBlockEntry
  else if x == '?' && (l.inFlow || alone) then l.readKey
  else if x == ':' && (l.inFlow || alone) then l.readValue
  else if x == '*' then
    l.readNode fun c => c.anchorName.map fun (name, c) => (Token.alias name, c)
  else if x == '&' then
    l.readNode fun c => c.anchorName.map fun (name, c) => (Token.anchor name, c)
  else if x == '!' then l.readNode Cursor.tag
  else if x == '|' && !l.inFlow then l.readBlockScalar false
  else if x == '>' && !l.inFlow then l.readBlockScalar true
  else if x == '\'' then l.readNode (readQuoted false)
  else if x == '"' then l.readNode (readQuoted true)
  else if beginsPlain l.inFlow x (c.peekAt 1) then l.readPlain
  else do
    c.need 2
    .error .malformed

/-- Reads the token at the cursor. -/
def readToken (l : Lexer) : Except Error Lexer :=
  match l.cursor.peek with
  | none => l.finish
  | some x => do
    l.lookAhead x
    l.readFrom x

/-- Reads the next token, and looks at the character behind it. -/
def step (l : Lexer) : Except Error Lexer := do
  let l ← l.dropStale
  let l := l.toNextToken (l.cursor.rest.length + 1)
  l.cursor.need 1
  let l ← l.dropStale
  let l ← (l.unindent l.cursor.column).readToken
  l.cursor.need 1
  .ok l

/-- The tokens that are sure when no more can be read, and a last one that says why: what may be the start
of a key is not sure. -/
def broken (e : Error) (l : Lexer) : List Token :=
  let pending := (l.candidates.filter fun (_, k) => l.isFresh k).map fun (_, k) => k.token
  let sure := pending.foldl min l.tokens.length
  l.tokens.reverse.take sure ++ [.broken e]

/-- Every token but the end takes a character, so the length of the text bounds the number of steps. -/
def run : (fuel : Nat) → Lexer → List Token
  | 0, l => l.broken .malformed
  | fuel + 1, l =>
    match l.step with
    | .error e => l.broken e
    | .ok next => if next.finished then next.tokens.reverse else run fuel next

end Lexer

def tokens (s : Source) : List Token :=
  (Lexer.start s).run (s.chars.length + 1)

end ClusterMdns.Document.Yaml
