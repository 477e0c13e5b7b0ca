import ClusterMdns.Document.Yaml.Core
import ClusterMdns.Document.Yaml.Token

/-!
Nodes of a YAML document, read from its tokens. A node refers to its parts by their numbers, so an alias
is the number of the node that bears its anchor, and a collection may be part of itself.
-/

namespace ClusterMdns.Document.Yaml

inductive Node where
  | scalar (tag : Tag) (text : String)
  | sequence (tag : Tag) (items : List Nat)
  | mapping (tag : Tag) (entries : List (Nat × Nat))

namespace Node

def tag : Node → Tag
  | scalar t _ => t
  | sequence t _ => t
  | mapping t _ => t

def withTag (t : Tag) : Node → Node
  | scalar _ text => scalar t text
  | sequence _ items => sequence t items
  | mapping _ entries => mapping t entries

end Node

/-- What is left of the tokens, the nodes so far, those that bear anchors, and the expansions of tag
handles. -/
structure Reader where
  tokens : List Token
  nodes : Array Node
  anchors : List (String × Nat)
  handles : List (String × String)

namespace Reader

def peek (r : Reader) : Option Token := r.tokens.head?

def drop (r : Reader) : Reader := { r with tokens := r.tokens.tail }

/-- Why the next token cannot be taken. -/
def stuck (r : Reader) : Error :=
  match r.peek with
  | some (.broken e) => e
  | _ => .malformed

def isBroken (r : Reader) : Bool :=
  match r.peek with
  | some (.broken _) => true
  | _ => false

def next? (t : Token) (r : Reader) : Option Reader :=
  if r.peek == some t then some r.drop else none

def expect (t : Token) (r : Reader) : Except Error Reader :=
  match r.next? t with
  | some r => .ok r
  | none => .error r.stuck

/-- Whether one of the tokens comes next. -/
def sees (ts : List Token) (r : Reader) : Bool :=
  r.peek.any ts.contains

/-! ### Anchors and tags -/

def anchor? (r : Reader) : Option String × Reader :=
  match r.peek with
  | some (.anchor name) => (some name, r.drop)
  | _ => (none, r)

/-- A tag as it is written: its handle, if it has one, and the rest. -/
def tag? (r : Reader) : Option (Option String × String) × Reader :=
  match r.peek with
  | some (.tag handle rest) => (some (handle, rest), r.drop)
  | _ => (none, r)

/-- The full name of a tag. -/
def fullName (r : Reader) (handle : Option String) (rest : String) : Except Error String :=
  match handle with
  | none => .ok rest
  | some handle =>
    match r.handles.lookup handle with
    | some expansion => .ok (expansion ++ rest)
    | none => .error .malformed

/-- Anchor and tag, in either order. -/
def properties (r : Reader) : Except Error (Option String × Option String × Reader) := do
  let (first, r) := r.anchor?
  let (tag, r) := r.tag?
  match tag with
  | none => .ok (first, none, r)
  | some (handle, rest) =>
    if first.isNone && r.isBroken then .error r.stuck
    else
      let (name, r) := if first.isSome then (first, r) else r.anchor?
      .ok (name, some (← r.fullName handle rest), r)

/-! ### Adding nodes -/

/-- Adds a node and its anchor, which must be new. -/
def add (name : Option String) (node : Node) (r : Reader) : Except Error (Nat × Reader) :=
  let id := r.nodes.size
  let r := { r with nodes := r.nodes.push node }
  match name with
  | none => .ok (id, r)
  | some name =>
    if (r.anchors.lookup name).isSome then .error .malformed
    else .ok (id, { r with anchors := (name, id) :: r.anchors })

/-- How many collections may be inside each other. -/
def depthLimit : Nat := 487

/-- Adds a collection inside `depth` others, before its parts are read. -/
def addOpen (depth : Nat) (name : Option String) (node : Node) (r : Reader) : Except Error (Nat × Reader) :=
  if depthLimit <= depth then .error (.fault .tooDeep) else r.add name node

/-- Gives the parts to a collection. -/
def complete (id : Nat) (node : Node) (r : Reader) : Nat × Reader :=
  (id, { r with nodes := r.nodes.setIfInBounds id node })

/-- The type of a node: the one it names, else the given one. -/
def typed (tag : Option String) (default : Tag) : Tag :=
  match tag with
  | none => default
  | some "!" => default
  | some name => .ofName name

def emptyScalar (tag : Option String) : Node :=
  .scalar (typed tag .null) ""

def scalarNode (tag : Option String) (plain : Bool) (text : String) : Node :=
  let byText := plain || tag == some "!"
  .scalar (typed tag (if byText then .ofPlain text else .str)) text

/-- An item that is left out. -/
def missing (r : Reader) : Except Error (Nat × Reader) :=
  r.add none (emptyScalar none)

/-- A node of an anchor or a tag only. -/
def bare (name tag : Option String) (r : Reader) : Except Error (Nat × Reader) :=
  if r.isBroken || (name.isNone && tag.isNone) then .error r.stuck else r.add name (emptyScalar tag)

/-! ### Reading nodes -/

/-- What is read here, unless an item is left out before one of the tokens. -/
def optional (ends : List Token) (read : Reader → Except Error (Nat × Reader)) (r : Reader) :
    Except Error (Nat × Reader) :=
  if r.sees ends then r.missing else read r

/-- The value of an entry, which may be left out with its colon. -/
def entryValue (ends : List Token) (read : Reader → Except Error (Nat × Reader)) (r : Reader) :
    Except Error (Nat × Reader) :=
  match r.next? .value with
  | some r => r.optional ends read
  | none => r.missing

/-- The comma before all items of a flow collection but the first. -/
def separator (first : Bool) (r : Reader) : Except Error Reader :=
  if first then .ok r else r.expect .flowEntry

mutual

/-- Reads a node inside `depth` collections. Block collections are read where `block` allows them, and a
sequence without extra indentation where `indentless` does. -/
def node (block indentless : Bool) (depth : Nat) : (fuel : Nat) → Reader → Except Error (Nat × Reader)
  | 0, _ => .error .malformed
  | fuel + 1, r =>
    match r.peek with
    | some (.alias name) =>
      match r.anchors.lookup name with
      | some id => .ok (id, r.drop)
      | none => .error .malformed
    | _ => do
      let (name, tag, r) ← r.properties
      let sequence := Node.sequence (typed tag .seq)
      let mapping := Node.mapping (typed tag .map)
      match r.peek with
      | some (.scalar plain text) => r.drop.add name (scalarNode tag plain text)
      | some .flowSequenceStart =>
        let (id, r) ← r.drop.addOpen depth name (sequence [])
        let (items, r) ← flowItems (depth + 1) true fuel r
        .ok (r.complete id (sequence items))
      | some .flowMappingStart =>
        let (id, r) ← r.drop.addOpen depth name (mapping [])
        let (entries, r) ← flowEntries (depth + 1) true fuel r
        .ok (r.complete id (mapping entries))
      | some .blockEntry =>
        if indentless then
          let (id, r) ← r.addOpen depth name (sequence [])
          let (items, r) ← indentlessItems (depth + 1) fuel r
          .ok (r.complete id (sequence items))
        else r.bare name tag
      | some .blockSequenceStart =>
        if block then
          let (id, r) ← r.drop.addOpen depth name (sequence [])
          let (items, r) ← blockItems (depth + 1) fuel r
          .ok (r.complete id (sequence items))
        else r.bare name tag
      | some .blockMappingStart =>
        if block then
          let (id, r) ← r.drop.addOpen depth name (mapping [])
          let (entries, r) ← blockEntries (depth + 1) fuel r
          .ok (r.complete id (mapping entries))
        else r.bare name tag
      | _ => r.bare name tag
termination_by structural fuel => fuel

def blockItems (depth : Nat) : (fuel : Nat) → Reader → Except Error (List Nat × Reader)
  | 0, _ => .error .malformed
  | fuel + 1, r =>
    match r.next? .blockEntry with
    | some r => do
      let (item, r) ← r.optional [.blockEntry, .blockEnd] (node true false depth fuel)
      let (items, r) ← blockItems depth fuel r
      .ok (item :: items, r)
    | none => do .ok ([], ← r.expect .blockEnd)
termination_by structural fuel => fuel

def indentlessItems (depth : Nat) : (fuel : Nat) → Reader → Except Error (List Nat × Reader)
  | 0, _ => .error .malformed
  | fuel + 1, r =>
    match r.next? .blockEntry with
    | some r => do
      let (item, r) ← r.optional [.blockEntry, .key, .value, .blockEnd] (node true false depth fuel)
      let (items, r) ← indentlessItems depth fuel r
      .ok (item :: items, r)
    | none => .ok ([], r)
termination_by structural fuel => fuel

def blockEntries (depth : Nat) : (fuel : Nat) → Reader → Except Error (List (Nat × Nat) × Reader)
  | 0, _ => .error .malformed
  | fuel + 1, r =>
    match r.next? .key with
    | some r => do
      let ends := [Token.key, Token.value, Token.blockEnd]
      let (k, r) ← r.optional ends (node true true depth fuel)
      let (v, r) ← r.entryValue ends (node true true depth fuel)
      let (entries, r) ← blockEntries depth fuel r
      .ok ((k, v) :: entries, r)
    | none => do .ok ([], ← r.expect .blockEnd)
termination_by structural fuel => fuel

/-- Items of a flow sequence; all but the first have a comma before them. An item may be a mapping of a
single entry. -/
def flowItems (depth : Nat) (first : Bool) : (fuel : Nat) → Reader → Except Error (List Nat × Reader)
  | 0, _ => .error .malformed
  | fuel + 1, r =>
    match r.next? .flowSequenceEnd with
    | some r => .ok ([], r)
    | none => do
      let r ← r.separator first
      match r.next? .flowSequenceEnd, r.next? .key with
      | some r, _ => .ok ([], r)
      | none, some r => do
        let (id, r) ← r.addOpen depth none (.mapping .map [])
        let (k, r) ← r.optional [.value, .flowEntry, .flowSequenceEnd] (node false false (depth + 1) fuel)
        let (v, r) ← r.entryValue [.flowEntry, .flowSequenceEnd] (node false false (depth + 1) fuel)
        let (id, r) := r.complete id (.mapping .map [(k, v)])
        let (items, r) ← flowItems depth false fuel r
        .ok (id :: items, r)
      | none, none => do
        let (item, r) ← node false false depth fuel r
        let (items, r) ← flowItems depth false fuel r
        .ok (item :: items, r)
termination_by structural fuel => fuel

def flowEntries (depth : Nat) (first : Bool) :
    (fuel : Nat) → Reader → Except Error (List (Nat × Nat) × Reader)
  | 0, _ => .error .malformed
  | fuel + 1, r =>
    match r.next? .flowMappingEnd with
    | some r => .ok ([], r)
    | none => do
      let r ← r.separator first
      match r.next? .flowMappingEnd, r.next? .key with
      | some r, _ => .ok ([], r)
      | none, some r => do
        let (k, r) ← r.optional [.value, .flowEntry, .flowMappingEnd] (node false false depth fuel)
        let (v, r) ← r.entryValue [.flowEntry, .flowMappingEnd] (node false false depth fuel)
        let (entries, r) ← flowEntries depth false fuel r
        .ok ((k, v) :: entries, r)
      | none, none => do
        let (k, r) ← node false false depth fuel r
        let (v, r) ← r.missing
        let (entries, r) ← flowEntries depth false fuel r
        .ok ((k, v) :: entries, r)
termination_by structural fuel => fuel

end

/-! ### Documents -/

/-- Takes the directives before a document. There is at most one version, which must be a version 1, and
at most one expansion of a handle. -/
def directives : List Token → (version : Bool) → (handles : List (String × String)) →
    Except Error (List Token × List (String × String))
  | .directive (.version major) :: ts, version, handles =>
    if version || major != 1 then .error .malformed else directives ts true handles
  | .directive (.tag handle expansion) :: ts, version, handles =>
    if (handles.lookup handle).isSome then .error .malformed
    else directives ts version ((handle, expansion) :: handles)
  | .directive .other :: ts, version, handles => directives ts version handles
  | ts, _, handles => .ok (ts, handles)

def usualHandles : List (String × String) := [("!", "!"), ("!!", Tag.space)]

def nodeAt (r : Reader) : Except Error (Nat × Reader) :=
  node true false 0 (2 * r.tokens.length + 2) r

/-- Takes the directives and the mark at the start of a document. -/
def opening (ts : List Token) : Except Error Reader := do
  let (ts, handles) ← directives ts false []
  Reader.expect .documentStart ⟨ts, #[], [], handles ++ usualHandles⟩

/-- Nothing but ends of documents follows the only one. -/
def ending (r : Reader) : Except Error Unit :=
  match r.tokens.dropWhile (· == .documentEnd) with
  | [] => .ok ()
  | ts => do
    let _ ← opening ts
    .error .malformed

/-- Whether the start of a document is marked. -/
def isExplicit : List Token → Bool
  | .directive _ :: _ => true
  | .documentStart :: _ => true
  | _ => false

/-- The outermost node. It may be left out after a mark. -/
def root (explicit : Bool) (r : Reader) : Except Error (Nat × Reader) :=
  let isEmpty := match r.peek with
    | none => true
    | some (.directive _) => true
    | some t => t == .documentStart || t == .documentEnd
  if explicit && isEmpty then r.missing else r.nodeAt

def beginning (ts : List Token) : Except Error Reader :=
  if isExplicit ts then opening ts else .ok ⟨ts, #[], [], usualHandles⟩

/-- The nodes of the only document of a stream, and the number of the outermost one; there may be none. -/
def document (ts : List Token) : Except Error (Option (Nat × Array Node)) :=
  if ts.isEmpty then .ok none
  else do
    let r ← beginning ts
    let (id, r) ← r.root (isExplicit ts)
    r.ending
    .ok (some (id, r.nodes))

end Reader

end ClusterMdns.Document.Yaml
