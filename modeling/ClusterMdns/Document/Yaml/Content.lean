import ClusterMdns.Document.Yaml.Node

/-!
What the nodes of a YAML document stand for. Scalars have their contents at once; collections get theirs
in the order in which they are met, each once. The merge key `<<` puts entries of other mappings before
the mapping's own.
-/

namespace ClusterMdns.Document.Yaml

/-- What a node stands for, its parts given by their numbers. -/
inductive Content where
  | scalar (s : Scalar)
  | list (items : List Nat)
  | dict (entries : List (Scalar × Nat))
  /-- An ordered mapping, in which a key may come twice. -/
  | pairs (items : List (Nat × Nat))
  | set (members : List Scalar)

/-- The nodes of a document, the contents found so far, and the collections that wait for theirs, the last
one first. -/
structure Graph where
  nodes : Array Node
  contents : Array (Option Content)
  waiting : List Nat

namespace Graph

def ofNodes (nodes : Array Node) : Graph :=
  ⟨nodes, nodes.map fun _ => none, []⟩

def content? (id : Nat) (g : Graph) : Option Content :=
  (g.contents[id]?).join

def setContent (id : Nat) (c : Content) (g : Graph) : Graph :=
  { g with contents := g.contents.setIfInBounds id (some c) }

/-- The entries of a mapping. -/
def entriesAt? (id : Nat) (g : Graph) : Option (List (Nat × Nat)) :=
  match g.nodes[id]? with
  | some (.mapping _ entries) => some entries
  | _ => none

def setEntries (id : Nat) (entries : List (Nat × Nat)) (g : Graph) : Graph :=
  { g with nodes := g.nodes.modify id fun n => .mapping n.tag entries }

def hasTag (t : Tag) (id : Nat) (g : Graph) : Bool :=
  (g.nodes[id]?).any (·.tag == t)

/-! ### Merging -/

/-- A key `=` in a mapping is a text like any other. -/
def settleKeys (entries : List (Nat × Nat)) (g : Graph) : Graph :=
  entries.foldl (fun g (k, _) =>
    if g.hasTag .equals k then { g with nodes := g.nodes.modify k (Node.withTag .str) } else g) g

/-- Replaces merge keys by the entries they stand for. `merged` holds those of the keys before. Every step
takes one merge key away, so that the number of entries bounds the steps. -/
def flatten (id : Nat) : (fuel : Nat) → (merged : List (Nat × Nat)) → Graph → Except Error Graph
  | 0, _, g => .ok g
  | fuel + 1, merged, g =>
    let entries := (g.entriesAt? id).getD []
    let isMerge (e : Nat × Nat) : Bool := g.hasTag .merge e.1
    match entries.find? isMerge with
    | none => .ok ((g.settleKeys entries).setEntries id (merged ++ entries))
    | some e => do
      let g := g.setEntries id (entries.eraseP isMerge)
      let (more, g) ← match g.nodes[e.2]? with
        | some (.mapping _ _) => do
          let g ← flatten e.2 fuel [] g
          pure ((g.entriesAt? e.2).getD [], g)
        | some (.sequence _ items) =>
          items.foldlM (fun (later, g) i => do
            if (g.entriesAt? i).isNone then .error .malformed
            else
              let g ← flatten i fuel [] g
              pure ((g.entriesAt? i).getD [] ++ later, g)) ([], g)
        | _ => .error .malformed
      flatten id fuel (merged ++ more) g
termination_by structural fuel => fuel

def entryCount (g : Graph) : Nat :=
  g.nodes.foldl (fun n node => match node with
    | .mapping _ entries => n + entries.length
    | _ => n) 0

/-- The entries of a mapping with those that it merges. -/
def flatEntries (id : Nat) (g : Graph) : Except Error (List (Nat × Nat) × Graph) :=
  if (g.entriesAt? id).isNone then .error .malformed
  else do
    let g ← flatten id (g.entryCount + 1) [] g
    .ok ((g.entriesAt? id).getD [], g)

/-! ### Scalars -/

/-- The text of a scalar; a mapping has that of its value under the key `=`. -/
def textAt (g : Graph) : (fuel : Nat) → (id : Nat) → Except Error String
  | 0, _ => .error (.fault .tooDeep)
  | fuel + 1, id =>
    match g.nodes[id]? with
    | some (.scalar _ text) => .ok text
    | some (.mapping _ entries) =>
      match entries.find? fun (k, _) => g.hasTag .equals k with
      | some (_, v) => textAt g fuel v
      | none => .error .malformed
    | _ => .error .malformed

/-- The value of a node whose type is no collection. A point in time is read from the text of the node
itself. -/
def scalarAt (id : Nat) (tag : Tag) (g : Graph) : Except Error Scalar := do
  let text ← g.textAt (g.nodes.size + 1) id
  if tag == .timestamp && (g.entriesAt? id).isSome then .error (.fault .wrongKind)
  else tag.value text

/-! ### Collections -/

/-- Meets a node: a scalar gets its content, a collection waits for its own. -/
def meet (id : Nat) (g : Graph) : Except Error Graph :=
  if (g.content? id).isSome then .ok g
  else
    let later : Graph := { g.setContent id (.list []) with waiting := id :: g.waiting }
    match (g.nodes[id]?).map Node.tag with
    | some .seq => .ok later
    | some .map => .ok later
    | some .omap => .ok later
    | some .pairs => .ok later
    | some .set => .ok later
    | some .merge => .error .malformed
    | some .equals => .error .malformed
    | some .unknown => .error .malformed
    | some tag => do .ok (g.setContent id (.scalar (← g.scalarAt id tag)))
    | none => .error .malformed

/-- Meets a key, which has to be a scalar. -/
def meetKey (id : Nat) (g : Graph) : Except Error (Scalar × Graph) := do
  let g ← g.meet id
  match g.content? id with
  | some (.scalar s) => .ok (s, g)
  | _ => .error .malformed

/-- Meets keys and values in turn. -/
def meetEntries : List (Nat × Nat) → Graph → Except Error (List (Scalar × Nat) × Graph)
  | [], g => .ok ([], g)
  | (k, v) :: rest, g => do
    let (key, g) ← g.meetKey k
    let g ← g.meet v
    let (entries, g) ← meetEntries rest g
    .ok ((key, v) :: entries, g)

/-- Meets the items of an ordered mapping, each a mapping of one entry. -/
def meetPairs : List Nat → Graph → Except Error (List (Nat × Nat) × Graph)
  | [], g => .ok ([], g)
  | id :: rest, g =>
    match g.entriesAt? id with
    | some [(k, v)] => do
      let g ← g.meet k
      let g ← g.meet v
      let (items, g) ← meetPairs rest g
      .ok ((k, v) :: items, g)
    | _ => .error .malformed

/-- The items of a sequence. -/
def itemsAt (id : Nat) (g : Graph) : Except Error (List Nat) :=
  match g.nodes[id]? with
  | some (.sequence _ items) => .ok items
  | _ => .error .malformed

/-- Gives a collection its content. -/
def resolve (g : Graph) (id : Nat) : Except Error Graph := do
  let (content, g) ← match (g.nodes[id]?).map Node.tag with
    | some .seq => do
      let items ← g.itemsAt id
      let g ← items.foldlM (fun g i => g.meet i) g
      pure (Content.list items, g)
    | some .map => do
      let (entries, g) ← g.flatEntries id
      let (entries, g) ← meetEntries entries g
      pure (Content.dict (ofEntries entries), g)
    | some .set => do
      let (entries, g) ← g.flatEntries id
      let (entries, g) ← meetEntries entries g
      pure (Content.set ((ofEntries entries).map (·.1)), g)
    | _ => do
      let (items, g) ← meetPairs (← g.itemsAt id) g
      pure (Content.pairs items, g)
  .ok (g.setContent id content)

/-- Gives all collections that wait, and those that they make wait, their contents. -/
def resolveAll : (fuel : Nat) → Graph → Except Error Graph
  | 0, g => .ok g
  | fuel + 1, g =>
    if g.waiting.isEmpty then .ok g
    else do
      let g ← g.waiting.reverse.foldlM resolve { g with waiting := [] }
      resolveAll fuel g

/-- The contents of the nodes that the node `root` consists of. -/
def contentsFrom (root : Nat) (nodes : Array Node) : Except Error (Array (Option Content)) := do
  let g ← (ofNodes nodes).meet root
  .ok (← g.resolveAll (nodes.size + 1)).contents

end Graph

/-! ### Values -/

/-- The values found so far, of nodes in which nothing is part of itself. -/
abbrev Known := Array (Option Value)

/-- The value of a node inside the collections `around`, and whether something in it refers to a
collection that is around it. -/
def valueOf (contents : Array (Option Content)) :
    (fuel : Nat) → (around : List Nat) → (id : Nat) → StateM Known (Value × Bool)
  | 0, _, _ => pure (.null, false)
  | fuel + 1, around, id => do
    if around.contains id then return (.back id, true)
    if let some v := ((← get)[id]?).join then return (v, false)
    let part := valueOf contents fuel (id :: around)
    let (v, refers) ← match (contents[id]?).join with
      | some (.list items) => do
        let parts ← items.mapM part
        pure (Value.list (parts.map (·.1)), parts.any (·.2))
      | some (.dict entries) => do
        let parts ← entries.mapM fun (k, i) => do pure (k, ← part i)
        pure (.dict (parts.map fun (k, v, _) => (k, v)), parts.any (·.2.2))
      | some (.pairs items) => do
        let parts ← items.mapM fun (k, i) => do pure (← part k, ← part i)
        pure (.list (parts.map fun ((k, _), (v, _)) => .pair k v),
          parts.any fun ((_, x), (_, y)) => x || y)
      | some (.set members) => pure (.set members, false)
      | some (.scalar s) => pure (.scalar s, false)
      | none => pure (.null, false)
    if refers then return (.tied id v, true)
    modify fun known => known.setIfInBounds id (some v)
    return (v, false)
termination_by structural fuel => fuel

/-- Reads the document of a text, null if there is none. -/
def read (s : Source) : Except Error Value := do
  match ← Reader.document (tokens s) with
  | none => .ok .null
  | some (root, nodes) => do
    let contents ← Graph.contentsFrom root nodes
    let ((v, _), _) := (valueOf contents (nodes.size + 1) [] root).run (nodes.map fun _ => none)
    .ok v

end ClusterMdns.Document.Yaml
