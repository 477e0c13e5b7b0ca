import ClusterMdns.Host
import ClusterMdns.Proofs.Outcome
import ClusterMdns.Proofs.Path

/-! Where paths lead. A walk from the root that finds something ends where the canonical path says, and the directories
on its way are there; from one of these a relative path leads where the whole path does. -/

namespace ClusterMdns

/-! ### Walks in one tree -/

namespace FileTree

/-- A name by which a walk goes down. -/
structure Downward (name : String) : Prop where
  kept : Path.isKept name = true
  down : name ≠ ".."
  short : bytesOf name ≤ nameLimit

/-- The place to which a name leads from a place; both are given with their last names first. -/
inductive Goes (isRoot : Bool) : List String → String → List String → Prop
  | stay {here : List String} {name : String} (nothing : Path.isKept name = false) : Goes isRoot here name here
  | top (root : isRoot = true) : Goes isRoot [] ".." []
  | up {last : String} {outer : List String} : Goes isRoot (last :: outer) ".." outer
  | down {here : List String} {name : String} (h : Downward name) : Goes isRoot here name (name :: here)

/-- A place with nothing but directories above it, given with its last name first. -/
inductive Reached (t : FileTree) : List String → Prop
  | top : Reached t []
  | within {name : String} {outer : List String} (above : Reached t outer)
      (directory : t.at? outer.reverse = some .directory) (h : Downward name) : Reached t (name :: outer)

variable {t : FileTree} {isRoot : Bool} {here names : List String} {name : String} {node : FileNode}

theorem Goes.of_not_kept {next : List String} (goes : Goes isRoot here name next)
    (nothing : ¬ Path.isKept name = true) : next = here := by
  cases goes with
  | stay => rfl
  | top | up => exact absurd rfl nothing
  | down h => exact absurd h.kept nothing

theorem walk_nil_eq_ok : t.walk isRoot here [] = .ok node ↔ t.at? here.reverse = some node := by
  rw [FileTree.walk]
  cases t.at? here.reverse <;> simp

/-- What one name does to a walk. -/
theorem walk_of_goes {next : List String} (directory : t.at? here.reverse = some .directory)
    (goes : Goes isRoot here name next) (names : List String) :
    t.walk isRoot here (name :: names) = t.walk isRoot next names := by
  have inside : (t.at? here.reverse == some .directory) = true := beq_iff_eq.mpr directory
  rw [walk.eq_def]
  dsimp only
  rw [if_pos inside]
  cases goes with
  | stay nothing => rw [if_pos (Path.isKept_eq_false.mp nothing)]
  | top root =>
    rw [root]
    rfl
  | up => rfl
  | down h =>
    obtain ⟨nonempty, moving⟩ := Path.isKept_iff.mp h.kept
    simp [nonempty, moving, h.down, Nat.not_lt.mpr h.short]

/-- A walk that finds something goes on at every name. -/
theorem walk_cons_eq_ok : t.walk isRoot here (name :: names) = .ok node ↔
    t.at? here.reverse = some .directory ∧
      ∃ next, Goes isRoot here name next ∧ t.walk isRoot next names = .ok node := by
  constructor
  · intro h
    rw [walk.eq_def] at h
    dsimp only at h
    split at h
    · rename_i inside
      refine ⟨eq_of_beq inside, ?_⟩
      split at h
      · rename_i nothing
        exact ⟨here, .stay (Path.isKept_eq_false.mpr nothing), h⟩
      · rename_i kept
        split at h
        · rename_i upward
          obtain rfl := eq_of_beq upward
          split at h
          · split at h
            · rename_i root
              exact ⟨[], .top root, h⟩
            · cases h
          · exact ⟨_, .up, h⟩
        · rename_i down
          split at h
          · cases h
          · rename_i short
            have kept : Path.isKept name = true := by
              rw [← Bool.not_eq_false, Path.isKept_eq_false]
              exact kept
            exact ⟨_, .down ⟨kept, mt beq_iff_eq.mpr down, Nat.not_lt.mp short⟩, h⟩
    · cases h
  · rintro ⟨directory, next, goes, h⟩
    rw [walk_of_goes directory goes, h]

/-- Pieces that are no names do not lead away from a directory. -/
theorem walk_skip {front : List String} (directory : t.at? here.reverse = some .directory)
    (nothing : ∀ piece ∈ front, Path.isKept piece = false) (names : List String) :
    t.walk isRoot here (front ++ names) = t.walk isRoot here names := by
  induction front with
  | nil => rfl
  | cons piece front ih =>
    obtain ⟨first, rest⟩ := List.forall_mem_cons.mp nothing
    rw [List.cons_append, walk_of_goes directory (.stay first), ih rest]

/-- What is found by the pieces of a text is found by the names among them. -/
theorem walk_filter {pieces : List String} (h : t.walk isRoot here pieces = .ok node) :
    t.walk isRoot here (pieces.filter Path.isKept) = .ok node := by
  induction pieces generalizing here with
  | nil => exact h
  | cons piece pieces ih =>
    obtain ⟨directory, next, goes, h⟩ := walk_cons_eq_ok.mp h
    by_cases kept : Path.isKept piece = true
    · rw [List.filter_cons_of_pos kept, walk_of_goes directory goes, ih h]
    · rw [List.filter_cons_of_neg kept]
      exact ih (goes.of_not_kept kept ▸ h)

/-- The way to a place can be put before a walk from there. -/
theorem Reached.walk_reverse_append {stack : List String} (h : Reached t stack) (names : List String) :
    t.walk isRoot [] (stack.reverse ++ names) = t.walk isRoot stack names := by
  induction h generalizing names with
  | top => rfl
  | within above directory downward ih =>
    rw [List.reverse_cons, List.append_assoc, ih, List.singleton_append, walk_of_goes directory (.down downward)]

theorem Reached.top_directory {stack : List String} (h : Reached t stack)
    (directory : t.at? stack.reverse = some .directory) : t.at? [] = some .directory := by
  induction h with
  | top => exact directory
  | within _ above _ ih => exact ih above

theorem Reached.outer {stack : List String} (h : Reached t stack) (top : t.at? [] = some .directory) :
    Reached t stack.tail ∧ t.at? stack.tail.reverse = some .directory := by
  cases h with
  | top => exact ⟨.top, top⟩
  | within above directory _ => exact ⟨above, directory⟩

theorem Reached.goes {next : List String} (h : Reached t here) (directory : t.at? here.reverse = some .directory)
    (goes : Goes isRoot here name next) : Reached t next := by
  cases goes with
  | stay => exact h
  | top => exact h
  | up =>
    cases h with
    | within above _ _ => exact above
  | down downward => exact .within h directory downward

/-- Canonical paths go as walks do. -/
theorem Reached.collapse_goes {next : List String} (h : Reached t here) (goes : Goes true here name next)
    (kept : Path.isKept name = true) (names : List String) :
    Path.collapse true here (name :: names) = Path.collapse true next names := by
  cases goes with
  | stay nothing => exact absurd (kept.symm.trans nothing) nofun
  | top => rfl
  | up =>
    cases h with
    | within _ _ downward => simp [Path.collapse, downward.down]
  | down downward => simp [Path.collapse, downward.down]

theorem Reached.collapse_reverse_append {stack : List String} (h : Reached t stack) (names : List String) :
    Path.collapse true [] (stack.reverse ++ names) = Path.collapse true stack names := by
  induction h generalizing names with
  | top => rfl
  | within above _ downward ih =>
    rw [List.reverse_cons, List.append_assoc, ih, List.singleton_append,
      above.collapse_goes (.down downward) downward.kept]

/-- A walk ends where the canonical path says. -/
theorem Reached.collapse_of_walk (h : Reached t here) (found : t.walk true here names = .ok node) :
    ∃ stack, Reached t stack ∧ t.at? stack.reverse = some node ∧
      Path.collapse true here (names.filter Path.isKept) = stack.reverse := by
  induction names generalizing here with
  | nil => exact ⟨here, h, walk_nil_eq_ok.mp found, rfl⟩
  | cons name names ih =>
    obtain ⟨directory, next, goes, found⟩ := walk_cons_eq_ok.mp found
    obtain ⟨stack, reached, there, canonical⟩ := ih (h.goes directory goes) found
    refine ⟨stack, reached, there, ?_⟩
    -- pieces that are no names move neither the walk nor the canonical path
    by_cases kept : Path.isKept name = true
    · rw [List.filter_cons_of_pos kept, h.collapse_goes goes kept, canonical]
    · rw [List.filter_cons_of_neg kept]
      exact goes.of_not_kept kept ▸ canonical

/-- A tree that hangs in another one is walked through there. -/
theorem walk_within {t u : FileTree} {dir : List String} (hung : ∀ names, t.at? names = u.at? (dir ++ names))
    {here names : List String} (found : t.walk false here names = .ok node) :
    u.walk true (here ++ dir.reverse) names = .ok node := by
  have place (here : List String) : t.at? here.reverse = u.at? (here ++ dir.reverse).reverse := by
    rw [hung, List.reverse_append, List.reverse_reverse]
  induction names generalizing here with
  | nil =>
    rw [walk_nil_eq_ok, place] at found
    exact walk_nil_eq_ok.mpr found
  | cons name names ih =>
    obtain ⟨directory, next, goes, found⟩ := walk_cons_eq_ok.mp found
    have outer : Goes true (here ++ dir.reverse) name (next ++ dir.reverse) := by
      cases goes with
      | stay nothing => exact .stay nothing
      | top root => cases root
      | up => exact .up
      | down downward => exact .down downward
    rw [place] at directory
    rw [walk_of_goes directory outer, ih found]

/-! ### Directories -/

/-- An absolute path of a directory, with no more than directories above it. -/
structure HasDirectory (t : FileTree) (dir : Path) : Prop where
  tidy : dir.Tidy
  rooted : dir.isAbsolute = true
  reached : t.Reached dir.names.reverse
  there : t.at? dir.names = some .directory

/-- The place from which a path starts that is seen from a directory. -/
def startOf (dir q : Path) : List String :=
  if q.isAbsolute then [] else dir.names.reverse

/-- What a path leads to from a directory; an absolute one starts from the root. -/
def seenFrom (t : FileTree) (dir : Path) (path : String) : Except FileError FileNode :=
  t.walk true (startOf dir (.ofString path)) (Text.splitOn '/' path)

section
variable {dir : Path} (h : t.HasDirectory dir)
include h

theorem HasDirectory.top : t.at? [] = some .directory :=
  h.reached.top_directory (by rw [List.reverse_reverse, h.there])

theorem HasDirectory.start (q : Path) : t.at? (startOf dir q).reverse = some .directory := by
  unfold startOf
  split
  · exact h.top
  · rw [List.reverse_reverse, h.there]

theorem HasDirectory.seenFrom_text {q : Path} (tidy : q.Tidy) :
    t.seenFrom dir q.text = t.walk true (startOf dir q) q.names := by
  obtain ⟨front, pieces, nothing⟩ := tidy.splitOn_text
  have same : startOf dir (.ofString q.text) = startOf dir q := by
    rw [startOf, startOf, tidy.isAbsolute_text]
  rw [seenFrom, same, pieces, walk_skip (h.start q) nothing]

end

/-- What a path leads to its tidy text leads to as well. -/
theorem HasDirectory.seenFrom_tidied {dir : Path} {path : String} (h : t.HasDirectory dir)
    (found : t.seenFrom dir path = .ok node) : t.seenFrom dir (Path.ofString path).text = .ok node := by
  rw [h.seenFrom_text (Path.tidy_ofString path)]
  exact walk_filter found

section
variable {dir q : Path} (placed : q.isAbsolute = true ∨ t.HasDirectory dir)
include placed

theorem reached_startOf : t.Reached (startOf dir q) := by
  unfold startOf
  split
  · exact .top
  · exact (placed.resolve_left ‹_›).reached

theorem rooted_append : (dir.append q).isAbsolute = true := by
  rw [Path.isAbsolute_append, Bool.or_eq_true]
  exact placed.imp_right HasDirectory.rooted

theorem tidy_append (tidy : q.Tidy) : (dir.append q).Tidy := by
  rcases placed with absolute | h
  · rwa [Path.append, if_pos absolute]
  · exact h.tidy.append tidy

theorem names_canonical : (dir.append q).canonical.names = Path.collapse true (startOf dir q) q.names := by
  rw [Path.canonical, rooted_append placed, Path.append, startOf]
  split
  · rfl
  · rw [← (placed.resolve_left ‹_›).reached.collapse_reverse_append, List.reverse_reverse]

end

/-- What is seen under a path is where its canonical path says, and in a directory. -/
theorem canonical_of_seen {dir : Path} {path : String}
    (placed : (Path.ofString path).isAbsolute = true ∨ t.HasDirectory dir) (found : t.seenFrom dir path = .ok node) :
    t.at? (dir.append (.ofString path)).canonical.names = some node ∧
      t.HasDirectory (dir.append (.ofString path)).canonical.parent := by
  have reached := reached_startOf placed
  obtain ⟨stack, below, there, canonical⟩ := reached.collapse_of_walk found
  rw [← Path.names_ofString, ← names_canonical placed] at canonical
  -- a text has at least one piece, so the walk has looked at where it starts
  obtain ⟨piece, pieces, cut⟩ := List.exists_cons_of_ne_nil (Text.splitOn_ne_nil '/' path)
  rw [seenFrom, cut] at found
  have top := reached.top_directory (walk_cons_eq_ok.mp found).1
  obtain ⟨above, directory⟩ := below.outer top
  have outer : (dir.append (.ofString path)).canonical.parent.names.reverse = stack.tail := by
    rw [Path.parent, canonical, List.dropLast_reverse, List.reverse_reverse]
  refine ⟨canonical ▸ there, (tidy_append placed (Path.tidy_ofString path)).canonical.parent, rooted_append placed,
    outer ▸ above, ?_⟩
  rw [← directory, ← outer, List.reverse_reverse]

/-! ### Parts of a tree -/

/-- An entry of a tree, named from a directory that is above it. -/
def entryBelow? (dir : List String) (e : List String × FileNode) : Option (List String × FileNode) :=
  if dir.isPrefixOf e.1 then some (e.1.drop dir.length, e.2) else none

/-- What a tree has below a directory. -/
def below (t : FileTree) (dir : List String) : FileTree :=
  t.filterMap (entryBelow? dir)

section
variable {dir : List String}

theorem entryBelow?_append (rest : List String) (node : FileNode) :
    entryBelow? dir (dir ++ rest, node) = some (rest, node) := by
  simp [entryBelow?]

/-- What is said of the names of an entry is said of its names from the directory. -/
theorem any_entryBelow? {p q : List String → Bool} (same : ∀ rest, q (dir ++ rest) = p rest)
    (inside : ∀ path, q path = true → dir <+: path) (e : List String × FileNode) :
    (entryBelow? dir e).any (fun b => p b.1) = q e.1 := by
  obtain ⟨path, node⟩ := e
  by_cases h : dir <+: path
  · obtain ⟨rest, rfl⟩ := h
    rw [entryBelow?_append, Option.any_some, same]
  · have apart : entryBelow? dir (path, node) = none := if_neg (mt List.isPrefixOf_iff_prefix.mp h)
    rw [apart, Option.any_none]
    exact (Bool.eq_false_iff.mpr (mt (inside path) h)).symm

theorem at?_eq (t : FileTree) (names : List String) : t.at? names =
    match t.find? fun e => e.1 == names with
    | some e => some e.2
    | none =>
      if names.isEmpty || t.any fun e => names.isPrefixOf e.1 then some .directory else none := by
  rw [at?]
  cases t.find? fun e => e.1 == names <;> rfl

/-- From a directory the names lead to what they lead to in the whole tree. -/
theorem at?_below {t : FileTree} (directory : t.at? dir = some .directory) (names : List String) :
    (t.below dir).at? names = t.at? (dir ++ names) := by
  have found : (t.below dir).find? (fun e => e.1 == names) =
      (t.find? fun e => e.1 == dir ++ names).bind (entryBelow? dir) := by
    have same : ∀ e, (entryBelow? dir e).any (fun b => b.1 == names) = (e.1 == dir ++ names) := by
      refine any_entryBelow? (p := (· == names)) (q := (· == dir ++ names)) (fun rest => ?_) fun path h => ?_
      · rw [Bool.eq_iff_iff]
        simp
      · exact ⟨names, (eq_of_beq h).symm⟩
    rw [below, List.find?_filterMap]
    simp only [same]
  have inner : (t.below dir).any (fun e => names.isPrefixOf e.1) =
      t.any fun e => (dir ++ names).isPrefixOf e.1 := by
    have same : ∀ e, (entryBelow? dir e).any (fun b => names.isPrefixOf b.1) = (dir ++ names).isPrefixOf e.1 := by
      refine any_entryBelow? (p := names.isPrefixOf) (q := (dir ++ names).isPrefixOf) (fun rest => ?_) fun path h => ?_
      · rw [Bool.eq_iff_iff]
        simp
      · exact (List.prefix_append dir names).trans (List.isPrefixOf_iff_prefix.mp h)
    rw [below, List.any_filterMap]
    refine congrArg t.any (funext fun e => ?_)
    rw [← same e]
    cases entryBelow? dir e <;> rfl
  rw [at?_eq, found]
  cases there : t.find? fun e => e.1 == dir ++ names with
  | some e =>
    obtain ⟨path, node⟩ := e
    obtain rfl : path = dir ++ names := by simpa using List.find?_some there
    rw [at?_eq, there, Option.bind_some, entryBelow?_append]
  | none =>
    cases names with
    | nil =>
      rw [List.append_nil, directory]
      rfl
    | cons name names =>
      have empty : (dir ++ name :: names).isEmpty = false := by simp
      rw [at?_eq t, there, inner, empty]
      rfl

end

end FileTree

/-! ### Paths of the machine -/

namespace FileSystem

/-- A path that the machine can be asked for. -/
structure Askable (path : String) : Prop where
  clean : (Text.Surrogate.codes path.toList).any isForeign = false
  short : FileTree.bytesOf path ≤ FileTree.pathLimit

variable {fs : FileSystem} {path : String} {node : FileNode}

theorem find_of_rooted (rooted : path.toList.head? = some '/') (askable : Askable path) :
    fs.find path = fs.root.walk true [] (Text.splitOn '/' path) := by
  obtain ⟨rest, chars⟩ := List.head?_eq_some_iff.mp rooted
  rw [find, askable.clean, if_neg Bool.false_ne_true, if_neg (Nat.not_lt.mpr askable.short), chars]
  rfl

/-- An absolute path leads to the same wherever the program runs. -/
theorem find_congr_of_rooted {gs : FileSystem} (same : fs.root = gs.root) (rooted : path.toList.head? = some '/') :
    fs.find path = gs.find path := by
  obtain ⟨rest, chars⟩ := List.head?_eq_some_iff.mp rooted
  simp only [find, same, chars]

theorem walk_of_find (h : fs.find path = .ok node) :
    if (Path.ofString path).isAbsolute then fs.root.walk true [] (Text.splitOn '/' path) = .ok node
    else fs.here.walk false [] (Text.splitOn '/' path) = .ok node := by
  simp only [Path.isAbsolute_ofString]
  rw [find] at h
  split at h
  · cases h
  · split at h
    · cases h
    · split at h
      · cases h
      · rename_i chars
        rwa [if_pos (by rw [chars]; rfl)]
      · rename_i other
        rwa [if_neg fun rooted => other _ (List.head?_eq_some_iff.mp rooted).choose_spec]

/-- A path that is put behind a directory leads where it does from there. -/
theorem find_append {dir q : Path} (h : fs.root.HasDirectory dir) (tidy : q.Tidy)
    (askable : Askable (dir.append q).text) : fs.find (dir.append q).text = fs.root.seenFrom dir q.text := by
  have whole := h.tidy.append tidy
  obtain ⟨front, pieces, nothing⟩ := whole.splitOn_text
  have rooted := whole.head?_text.mpr (FileTree.rooted_append (.inr h))
  have names : (dir.append q).names = (FileTree.startOf dir q).reverse ++ q.names := by
    unfold Path.append FileTree.startOf
    split
    · rfl
    · rw [List.reverse_reverse]
  -- the walk of the whole path comes by the directory, or starts over from the root
  have reached := FileTree.reached_startOf (q := q) (.inr h)
  rw [find_of_rooted rooted askable, pieces, FileTree.walk_skip h.top nothing, names, reached.walk_reverse_append,
    h.seenFrom_text tidy]

end FileSystem

/-! ### The directory in which the program runs -/

namespace Host

/-- It is a directory of the machine, and what is seen in it is what the machine has there. -/
structure Settled (host : Host) : Prop where
  directory : host.files.root.HasDirectory host.workingDirectory
  hung (names : List String) :
    host.files.here.at? names = host.files.root.at? (host.workingDirectory.names ++ names)

/-- The same machine with the program in another directory, where `here` is to be seen. -/
def moved (host : Host) (here : FileTree) (workingDirectory : Path) : Host :=
  { host with files := { host.files with here }, workingDirectory }

/-- The program in a directory of the machine. -/
def movedTo (host : Host) (wd : Path) : Host :=
  host.moved (host.files.root.below wd.names) wd

variable {host : Host} {path : String} {node : FileNode}

theorem settled_movedTo {wd : Path} (directory : host.files.root.HasDirectory wd) : (host.movedTo wd).Settled :=
  ⟨directory, FileTree.at?_below directory.there⟩

theorem seenFrom_of_find (placed : (Path.ofString path).isAbsolute = true ∨ host.Settled)
    (h : host.files.find path = .ok node) : host.files.root.seenFrom host.workingDirectory path = .ok node := by
  have found := FileSystem.walk_of_find h
  rw [FileTree.seenFrom, FileTree.startOf]
  split at found
  · rwa [if_pos ‹_›]
  · rw [if_neg ‹_›]
    exact FileTree.walk_within (placed.resolve_left ‹_›).hung found

/-- What is found under a path is where its canonical path says, and in a directory. -/
theorem absolute_of_find (placed : (Path.ofString path).isAbsolute = true ∨ host.Settled)
    (h : host.files.find path = .ok node) :
    host.files.root.at? (host.absolute path).names = some node ∧
      host.files.root.HasDirectory (host.absolute path).parent :=
  FileTree.canonical_of_seen (placed.imp_right Settled.directory) (seenFrom_of_find placed h)

end Host

end ClusterMdns
