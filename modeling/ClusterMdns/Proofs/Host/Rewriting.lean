import ClusterMdns.Host

/-! Two file systems that differ in the content of one file. A path leads to the same in both, or to that file, so
the same paths exist, and whatever else is read is the same. -/

namespace ClusterMdns

variable {old new : List UInt8}

/-! ### Trees -/

/-- Two trees that differ in a file which holds `old` in one and `new` in the other. -/
def FileTree.Rewritten (old new : List UInt8) (t u : FileTree) : Prop :=
  ∀ names, t.at? names = u.at? names ∨ t.at? names = some (.file old) ∧ u.at? names = some (.file new)

namespace FileTree

/-- The content of one entry does not matter for what else there is. -/
theorem rewritten_entry (front : FileTree) (names : List String) (back : FileTree) :
    Rewritten old new (front ++ (names, .file old) :: back) (front ++ (names, .file new) :: back) := by
  intro wanted
  have within (p : List String × FileNode → Bool) (same : ∀ n x y, p (n, x) = p (n, y)) :
      (front ++ (names, .file old) :: back).any p = (front ++ (names, .file new) :: back).any p := by
    simp [same names (.file old) (.file new)]
  rw [at?, at?, within _ fun _ _ _ => rfl]
  simp only [List.find?_append, List.find?_cons]
  generalize front.find? _ = before
  cases before with
  | some e => exact .inl rfl
  | none =>
    cases names == wanted with
    | true => exact .inr ⟨rfl, rfl⟩
    | false => exact .inl rfl

variable {t u : FileTree}

theorem Rewritten.isDirectory (h : Rewritten old new t u) (names : List String) :
    (t.at? names == some .directory) = (u.at? names == some .directory) := by
  rcases h names with same | ⟨ht, hu⟩
  · rw [same]
  · rw [ht, hu]
    rfl

/-- A walk takes the same way in both trees. -/
theorem Rewritten.walk (h : Rewritten old new t u) (isRoot : Bool) (here names : List String) :
    t.walk isRoot here names = u.walk isRoot here names ∨
      t.walk isRoot here names = .ok (.file old) ∧ u.walk isRoot here names = .ok (.file new) := by
  induction names generalizing here with
  | nil =>
    rcases h here.reverse with same | ⟨ht, hu⟩
    · exact .inl (by rw [FileTree.walk, FileTree.walk, same])
    · exact .inr (by rw [FileTree.walk, FileTree.walk, ht, hu]; exact ⟨rfl, rfl⟩)
  | cons name rest ih =>
    simp only [FileTree.walk, h.isDirectory]
    split
    · split
      · exact ih here
      · split
        · split
          · split
            · exact ih []
            · exact .inl rfl
          · exact ih _
        · split
          · exact .inl rfl
          · exact ih _
    · exact .inl rfl

theorem rewritten_self (t : FileTree) : Rewritten old new t t :=
  fun _ => .inl rfl

end FileTree

/-! ### File systems -/

namespace FileSystem

/-- A path leads to `old` in one file system and to `new` in the other; every path leads there or to the same in
both. -/
structure Rewritten (path : String) (old new : List UInt8) (fs gs : FileSystem) : Prop where
  before : fs.find path = .ok (.file old)
  after : gs.find path = .ok (.file new)
  anywhere (other : String) :
    fs.find other = gs.find other ∨ fs.find other = .ok (.file old) ∧ gs.find other = .ok (.file new)

theorem find_rewritten {fs gs : FileSystem} (here : FileTree.Rewritten old new fs.here gs.here)
    (root : FileTree.Rewritten old new fs.root gs.root) (path : String) :
    fs.find path = gs.find path ∨ fs.find path = .ok (.file old) ∧ gs.find path = .ok (.file new) := by
  simp only [find]
  split
  · exact .inl rfl
  · split
    · exact .inl rfl
    · split
      · exact .inl rfl
      · exact root.walk true [] _
      · exact here.walk false [] _

namespace Rewritten

variable {path : String} {fs gs : FileSystem}

/-- The same paths exist. -/
theorem exists? (h : Rewritten path old new fs gs) (p : Path) : fs.exists? p = gs.exists? p := by
  rw [FileSystem.exists?, FileSystem.exists?, look?, look?]
  rcases h.anywhere p.text with same | ⟨before, after⟩
  · rw [same]
  · rw [before, after]
    rfl

end Rewritten

theorem readBytes_congr {fs gs : FileSystem} {path : String} (h : fs.find path = gs.find path) :
    fs.readBytes path = gs.readBytes path := by
  rw [readBytes, readBytes, h]

theorem readBytes_eq_ok {fs : FileSystem} {path : String} {content : List UInt8} :
    fs.readBytes path = .ok content ↔ fs.find path = .ok (.file content) := by
  rw [readBytes]
  cases fs.find path with
  | error e => simp [bind, Except.bind]
  | ok node => cases node <;> simp [bind, Except.bind]

theorem readText_congr {fs gs : FileSystem} {path : String} (h : fs.find path = gs.find path) :
    fs.readText path = gs.readText path := by
  rw [readText, readText, readBytes_congr h]

theorem readText_eq_ok {fs : FileSystem} {path text : String} : fs.readText path = .ok text ↔
    ∃ content cs, fs.find path = .ok (.file content) ∧ Text.Utf8.decode? content = some cs ∧
      text = String.ofList (Text.unifyLineEnds cs) := by
  simp only [← readBytes_eq_ok]
  rw [readText]
  cases fs.readBytes path with
  | error e => simp [bind, Except.bind]
  | ok content =>
    cases decoded : Text.Utf8.decode? content <;> simp [bind, Except.bind, decoded, eq_comm]

/-- Text comes of bytes alone. -/
theorem readText_of_find {fs gs : FileSystem} {path other : String} {content : List UInt8}
    (h : fs.find path = .ok (.file content)) (ho : gs.find other = .ok (.file content)) :
    gs.readText other = fs.readText path := by
  rw [readText, readText, readBytes_eq_ok.mpr h, readBytes_eq_ok.mpr ho]

end FileSystem

end ClusterMdns
