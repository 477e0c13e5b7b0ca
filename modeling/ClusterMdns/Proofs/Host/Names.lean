import ClusterMdns.Host
import ClusterMdns.Proofs.Text.Fields

/-! Paths of a single name. Such a path is read as it is written, and what is under it is looked for where the program
runs. -/

namespace ClusterMdns

/-- A path that is a single name, and not one that begins with a dot. -/
structure FileName (s : String) : Prop where
  nonempty : s.toList ≠ []
  visible : s.toList.head? ≠ some '.'
  single : ∀ c ∈ s.toList, (c == '/') = false

namespace FileName
variable {s : String} (h : FileName s)
include h

theorem ne_empty : s ≠ "" :=
  fun none => h.nonempty (congrArg String.toList none)

theorem undotted {rest : String} (dot : rest.toList.head? = some '.') : s ≠ rest :=
  fun same => h.visible (same ▸ dot)

theorem pieces : Text.splitOn '/' s = [s] := by
  rw [Text.splitOn, Text.splitChars_single h.single, List.map_singleton, String.ofList_toList]

theorem exists_cons : ∃ c rest, s.toList = c :: rest ∧ c ≠ '/' := by
  cases chars : s.toList with
  | nil => exact absurd chars h.nonempty
  | cons c rest =>
    have first : c ∈ s.toList := by simp [chars]
    exact ⟨c, rest, rfl, beq_eq_false_iff_ne.mp (h.single c first)⟩

theorem text_ofString : (Path.ofString s).text = s := by
  obtain ⟨c, rest, chars, slash⟩ := h.exists_cons
  have front : Path.leadingSlashes s = 0 := by
    rw [Path.leadingSlashes, chars]
    split <;> simp_all
  have other : s ≠ "." := h.undotted rfl
  simp [Path.ofString, front, h.pieces, Path.text, Path.isAbsolute, Text.join, h.ne_empty, other]

end FileName

namespace FileSystem

/-- There is no asking for a name that is too long. -/
theorem find_of_long {fs : FileSystem} {name : String} (h : FileName name)
    (top : (fs.here.at? [] == some .directory) = true)
    (clean : (Text.Surrogate.codes name.toList).any isForeign = false)
    (long : FileTree.nameLimit < FileTree.bytesOf name) (bounded : FileTree.bytesOf name ≤ FileTree.pathLimit) :
    fs.find name = .error .longPath := by
  obtain ⟨c, rest, chars, slash⟩ := h.exists_cons
  have here : name ≠ "." := h.undotted rfl
  have above : name ≠ ".." := h.undotted rfl
  have walked : fs.here.walk false [] [name] = .error .longPath := by
    rw [FileTree.walk]
    simp [top, h.ne_empty, here, above, long]
  rw [find, clean, if_neg Bool.false_ne_true, if_neg (Nat.not_lt.mpr bounded), chars]
  split
  · contradiction
  · rename_i first
    exact absurd (List.cons.inj first).1 slash
  · rw [h.pieces, walked]

end FileSystem

end ClusterMdns
