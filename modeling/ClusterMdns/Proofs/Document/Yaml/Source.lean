import ClusterMdns.Document.Yaml.Source
import ClusterMdns.Proofs.Text.Stream

/-! The characters of a YAML text that is read and checked in pieces. All of them can be had exactly if the bytes
are a text in which every character may stand, and then they are the text with its line ends unified. -/

namespace ClusterMdns

/-! ### Line ends and characters that mean themselves -/

namespace Text

/-- A character of ASCII means itself. -/
theorem Surrogate.literally_of_ascii {c : Char} (h : c.toNat < 128) : literally c = [c] := by
  have other : c ≠ mark := by
    rintro rfl
    exact absurd h (by decide)
  have small : ¬ shift ≤ c.toNat := by
    unfold shift
    omega
  exact if_neg (by simp [isStandIn, other, small])

theorem flatMap_literally_unifyLineEnds (cs : List Char) :
    unifyLineEnds (cs.flatMap Surrogate.literally) = (unifyLineEnds cs).flatMap Surrogate.literally := by
  have ascii {c : Char} (small : c.toNat < 128) (cs : List Char) :
      (c :: cs).flatMap Surrogate.literally = c :: cs.flatMap Surrogate.literally := by
    rw [List.flatMap_cons, Surrogate.literally_of_ascii small, List.singleton_append]
  have newline := ascii (show '\n'.toNat < 128 by decide)
  have returned := ascii (show '\r'.toNat < 128 by decide)
  fun_induction unifyLineEnds cs with
  | case1 => rfl
  | case2 cs ih => rw [returned, newline, newline, unifyLineEnds, ih]
  | case3 cs single ih =>
    have head : (cs.flatMap Surrogate.literally).head? ≠ some '\n' := by
      cases cs with
      | nil =>
        intro same
        cases same
      | cons c cs =>
        intro same
        have first : c = '\n' := by
          rw [List.flatMap_cons, Surrogate.literally] at same
          split at same
          · cases same
          · exact Option.some.inj same
        exact single cs (by rw [first])
    rw [returned, unifyLineEnds_return head, newline, ih]
  | case4 c cs not_pair not_return ih =>
    rw [List.flatMap_cons, List.flatMap_cons, ← ih, Surrogate.literally]
    have marked (ds : List Char) : unifyLineEnds (Surrogate.mark :: ds) = Surrogate.mark :: unifyLineEnds ds := by
      rw [unifyLineEnds] <;> · intros; contradiction
    have other (ds : List Char) : unifyLineEnds (c :: ds) = c :: unifyLineEnds ds := by
      rw [unifyLineEnds]
      · exact fun _ same _ => not_return same
      · exact not_return
    split
    · rw [List.cons_append, List.singleton_append, marked, other]
      rfl
    · exact other _

end Text

namespace Document.Yaml.Source

open Text

variable {s : Stream} {cs piece : List Char}

/-- The source of characters that can all be had. -/
def ofChars (cs : List Char) : Source :=
  { chars := cs.flatMap Surrogate.literally }

theorem after_ofChars (allowed : piece.all isAllowed = true) (cs : List Char) :
    (ofChars cs).after piece = ofChars (piece ++ cs) := by
  rw [after, if_pos allowed, ofChars, ofChars, List.flatMap_append]

theorem cut_after {s : Source} (h : (s.after piece).cut = none) :
    piece.all isAllowed = true ∧ s.cut = none := by
  rw [after] at h
  split at h
  · exact ⟨‹_›, h⟩
  · cases h

/-- All characters can be had only if the bytes make a text. -/
theorem ofStream_of_cut {fuel : Nat} (waits : s.Waits) (h : (ofStream fuel s).cut = none) :
    ∃ cs, s.remaining? = some cs ∧ cs.all isAllowed = true := by
  induction fuel generalizing s with
  | zero => cases h
  | succ fuel ih =>
    rw [ofStream] at h
    split at h
    · rename_i t found
      have taken := Stream.taken waits found
      exact ⟨[], by rw [taken.parts, taken.short (by decide)]; rfl, rfl⟩
    · rename_i piece t _ found
      have taken := Stream.taken waits found
      obtain ⟨allowed, whole⟩ := cut_after h
      obtain ⟨cs, left, others⟩ := ih taken.waits whole
      refine ⟨piece ++ cs, by rw [taken.parts, left]; rfl, ?_⟩
      rw [List.all_append, allowed, others]
      rfl
    · cases h

/-- What is had of a text in which every character may stand. -/
theorem ofStream_of_remaining {fuel : Nat} (waits : s.Waits) (text : s.remaining? = some cs)
    (allowed : cs.all isAllowed = true) (enough : cs.length < fuel) : ofStream fuel s = ofChars cs := by
  induction fuel generalizing s cs with
  | zero => exact absurd enough (Nat.not_lt_zero _)
  | succ fuel ih =>
    rw [ofStream]
    split
    · rename_i t found
      have taken := Stream.taken waits found
      rw [taken.parts, taken.short (by decide)] at text
      cases text
      rfl
    · rename_i piece t some_char found
      have taken := Stream.taken waits found
      rw [taken.parts, Option.map_eq_some_iff] at text
      obtain ⟨ds, left, rfl⟩ := text
      rw [List.all_append, Bool.and_eq_true] at allowed
      have some_length := List.length_pos_iff.mpr some_char
      rw [List.length_append] at enough
      rw [ih taken.waits left allowed.2 (by omega), after_ofChars allowed.1]
    · rename_i found
      rw [Stream.remaining?_of_take_none waits found] at text
      cases text

/-- The first pieces are parts of the text as well. -/
theorem opening_taken {t : Stream} (waits : s.Waits) (h : opening? s = some (piece, t)) :
    t.Waits ∧ s.remaining? = t.remaining?.map (piece ++ ·) := by
  obtain ⟨⟨first, u⟩, found, h⟩ := Option.bind_eq_some_iff.mp h
  obtain ⟨⟨second, v⟩, later, h⟩ := Option.bind_eq_some_iff.mp h
  cases h
  have front := Stream.taken waits found
  have back := Stream.taken front.waits later
  refine ⟨back.waits, ?_⟩
  rw [front.parts, back.parts, Option.map_map]
  exact congrArg (Option.map · _) (funext fun cs => (List.append_assoc ..).symm)

theorem remaining?_of_opening_none (waits : s.Waits) (h : opening? s = none) : s.remaining? = none := by
  rw [opening?] at h
  cases found : s.take? pieceLength with
  | none => exact Stream.remaining?_of_take_none waits found
  | some taken =>
    obtain ⟨first, t⟩ := taken
    have front := Stream.taken waits found
    cases later : t.take? pieceLength with
    | none =>
      rw [front.parts, Stream.remaining?_of_take_none front.waits later]
      rfl
    | some taken =>
      rw [found] at h
      simp only [Option.bind_eq_bind, Option.bind_some, later] at h
      cases h

/-! ### Files -/

variable {content : List UInt8}

theorem ofBytes_of_cut (h : (ofBytes content).cut = none) :
    ∃ cs, Utf8.chars? content = some cs ∧ (unifyLineEnds cs).all isAllowed = true := by
  suffices ∃ cs, Stream.remaining? { coming := content } = some cs ∧ cs.all isAllowed = true by
    obtain ⟨cs, text, allowed⟩ := this
    rw [Stream.remaining?_ofBytes, Option.map_eq_some_iff] at text
    obtain ⟨ds, decoded, rfl⟩ := text
    exact ⟨ds, decoded, allowed⟩
  rw [ofBytes] at h
  split at h
  · rename_i piece t found
    obtain ⟨waits, parts⟩ := opening_taken (Stream.waits_ofBytes content) found
    obtain ⟨allowed, whole⟩ := cut_after h
    obtain ⟨cs, left, others⟩ := ofStream_of_cut waits whole
    refine ⟨piece ++ cs, by rw [parts, left]; rfl, ?_⟩
    rw [List.all_append, allowed, others]
    rfl
  · cases h

theorem ofBytes_of_chars (decoded : Utf8.chars? content = some cs)
    (allowed : (unifyLineEnds cs).all isAllowed = true) : ofBytes content = ofChars (unifyLineEnds cs) := by
  have text : Stream.remaining? { coming := content } = some (unifyLineEnds cs) := by
    rw [Stream.remaining?_ofBytes, decoded]
    rfl
  have short := Nat.le_trans (length_unifyLineEnds_le cs) (Utf8.length_chars?_le decoded)
  generalize unifyLineEnds cs = lines at *
  rw [ofBytes]
  cases found : opening? { coming := content } with
  | none =>
    rw [remaining?_of_opening_none (Stream.waits_ofBytes content) found] at text
    cases text
  | some taken =>
    obtain ⟨piece, t⟩ := taken
    obtain ⟨waits, parts⟩ := opening_taken (Stream.waits_ofBytes content) found
    rw [parts, Option.map_eq_some_iff] at text
    obtain ⟨ds, left, rfl⟩ := text
    rw [List.all_append, Bool.and_eq_true] at allowed
    rw [List.length_append] at short
    dsimp only
    rw [ofStream_of_remaining waits left allowed.2 (by omega), after_ofChars allowed.1]

/-- All characters of a file can be had only if it is a text as a whole, and then they are this text. -/
theorem decode?_of_cut (h : (ofBytes content).cut = none) :
    ∃ cs, Utf8.decode? content = some cs ∧ ofBytes content = { chars := unifyLineEnds cs } := by
  obtain ⟨cs, decoded, allowed⟩ := ofBytes_of_cut h
  refine ⟨cs.flatMap Surrogate.literally, by rw [Utf8.decode?_eq_chars, decoded]; rfl, ?_⟩
  rw [ofBytes_of_chars decoded allowed, ofChars, flatMap_literally_unifyLineEnds]

end Document.Yaml.Source

end ClusterMdns
