import ClusterMdns.Path
import ClusterMdns.Proofs.Text.Fields

/-! Tidy paths. The names of such a path are the pieces of its text, behind pieces that are no names, and a path that
is put behind another one or made canonical stays tidy. -/

namespace ClusterMdns

/-- A name that stays in a tidy path. -/
structure PathName (name : String) : Prop where
  nonempty : name ≠ ""
  moving : name ≠ "."
  single : ∀ c ∈ name.toList, (c == '/') = false

namespace Path

structure Tidy (p : Path) : Prop where
  slashes : p.slashes ≤ 2
  names : ∀ name ∈ p.names, PathName name

/-! ### Reading -/

/-- Whether a piece of a text becomes a name of the path. -/
def isKept (piece : String) : Bool :=
  piece != "" && piece != "."

theorem isKept_iff {piece : String} : isKept piece = true ↔ piece ≠ "" ∧ piece ≠ "." := by
  simp [isKept]

theorem isKept_eq_false {piece : String} : isKept piece = false ↔ (piece == "" || piece == ".") = true := by
  rw [isKept, bne, bne]
  cases piece == "" <;> cases piece == "." <;> decide

theorem names_ofString (s : String) : (ofString s).names = (Text.splitOn '/' s).filter isKept := rfl

theorem tidy_ofString (s : String) : (ofString s).Tidy where
  slashes := by
    change leadingSlashes s ≤ 2
    unfold leadingSlashes
    split <;> decide
  names name h := by
    obtain ⟨piece, kept⟩ := List.mem_filter.mp h
    obtain ⟨nonempty, moving⟩ := isKept_iff.mp kept
    obtain ⟨cs, hcs, rfl⟩ := List.mem_map.mp piece
    refine ⟨nonempty, moving, fun c hc => ?_⟩
    rw [String.toList_ofList] at hc
    exact Text.not_of_mem_splitChars hcs hc

theorem isAbsolute_ofString {s : String} : (ofString s).isAbsolute = true ↔ s.toList.head? = some '/' := by
  change (leadingSlashes s != 0) = true ↔ _
  unfold leadingSlashes
  cases s.toList with
  | nil => simp
  | cons c rest =>
    by_cases slash : c = '/'
    · subst slash
      split <;> simp_all
    · split <;> simp_all

/-! ### Writing -/

section
variable {p : Path}

theorem slashes_of_relative (h : p.isAbsolute = false) : p.slashes = 0 :=
  bne_eq_false_iff_eq.mp h

theorem text_of_no_names (h : p.isAbsolute = false) (none : p.names = []) : p.text = "." := by
  simp only [text, h, none]
  rfl

variable (tidy : p.Tidy)
include tidy

/-- Behind the slashes in front, the text begins with a name. -/
theorem Tidy.first_char (h : p.names ≠ []) :
    ∃ c rest, Text.joinChars ['/'] (p.names.map String.toList) = c :: rest ∧ c ≠ '/' := by
  obtain ⟨name, names, hn⟩ := List.exists_cons_of_ne_nil h
  have first := tidy.names name (hn ▸ List.mem_cons_self)
  obtain ⟨tail, joined⟩ := Text.joinChars_cons ['/'] name.toList (names.map String.toList)
  rw [hn, List.map_cons, joined]
  cases chars : name.toList with
  | nil => exact absurd (String.toList_eq_nil_iff.mp chars) first.nonempty
  | cons c cs =>
    have other := first.single c (chars ▸ List.mem_cons_self)
    exact ⟨c, cs ++ tail, rfl, beq_eq_false_iff_ne.mp other⟩

/-- Only a relative path without names has a text other than slashes and names. -/
theorem Tidy.toList_text (h : p.isAbsolute = true ∨ p.names ≠ []) :
    p.text.toList = List.replicate p.slashes '/' ++ Text.joinChars ['/'] (p.names.map String.toList) := by
  have body : (Text.join "/" p.names).toList = Text.joinChars ['/'] (p.names.map String.toList) :=
    Text.toList_join "/" p.names
  cases rooted : p.isAbsolute with
  | true =>
    simp only [text, rooted, if_true]
    rw [String.toList_append, String.toList_ofList, body]
  | false =>
    obtain ⟨c, rest, chars, -⟩ := tidy.first_char (h.resolve_left (by simp [rooted]))
    have nonempty : (Text.join "/" p.names == "") = false := by
      rw [beq_eq_false_iff_ne]
      intro empty
      rw [empty, chars] at body
      cases body
    simp only [text, rooted, nonempty, Bool.false_eq_true, if_false]
    rw [slashes_of_relative rooted, body]
    rfl

theorem Tidy.splitOn_slashes (h : p.names ≠ []) :
    Text.splitOn '/' p.text = List.replicate p.slashes "" ++ p.names := by
  have single : ∀ cs ∈ p.names.map String.toList, ∀ c ∈ cs, (c == '/') = false := by
    rintro _ hcs c hc
    obtain ⟨name, hn, rfl⟩ := List.mem_map.mp hcs
    exact (tidy.names name hn).single c hc
  have some_name : p.names.map String.toList ≠ [] := fun none => h (List.map_eq_nil_iff.mp none)
  rw [Text.splitOn, tidy.toList_text (.inr h), Text.splitChars_replicate rfl,
    Text.splitChars_joinChars some_name single rfl, List.map_append, List.map_replicate, List.map_map]
  simp

/-- The names come last, and the pieces in front of them are none. -/
theorem Tidy.splitOn_text :
    ∃ front, Text.splitOn '/' p.text = front ++ p.names ∧ ∀ piece ∈ front, isKept piece = false := by
  by_cases h : p.names = []
  · refine ⟨Text.splitOn '/' p.text, by rw [h, List.append_nil], ?_⟩
    cases rooted : p.isAbsolute with
    | true =>
      have chars := tidy.toList_text (.inl rooted)
      rw [h, List.map_nil, Text.joinChars] at chars
      rw [Text.splitOn, chars, Text.splitChars_replicate rfl, Text.splitChars]
      rintro _ hp
      obtain ⟨cs, hcs, rfl⟩ := List.mem_map.mp hp
      obtain rfl : cs = [] := by
        rcases List.mem_append.mp hcs with hcs | hcs
        · exact List.eq_of_mem_replicate hcs
        · exact List.mem_singleton.mp hcs
      rfl
    | false =>
      rw [text_of_no_names rooted h]
      decide
  · refine ⟨List.replicate p.slashes "", tidy.splitOn_slashes h, fun piece hp => ?_⟩
    rw [List.eq_of_mem_replicate hp]
    rfl

theorem Tidy.head?_text : p.text.toList.head? = some '/' ↔ p.isAbsolute = true := by
  cases rooted : p.isAbsolute with
  | true =>
    obtain ⟨n, slashes⟩ := Nat.exists_eq_succ_of_ne_zero (bne_iff_ne.mp rooted)
    rw [tidy.toList_text (.inl rooted), slashes, List.replicate_succ]
    exact iff_of_true rfl rfl
  | false =>
    refine iff_of_false (fun slash => ?_) Bool.false_ne_true
    by_cases h : p.names = []
    · rw [text_of_no_names rooted h] at slash
      cases slash
    · obtain ⟨c, rest, chars, other⟩ := tidy.first_char h
      rw [tidy.toList_text (.inr h), slashes_of_relative rooted, chars] at slash
      exact other (Option.some.inj slash)

theorem Tidy.isAbsolute_text : (ofString p.text).isAbsolute = p.isAbsolute := by
  rw [Bool.eq_iff_iff, isAbsolute_ofString, tidy.head?_text]

theorem Tidy.leadingSlashes_text (rooted : p.isAbsolute = true) : leadingSlashes p.text = p.slashes := by
  have chars := tidy.toList_text (.inl rooted)
  have behind : ∀ rest, Text.joinChars ['/'] (p.names.map String.toList) ≠ '/' :: rest := by
    intro rest slash
    have some_name : p.names ≠ [] := by
      intro none
      rw [none] at slash
      cases slash
    obtain ⟨c, cs, first, other⟩ := tidy.first_char some_name
    exact other (List.cons.inj (first.symm.trans slash)).1
  have bound := tidy.slashes
  have some_slash : p.slashes ≠ 0 := bne_iff_ne.mp rooted
  obtain one | two : p.slashes = 1 ∨ p.slashes = 2 := by omega
  · rw [one, List.replicate_one, List.singleton_append] at chars
    rw [leadingSlashes, chars, one]
    split
    · rfl
    · rename_i h
      exact absurd (List.cons.inj h).2 (behind _)
    · rfl
    · rename_i other
      exact absurd rfl (other _)
  · rw [two, List.replicate_succ, List.replicate_one, List.cons_append, List.singleton_append] at chars
    rw [leadingSlashes, chars, two]
    split
    · rename_i h
      exact absurd (List.cons.inj (List.cons.inj h).2).2 (behind _)
    · rfl
    · rename_i other h
      exact absurd (List.cons.inj h).2.symm (other _)
    · rename_i other
      exact absurd rfl (other _)

/-- A text is read as the path that it is the text of. -/
theorem Tidy.ofString_text : ofString p.text = p := by
  obtain ⟨front, pieces, nothing⟩ := tidy.splitOn_text
  have names : (ofString p.text).names = p.names := by
    rw [names_ofString, pieces, List.filter_append, List.filter_eq_nil_iff.mpr (by simpa using nothing),
      List.nil_append, List.filter_eq_self.mpr fun name hn => isKept_iff.mpr
        ⟨(tidy.names name hn).nonempty, (tidy.names name hn).moving⟩]
  have slashes : (ofString p.text).slashes = p.slashes := by
    cases rooted : p.isAbsolute with
    | true => exact tidy.leadingSlashes_text rooted
    | false =>
      have relative : (ofString p.text).isAbsolute = false := tidy.isAbsolute_text.trans rooted
      rw [slashes_of_relative relative, slashes_of_relative rooted]
  have whole : ofString p.text = ⟨(ofString p.text).slashes, (ofString p.text).names⟩ := rfl
  rw [whole, slashes, names]

end

/-! ### Paths made of others -/

theorem isAbsolute_append (p q : Path) : (p.append q).isAbsolute = (q.isAbsolute || p.isAbsolute) := by
  unfold Path.append
  cases absolute : q.isAbsolute with
  | true => exact absolute
  | false => rfl

theorem Tidy.append {p q : Path} (hp : p.Tidy) (hq : q.Tidy) : (p.append q).Tidy := by
  unfold Path.append
  split
  · exact hq
  · refine ⟨hp.slashes, fun name h => ?_⟩
    rcases List.mem_append.mp h with h | h
    · exact hp.names name h
    · exact hq.names name h

/-- Canonical names are those that were there before, or lead upwards. -/
theorem mem_collapse {absolute : Bool} {name : String} {before names : List String}
    (h : name ∈ collapse absolute before names) : name ∈ before ∨ name ∈ names ∨ name = ".." := by
  induction names generalizing before with
  | nil => exact .inl (List.mem_reverse.mp h)
  | cons first rest ih =>
    have later {others : List String} (h : name ∈ collapse absolute others rest)
        (known : ∀ other ∈ others, other ∈ before ∨ other = first ∨ other = "..") :
        name ∈ before ∨ name ∈ first :: rest ∨ name = ".." := by
      rcases ih h with h | h | h
      · rcases known name h with h | rfl | h
        · exact .inl h
        · exact .inr (.inl List.mem_cons_self)
        · exact .inr (.inr h)
      · exact .inr (.inl (List.mem_cons_of_mem _ h))
      · exact .inr (.inr h)
    unfold collapse at h
    split at h
    · exact later h (by simp +contextual)
    · split at h
      · exact later h (by split <;> simp)
      · split at h
        · exact later h (by simp +contextual)
        · exact later h (by simp +contextual)

theorem Tidy.canonical {p : Path} (h : p.Tidy) : p.canonical.Tidy where
  slashes := h.slashes
  names name hn := by
    rcases mem_collapse hn with hn | hn | rfl
    · cases hn
    · exact h.names name hn
    · exact ⟨by decide, by decide, by simp⟩

theorem Tidy.parent {p : Path} (h : p.Tidy) : p.parent.Tidy :=
  ⟨h.slashes, fun name hn => h.names name (List.dropLast_subset _ hn)⟩

end Path

end ClusterMdns
