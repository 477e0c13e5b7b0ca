import ClusterMdns.Text.Blank
import Mathlib.Data.List.TakeWhile

/-! What is left of a text when characters are dropped at its ends: it has nothing to drop at these ends, and the
text is made of it and of what was dropped. -/

namespace ClusterMdns.Text

variable {p : Char → Bool} {cs kept : List Char}

theorem dropWhile_eq_iff : cs.dropWhile p = kept ↔
    (∃ front, cs = front ++ kept ∧ ∀ c ∈ front, p c = true) ∧ ∀ c ∈ kept.head?, p c = false := by
  constructor
  · rintro rfl
    refine ⟨⟨cs.takeWhile p, List.takeWhile_append_dropWhile.symm, fun c hc => List.mem_takeWhile_imp hc⟩, ?_⟩
    intro c hc
    have found := List.head?_dropWhile_not p cs
    rw [Option.mem_def.mp hc] at found
    simpa using found
  · rintro ⟨⟨front, rfl, dropped⟩, stops⟩
    rw [List.dropWhile_append_of_pos dropped]
    cases kept with
    | nil => rfl
    | cons c kept => exact List.dropWhile_cons_of_neg (by simp [stops c rfl])

theorem dropTrailing_eq_iff : dropTrailing p cs = kept ↔
    (∃ back, cs = kept ++ back ∧ ∀ c ∈ back, p c = true) ∧ ∀ c ∈ kept.getLast?, p c = false := by
  rw [dropTrailing, List.reverse_eq_iff, dropWhile_eq_iff, List.head?_reverse]
  refine and_congr_left' ⟨?_, ?_⟩
  · rintro ⟨back, parts, dropped⟩
    rw [List.reverse_eq_iff, List.reverse_append, List.reverse_reverse] at parts
    exact ⟨back.reverse, parts, fun c hc => dropped c (List.mem_reverse.mp hc)⟩
  · rintro ⟨back, rfl, dropped⟩
    exact ⟨back.reverse, List.reverse_append, fun c hc => dropped c (List.mem_reverse.mp hc)⟩

theorem dropTrailing_map {f : Char → Char} (h : ∀ c, p (f c) = p c) (cs : List Char) :
    dropTrailing p (cs.map f) = (dropTrailing p cs).map f := by
  have same : p ∘ f = p := funext h
  rw [dropTrailing, dropTrailing, ← List.map_reverse, List.dropWhile_map, ← List.map_reverse, same]

/-- A text without blanks at its ends, and the blanks around it. -/
theorem trimChars_eq_iff : trimChars cs = kept ↔
    (∃ front back, cs = front ++ kept ++ back ∧ (∀ c ∈ front, isBlank c = true) ∧
      ∀ c ∈ back, isBlank c = true) ∧
    (∀ c ∈ kept.head?, isBlank c = false) ∧ ∀ c ∈ kept.getLast?, isBlank c = false := by
  have head_of {back : List Char} (hne : kept ≠ []) : (kept ++ back).head? = kept.head? := by
    obtain ⟨c, rest, rfl⟩ := List.exists_cons_of_ne_nil hne
    rfl
  rw [trimChars, dropTrailing_eq_iff]
  constructor
  · rintro ⟨⟨back, parts, dropped⟩, last⟩
    obtain ⟨⟨front, whole, blanks⟩, head⟩ := dropWhile_eq_iff.mp parts
    rw [← List.append_assoc] at whole
    refine ⟨⟨front, back, whole, blanks, dropped⟩, fun c hc => head c ?_, last⟩
    have hne : kept ≠ [] := List.ne_nil_of_mem (List.mem_of_head? hc)
    rwa [head_of hne]
  · rintro ⟨⟨front, back, rfl, blanks, dropped⟩, head, last⟩
    refine ⟨?_, last⟩
    rw [List.append_assoc, List.dropWhile_append_of_pos blanks]
    by_cases hne : kept = []
    · subst hne
      have none : back.dropWhile isBlank = [] := List.dropWhile_eq_nil_iff.mpr dropped
      exact ⟨[], none, List.forall_mem_nil _⟩
    · refine ⟨back, dropWhile_eq_iff.mpr ⟨⟨[], rfl, List.forall_mem_nil _⟩, ?_⟩, dropped⟩
      rwa [head_of hne]

/-- A text that was trimmed has nothing left to trim. -/
theorem trim_trim (s : String) : trim (trim s) = trim s := by
  obtain ⟨-, head, last⟩ := trimChars_eq_iff.mp (rfl : trimChars s.toList = trimChars s.toList)
  have nothing : ∀ c ∈ ([] : List Char), isBlank c = true := List.forall_mem_nil _
  have again : trimChars (trimChars s.toList) = trimChars s.toList := by
    refine trimChars_eq_iff.mpr ⟨⟨[], [], ?_, nothing, nothing⟩, head, last⟩
    simp
  rw [trim, trim, String.toList_ofList, again]

end ClusterMdns.Text
