import ClusterMdns.Text.LowerCase
import Mathlib.Data.List.Forall2

/-! The end of a text in lower case. Beyond ASCII the lower-case form of a character ends in a character beyond
ASCII as well, but for the sign of the unit Kelvin, which becomes a k. So whether the lower-case form of a text
ends in a given text of ASCII without that letter shows when the letters of ASCII alone are changed. -/

namespace ClusterMdns.Text

/-! ### Characters -/

/-- What holds of all characters of ASCII can be checked. -/
theorem forall_ascii {P : Char → Prop} (h : ∀ n < 128, P (Char.ofNat n)) {c : Char} (hc : c.toNat < 128) :
    P c := by
  have found := h c.toNat hc
  rwa [Char.ofNat_toNat] at found

/-- A capital letter of ASCII becomes the small one, and any other character stays. -/
theorem toLower_cases (c : Char) :
    (65 ≤ c.toNat ∧ c.toNat ≤ 90 ∧ c.toLower.toNat = c.toNat + 32) ∨ c.toLower = c := by
  unfold Char.toLower
  split
  · rename_i capital
    have low : 65 ≤ c.toNat := UInt32.le_iff_toNat_le.mp capital.1
    have high : c.toNat ≤ 90 := UInt32.le_iff_toNat_le.mp capital.2
    have moved : (c.val + 32).toNat = (c.toNat + 32) % 4294967296 := UInt32.toNat_add c.val 32
    refine .inl ⟨low, high, moved.trans (Nat.mod_eq_of_lt ?_)⟩
    omega
  · exact .inr rfl

theorem toLower_of_not_ascii {c : Char} (h : ¬ c.toNat < 128) : c.toLower = c :=
  (toLower_cases c).resolve_left (by omega)

theorem toNat_ofNat {n : Nat} (h : n.isValidChar) : (Char.ofNat n).toNat = n := by
  rw [Char.ofNat, dif_pos h]
  rfl

/-- A character that is the end of a lower-case form only where it stands for a letter of ASCII. -/
def Simple (c : Char) : Prop :=
  c.toNat < 128 ∧ c ≠ 'k'

/-- Beyond ASCII every run leads beyond ASCII, but for that of the sign for Kelvin. -/
theorem run_cases : ∀ r ∈ lowerRuns, r.last < 128 ∨ (r.first = 0x212A ∧ r.last = 0x212A ∧ r.shift = -8383) ∨
    128 ≤ r.first + r.shift ∧
      (r.last + r.shift < 0xD800 ∨ 0xDFFF < r.first + r.shift ∧ r.last + r.shift < 0x110000) := by
  decide +kernel

theorem not_simple_of_run {r : CaseRun} (hr : r ∈ lowerRuns) {n : Nat} (hn : r.covers n = true)
    (beyond : ¬ n < 128) : ¬ Simple (Char.ofNat (n + r.shift).toNat) := by
  simp only [CaseRun.covers, Bool.and_eq_true, decide_eq_true_eq] at hn
  obtain ⟨⟨low, high⟩, -⟩ := hn
  rcases run_cases r hr with small | ⟨first, last, shift⟩ | ⟨ascii, valid⟩
  · omega
  · obtain rfl : n = 0x212A := by omega
    rw [shift]
    exact fun h => h.2 (by decide)
  · intro h
    have same := toNat_ofNat (n := (n + r.shift).toNat) (by rw [Nat.isValidChar]; omega)
    have := h.1
    omega

/-- What a character may become in lower case. -/
inductive Lowered (c : Char) : List Char → Prop
  | letter (h : c.toNat < 128) : Lowered c [c.toLower]
  | other (h : ¬ c.toNat < 128) (front : List Char) {last : Char} (hl : ¬ Simple last) :
      Lowered c (front ++ [last])

theorem lowered_lowerChar (c : Char) : Lowered c (lowerChar c) := by
  unfold lowerChar
  split
  · exact .letter ‹_›
  · rename_i beyond
    split
    · exact .other beyond ['i'] (fun h => absurd h.1 (by decide))
    · split
      · rename_i r found
        exact .other beyond [] (not_simple_of_run (List.mem_of_find?_eq_some found)
          (List.find?_some (p := (CaseRun.covers · c.toNat)) found) beyond)
      · exact .other beyond [] (fun h => beyond h.1)

/-! ### Texts -/

/-- Every character of a text has its part in the lower-case form. -/
theorem lowerFrom_parts (before cs : List Char) :
    ∃ parts : List (List Char), lowerFrom before cs = parts.flatten ∧ List.Forall₂ Lowered cs parts := by
  induction cs generalizing before with
  | nil => exact ⟨[], rfl, .nil⟩
  | cons c cs ih =>
    obtain ⟨parts, written, each⟩ := ih (c :: before)
    have first : ∃ part, Lowered c part ∧ lowerFrom before (c :: cs) = part ++ lowerFrom (c :: before) cs := by
      by_cases sigma : c.toNat = 0x3A3
      · have beyond : ¬ c.toNat < 128 := by omega
        simp only [lowerFrom, sigma, if_true]
        split
        · exact ⟨_, .other beyond [] (fun h => absurd h.1 (by decide)), rfl⟩
        · exact ⟨_, .other beyond [] (fun h => absurd h.1 (by decide)), rfl⟩
      · exact ⟨lowerChar c, lowered_lowerChar c, by simp only [lowerFrom, sigma, if_false]⟩
    obtain ⟨part, lowered, parted⟩ := first
    exact ⟨part :: parts, by rw [parted, written, List.flatten_cons], .cons lowered each⟩

theorem length_le_lowerFrom (before cs : List Char) : cs.length ≤ (lowerFrom before cs).length := by
  obtain ⟨parts, written, each⟩ := lowerFrom_parts before cs
  rw [written]
  clear written
  induction each with
  | nil => exact Nat.le_refl 0
  | cons first _ ih =>
    rw [List.flatten_cons, List.length_append, List.length_cons]
    cases first <;> simp only [List.length_append, List.length_singleton] <;> omega

theorem reverse_prefix_parts {t cs : List Char} {parts : List (List Char)} (simple : ∀ c ∈ t, Simple c)
    (each : List.Forall₂ Lowered cs parts) :
    t <+: (parts.map List.reverse).flatten ↔ t <+: cs.map Char.toLower := by
  induction each generalizing t with
  | nil => rfl
  | @cons c part cs parts first _ ih =>
    cases t with
    | nil => exact iff_of_true List.nil_prefix List.nil_prefix
    | cons x t =>
      obtain ⟨hx, ht⟩ := List.forall_mem_cons.mp simple
      rw [List.map_cons, List.map_cons, List.flatten_cons]
      cases first with
      | letter h =>
        rw [List.reverse_singleton, List.singleton_append, List.cons_prefix_cons, List.cons_prefix_cons, ih ht]
      | other h front hl =>
        rw [List.reverse_append, List.reverse_singleton, List.singleton_append, List.cons_append,
          List.cons_prefix_cons, List.cons_prefix_cons, toLower_of_not_ascii h]
        refine iff_of_false ?_ ?_
        · rintro ⟨rfl, -⟩
          exact hl hx
        · rintro ⟨rfl, -⟩
          exact h hx.1

/-- Whether a text in lower case ends in simple characters can be told letter by letter. -/
theorem suffix_lowerFrom_iff {t : List Char} (simple : ∀ c ∈ t, Simple c) (before cs : List Char) :
    t <:+ lowerFrom before cs ↔ t <:+ cs.map Char.toLower := by
  obtain ⟨parts, written, each⟩ := lowerFrom_parts before cs
  rw [← List.reverse_prefix, ← List.reverse_prefix, written, List.reverse_flatten, ← List.map_reverse,
    ← List.map_reverse]
  exact reverse_prefix_parts (fun c hc => simple c (List.mem_reverse.mp hc)) (List.forall₂_reverse_iff.mpr each)

/-- A text has a lower-case form of simple characters exactly if it becomes that letter by letter. -/
theorem lowerFrom_eq_iff {t : List Char} (simple : ∀ c ∈ t, Simple c) (before cs : List Char) :
    lowerFrom before cs = t ↔ cs.map Char.toLower = t := by
  constructor
  · intro h
    have short := length_le_lowerFrom before cs
    have suffix := (suffix_lowerFrom_iff simple before cs).mp (h ▸ List.suffix_refl _)
    rw [h] at short
    exact (suffix.eq_of_length_le (by rwa [List.length_map])).symm
  · rintro rfl
    obtain ⟨parts, written, each⟩ := lowerFrom_parts before cs
    rw [written]
    clear written
    induction each with
    | nil => rfl
    | @cons c part cs parts first _ ih =>
      obtain ⟨hc, hcs⟩ := List.forall_mem_cons.mp simple
      rw [List.map_cons, List.flatten_cons, ih hcs]
      cases first with
      | letter => rfl
      | other h =>
        rw [toLower_of_not_ascii h] at hc
        exact absurd hc.1 h

theorem lower_eq_iff {t : String} (simple : ∀ c ∈ t.toList, Simple c) (s : String) :
    lower s = t ↔ s.toList.map Char.toLower = t.toList := by
  rw [← String.toList_inj, lower, String.toList_ofList, lowerFrom_eq_iff simple]

end ClusterMdns.Text
