import ClusterMdns.Dns.Name
import ClusterMdns.Proofs.Number.Decimal
import ClusterMdns.Proofs.Text.Fields
import Mathlib.Data.List.Basic

/-! Names of letters, digits and hyphens, as they stand in record lines: every label is followed by a dot.
Such a text is read as its labels, unless one of them is too long, and the name is written as it was read. -/

namespace ClusterMdns.Dns

/-- Letters, digits and hyphens of ASCII. -/
def isHostChar (c : Char) : Bool :=
  ('0' <= c && c <= '9') || ('a' <= c && c <= 'z') || ('A' <= c && c <= 'Z') || c == '-'

theorem toNat_of_isHostChar {c : Char} (h : isHostChar c = true) :
    c.toNat = 45 ∨ (48 ≤ c.toNat ∧ c.toNat ≤ 57) ∨ (65 ≤ c.toNat ∧ c.toNat ≤ 90) ∨
      (97 ≤ c.toNat ∧ c.toNat ≤ 122) := by
  simp only [isHostChar, Bool.or_eq_true, Bool.and_eq_true, decide_eq_true_eq, beq_iff_eq, Char.le_def,
    UInt32.le_iff_toNat_le] at h
  change (((48 ≤ c.toNat ∧ c.toNat ≤ 57) ∨ (97 ≤ c.toNat ∧ c.toNat ≤ 122)) ∨
    (65 ≤ c.toNat ∧ c.toNat ≤ 90)) ∨ c = '-' at h
  rcases h with ((h | h) | h) | rfl
  · omega
  · omega
  · omega
  · decide

theorem isHostChar_of_isDigit {c : Char} (h : c.isDigit = true) : isHostChar c = true := by
  obtain ⟨hlo, hhi⟩ := Number.toNat_of_isDigit h
  have digit : ('0' <= c && c <= '9') = true := by
    simp only [Bool.and_eq_true, decide_eq_true_eq, Char.le_def, UInt32.le_iff_toNat_le]
    exact ⟨hlo, hhi⟩
  simp only [isHostChar, digit, Bool.true_or]

theorem ne_of_isHostChar {c d : Char} (h : isHostChar c = true) (hd : isHostChar d = false) : c ≠ d := by
  rintro rfl
  rw [h] at hd
  cases hd

/-- `s` is these labels, each of which is followed by a dot. -/
structure Spells (labels : List (List Char)) (s : String) : Prop where
  chars : s.toList = labels.flatMap (· ++ ['.'])
  some_label : labels ≠ []
  label_ne_nil : ∀ label ∈ labels, label ≠ []
  host : ∀ label ∈ labels, ∀ c ∈ label, isHostChar c = true

theorem spells_label {s : String} (hne : s.toList ≠ []) (host : ∀ c ∈ s.toList, isHostChar c = true) :
    Spells [s.toList] (s ++ ".") where
  chars := by rw [String.toList_append, List.flatMap_singleton]; rfl
  some_label := List.cons_ne_nil _ _
  label_ne_nil := List.forall_mem_singleton.mpr hne
  host := List.forall_mem_singleton.mpr host

theorem spells_of_all {labels : List (List Char)} {s : String}
    (chars : s.toList = labels.flatMap (· ++ ['.'])) (some_label : labels ≠ [])
    (whole : labels.all (fun label => !label.isEmpty && label.all isHostChar) = true) : Spells labels s := by
  have each : ∀ label ∈ labels, label ≠ [] ∧ ∀ c ∈ label, isHostChar c = true := by
    simpa [List.all_eq_true] using whole
  exact ⟨chars, some_label, fun label h => (each label h).1, fun label h => (each label h).2⟩

namespace Spells

variable {labels more : List (List Char)} {s t : String}

theorem append (h : Spells labels s) (hm : Spells more t) : Spells (labels ++ more) (s ++ t) where
  chars := by rw [String.toList_append, h.chars, hm.chars, List.flatMap_append]
  some_label := List.append_ne_nil_of_left_ne_nil h.some_label _
  label_ne_nil := List.forall_mem_append.mpr ⟨h.label_ne_nil, hm.label_ne_nil⟩
  host := List.forall_mem_append.mpr ⟨h.host, hm.host⟩

theorem mem_cases (h : Spells labels s) {c : Char} (hc : c ∈ s.toList) :
    isHostChar c = true ∨ c = '.' := by
  rw [h.chars] at hc
  obtain ⟨label, hl, hc⟩ := List.mem_flatMap.mp hc
  rcases List.mem_append.mp hc with hc | hc
  · exact Or.inl (h.host label hl c hc)
  · exact Or.inr (List.mem_singleton.mp hc)

theorem head_host (h : Spells labels s) : ∃ c cs, s.toList = c :: cs ∧ isHostChar c = true := by
  have chars := h.chars
  have hne := h.label_ne_nil
  have host := h.host
  cases labels with
  | nil => exact absurd rfl h.some_label
  | cons label labels =>
    cases label with
    | nil => exact absurd rfl (hne [] List.mem_cons_self)
    | cons c cs =>
      exact ⟨c, _, chars, host _ List.mem_cons_self c List.mem_cons_self⟩

theorem pieces (h : Spells labels s) : Text.splitChars (· == '.') s.toList = labels ++ [[]] := by
  rw [h.chars]
  refine Text.splitChars_flatMap (fun label hl c hc => ?_) rfl
  exact beq_eq_false_iff_ne.mpr (ne_of_isHostChar (h.host label hl c hc) rfl)

theorem endsWith (h : Spells labels s) : Text.endsWith "." s = true := by
  obtain ⟨front, last, rfl⟩ := List.eq_nil_or_concat labels |>.resolve_left h.some_label
  rw [Text.endsWith, List.isSuffixOf_iff_suffix, h.chars, List.concat_eq_append, List.flatMap_append,
    List.flatMap_singleton, ← List.append_assoc]
  exact List.suffix_append _ _

end Spells

namespace Name

/-- The name with these labels. -/
def ofLabels (labels : List (List Char)) : Name :=
  labels.map fun label => label.map fun c => c.toNat.toUInt8

theorem unescape_of_forall {cs : List Char} (h : ∀ c ∈ cs, c ≠ '\\') : unescape 0 cs = cs := by
  induction cs with
  | nil => rfl
  | cons c cs ih =>
    obtain ⟨hc, hcs⟩ := List.forall_mem_cons.mp h
    simp only [unescape, beq_eq_false_iff_ne.mpr hc, ih hcs, Bool.false_eq_true, if_false]

theorem byteText_of_isHostChar {c : Char} (h : isHostChar c = true) : byteText c.toNat.toUInt8 = [c] := by
  have range := toNat_of_isHostChar h
  have small : c.toNat.toUInt8.toNat = c.toNat := by
    rw [Nat.toUInt8, UInt8.toNat_ofNat', Nat.mod_eq_of_lt (by omega)]
  have shown : (33 <= c.toNat && c.toNat < 127) = true := by
    simp only [Bool.and_eq_true, decide_eq_true_eq]
    omega
  simp only [byteText, small, shown, if_true, Char.ofNat_toNat]

variable {labels : List (List Char)} {s : String}

/-- A name is written as it was spelled. -/
theorem chars_ofLabels (h : Spells labels s) : (ofLabels labels).chars = s.toList := by
  have written : ∀ label ∈ labels, label.flatMap (fun c => byteText c.toNat.toUInt8) = label := by
    intro label hl
    have each : ∀ c ∈ label, byteText c.toNat.toUInt8 = [c] :=
      fun c hc => byteText_of_isHostChar (h.host label hl c hc)
    rw [List.flatMap_congr each, List.flatMap_singleton']
  have some_label : (ofLabels labels).isEmpty = false := by
    simpa [ofLabels] using h.some_label
  rw [chars, some_label, if_neg Bool.false_ne_true, h.chars, ofLabels, List.flatMap_map]
  refine List.flatMap_congr fun label hl => ?_
  rw [List.flatMap_map, written label hl]

theorem text_ofLabels (h : Spells labels s) : (ofLabels labels).text = s := by
  rw [text, chars_ofLabels h, String.ofList_toList]

theorem folded_ofLabels (h : Spells labels s) :
    (ofLabels labels).folded = String.ofList (s.toList.map Char.toLower) := by
  rw [folded, chars_ofLabels h]

/-- A spelled text is read as its labels, if none of them is too long. -/
theorem ofText?_of_spells (h : Spells labels s) :
    ofText? s = if labels.all isLabel then some (ofLabels labels) else none := by
  obtain ⟨c, cs, hs, hc⟩ := h.head_host
  have not_empty : (s == "") = false := by
    refine beq_eq_false_iff_ne.mpr fun heq => ?_
    rw [heq] at hs
    cases hs
  have not_dot : (s == ".") = false := by
    refine beq_eq_false_iff_ne.mpr fun heq => ?_
    rw [heq] at hs
    cases hs
    cases hc
  have plain : isPlain s.toList = true := by
    refine List.all_eq_true.mpr fun c hc => ?_
    rcases h.mem_cases hc with hc | rfl
    · have := toNat_of_isHostChar hc
      simp only [decide_eq_true_eq]
      omega
    · rfl
  have escapes : unescape 0 s.toList = s.toList := by
    refine unescape_of_forall fun c hc => ?_
    rcases h.mem_cases hc with hc | rfl
    · exact ne_of_isHostChar hc rfl
    · decide
  unfold ofText?
  simp only [not_empty, not_dot, escapes, plain, Bool.false_or, Bool.false_eq_true, if_false, if_true,
    ofPlain?, h.pieces, List.getLast?_concat, List.dropLast_concat, beq_self_eq_true, Bool.and_self]
  rfl

theorem below?_of_spells (h : Spells labels s) (origin : Name) :
    below? origin s = if labels.all isLabel then some (ofLabels labels) else none := by
  rw [below?, h.endsWith, if_pos rfl, ofText?_of_spells h]

end Name

end ClusterMdns.Dns
