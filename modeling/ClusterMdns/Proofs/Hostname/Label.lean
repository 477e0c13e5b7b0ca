import ClusterMdns.Proofs.Hostname
import ClusterMdns.Proofs.Text.Fields
import Mathlib.Data.Bool.AllAny
import Mathlib.Data.List.Basic

/-! Labels of host names, and what the check of names takes for one. It does not look at a line feed at the end
of a label, and it reads four letters beyond ASCII as an i, an s or a k; but for these five characters it accepts
host names and nothing else. -/

namespace ClusterMdns.Hostname

/-- A label of a host name: 1 to 63 letters, digits and hyphens of ASCII with no hyphen at either end. -/
structure ProperLabel (cs : List Char) : Prop where
  some_char : 1 ≤ cs.length
  short : cs.length ≤ 63
  plain : ∀ c ∈ cs, c.isAlphanum = true ∨ c = '-'
  head_ne : cs.head? ≠ some '-'
  last_ne : cs.getLast? ≠ some '-'

/-- A name that consists of such labels. -/
def Proper (name : String) : Prop :=
  ∀ label ∈ Text.splitOn '.' name, ProperLabel label.toList

theorem properLabel_iff (cs : List Char) :
    ProperLabel cs ↔ cs.length ≤ 63 ∧ (∀ c ∈ cs, c.isAlphanum = true ∨ c = '-') ∧
      cs.head?.any Char.isAlphanum = true ∧ cs.getLast?.any Char.isAlphanum = true := by
  have hyphen : ('-' : Char).isAlphanum = false := by decide
  have ends {found : Option Char} (h : ∀ c ∈ found, c.isAlphanum = true ∨ c = '-') :
      found.any Char.isAlphanum = true ↔ found ≠ none ∧ found ≠ some '-' := by
    cases found with
    | none => simp
    | some c =>
      rcases h c rfl with hc | rfl
      · have other : c ≠ '-' := by
          rintro rfl
          rw [hyphen] at hc
          cases hc
        simp [hc, other]
      · simp [hyphen]
  constructor
  · rintro ⟨some_char, short, plain, head_ne, last_ne⟩
    have hne := List.ne_nil_of_length_pos some_char
    refine ⟨short, plain, (ends fun c hc => plain c (List.mem_of_head? hc)).mpr ⟨?_, head_ne⟩,
      (ends fun c hc => plain c (List.mem_of_getLast? hc)).mpr ⟨?_, last_ne⟩⟩
    · exact mt List.head?_eq_none_iff.mp hne
    · exact mt List.getLast?_eq_none_iff.mp hne
  · rintro ⟨short, plain, head, last⟩
    obtain ⟨some_head, head_ne⟩ := (ends fun c hc => plain c (List.mem_of_head? hc)).mp head
    obtain ⟨-, last_ne⟩ := (ends fun c hc => plain c (List.mem_of_getLast? hc)).mp last
    exact ⟨List.length_pos_iff.mpr (mt List.head?_eq_none_iff.mpr some_head), short, plain, head_ne, last_ne⟩

instance (cs : List Char) : Decidable (ProperLabel cs) :=
  decidable_of_iff (cs.length ≤ 63 ∧ cs.all (fun c => c.isAlphanum || c == '-') = true ∧
      cs.head?.any Char.isAlphanum = true ∧ cs.getLast?.any Char.isAlphanum = true)
    (by simp only [properLabel_iff, List.all_eq_true, Bool.or_eq_true, beq_iff_eq])

instance (name : String) : Decidable (Proper name) :=
  inferInstanceAs (Decidable (∀ label ∈ Text.splitOn '.' name, ProperLabel label.toList))

/-! ### What the check sees -/

/-- Characters of no host name that the check lets pass: a line feed at the end of a label, a capital I with a
dot, a small i without one, a long s, and the sign for Kelvin. -/
def misread : List Char :=
  ['\n', Char.ofNat 0x130, Char.ofNat 0x131, Char.ofNat 0x17F, Char.ofNat 0x212A]

/-- The letter that a character is taken for. -/
def asRead (c : Char) : Char :=
  if c.toNat = 0x130 ∨ c.toNat = 0x131 then 'i'
  else if c.toNat = 0x17F then 's'
  else if c.toNat = 0x212A then 'k'
  else c

/-- What the check sees of a label. -/
def seen (label : List Char) : List Char :=
  (withoutLineEnd label).map asRead

/-- A character is taken for another, or for itself. -/
theorem asRead_cases (c : Char) :
    (c ∈ misread ∧ isAlphanumeric c = true ∧ (asRead c).isAlphanum = true ∧ c ≠ '-' ∧ asRead c ≠ '-') ∨
      asRead c = c ∧ isAlphanumeric c = c.isAlphanum := by
  by_cases special : c.toNat ∈ [0x130, 0x131, 0x17F, 0x212A]
  · have each : ∀ n ∈ [0x130, 0x131, 0x17F, 0x212A], Char.ofNat n ∈ misread ∧
        isAlphanumeric (Char.ofNat n) = true ∧ (asRead (Char.ofNat n)).isAlphanum = true ∧
        Char.ofNat n ≠ '-' ∧ asRead (Char.ofNat n) ≠ '-' := by decide
    have found := each c.toNat special
    rw [Char.ofNat_toNat] at found
    exact Or.inl found
  · have others : [0x130, 0x131, 0x17F, 0x212A].contains c.toNat = false := by simpa using special
    have itself : asRead c = c := by
      simp only [List.mem_cons, List.not_mem_nil, or_false, not_or] at special
      obtain ⟨capital, dotless, long, kelvin⟩ := special
      rw [asRead, if_neg (by omega), if_neg long, if_neg kelvin]
    refine Or.inr ⟨itself, ?_⟩
    have upper : c.isUpper = (decide ('A' ≤ c) && decide (c ≤ 'Z')) := Bool.decide_and _ _
    have ascii : c.isAlphanum = (decide ('A' ≤ c) && decide (c ≤ 'Z') || decide ('a' ≤ c) && decide (c ≤ 'z') ||
        decide ('0' ≤ c) && decide (c ≤ '9')) := congrArg (· || c.isLower || c.isDigit) upper
    rw [isAlphanumeric, others, Bool.or_false, ascii]
    ac_rfl

theorem isAlphanumeric_eq (c : Char) : isAlphanumeric c = (asRead c).isAlphanum := by
  rcases asRead_cases c with ⟨-, passes, letter, -⟩ | ⟨itself, same⟩
  · rw [passes, letter]
  · rw [itself, same]

theorem asRead_eq_hyphen_iff (c : Char) : asRead c = '-' ↔ c = '-' := by
  rcases asRead_cases c with ⟨-, -, -, other, letter⟩ | ⟨itself, -⟩
  · exact iff_of_false letter other
  · rw [itself]

/-- A label passes exactly if what is seen of it is one. -/
theorem isLabel_iff_seen (label : List Char) : isLabel label = true ↔ ProperLabel (seen label) := by
  have any (found : Option Char) : (found.map asRead).any Char.isAlphanum = found.any isAlphanumeric := by
    simp only [Option.any_map, ← isAlphanumeric_eq]
  rw [properLabel_iff, seen, List.length_map, List.head?_map, List.getLast?_map, any, any]
  simp only [isLabel, Bool.and_eq_true, decide_eq_true_eq, List.all_eq_true, Bool.or_eq_true, beq_iff_eq,
    List.forall_mem_map, isAlphanumeric_eq, asRead_eq_hyphen_iff, and_assoc]

/-- A label of a host name is seen as it is. -/
theorem seen_eq_self {label : List Char} (h : ∀ c ∈ label, c ∉ misread) : seen label = label := by
  have whole : withoutLineEnd label = label := by
    refine if_neg fun last => ?_
    exact h _ (List.mem_of_getLast? (eq_of_beq last)) List.mem_cons_self
  rw [seen, whole]
  refine (List.map_congr_left fun c hc => ?_).trans (List.map_id _)
  rcases asRead_cases c with ⟨found, -⟩ | ⟨itself, -⟩
  · exact absurd found (h c hc)
  · exact itself

theorem ProperLabel.not_misread {label : List Char} (h : ProperLabel label) : ∀ c ∈ label, c ∉ misread := by
  have none_plain : ∀ c ∈ misread, ¬ (c.isAlphanum = true ∨ c = '-') :=
    List.all_iff_forall_prop.mp (by decide)
  exact fun c hc found => none_plain c found (h.plain c hc)

/-- The labels of host names are those that pass and hold none of the five characters. -/
theorem properLabel_iff_isLabel (label : List Char) :
    ProperLabel label ↔ isLabel label = true ∧ ∀ c ∈ label, c ∉ misread := by
  rw [isLabel_iff_seen]
  constructor
  · intro h
    rw [seen_eq_self h.not_misread]
    exact ⟨h, h.not_misread⟩
  · rintro ⟨passes, fine⟩
    rwa [seen_eq_self fine] at passes

theorem mem_withoutLineEnd {label : List Char} {c : Char} (h : c ∈ label) :
    c ∈ withoutLineEnd label ∨ c = '\n' := by
  unfold withoutLineEnd
  split
  · rename_i last
    rw [← List.dropLast_append_getLast? '\n' (eq_of_beq last)] at h
    exact (List.mem_append.mp h).imp_right List.mem_singleton.mp
  · exact Or.inl h

/-- Nothing else gets into a label. -/
theorem char_of_isLabel {label : List Char} (h : isLabel label = true) {c : Char} (hc : c ∈ label) :
    c.isAlphanum = true ∨ c = '-' ∨ c ∈ misread := by
  rcases mem_withoutLineEnd hc with hc | rfl
  · rcases asRead_cases c with ⟨found, -⟩ | ⟨itself, -⟩
    · exact Or.inr (Or.inr found)
    · have plain := ((isLabel_iff_seen label).mp h).plain _ (List.mem_map_of_mem hc)
      rw [itself] at plain
      exact plain.imp_right Or.inl
  · exact Or.inr (Or.inr List.mem_cons_self)

/-! ### Names -/

/-- A character of a name is a dot or stands in one of its labels. -/
theorem mem_name {name : String} {c : Char} (h : c ∈ name.toList) :
    c = '.' ∨ ∃ label ∈ Text.splitOn '.' name, c ∈ label.toList := by
  by_cases dot : c = '.'
  · exact Or.inl dot
  · obtain ⟨piece, hp, hc⟩ := Text.exists_mem_splitChars (p := (· == '.')) h (beq_eq_false_iff_ne.mpr dot)
    exact Or.inr ⟨_, List.mem_map_of_mem hp, by rwa [String.toList_ofList]⟩

theorem mem_of_label {name label : String} (h : label ∈ Text.splitOn '.' name) {c : Char}
    (hc : c ∈ label.toList) : c ∈ name.toList := by
  obtain ⟨piece, hp, rfl⟩ := List.mem_map.mp h
  rw [String.toList_ofList] at hc
  exact Text.mem_of_mem_splitChars hp hc

theorem proper_iff (name : String) :
    Proper name ↔ validate name = .ok name ∧ ∀ c ∈ name.toList, c ∉ misread := by
  have no_dot : '.' ∉ misread := by decide
  rw [validate_eq_ok_iff]
  constructor
  · intro proper
    have each := fun label hl => (properLabel_iff_isLabel _).mp (proper label hl)
    refine ⟨⟨rfl, fun label hl => (each label hl).1⟩, fun c hc => ?_⟩
    rcases mem_name hc with rfl | ⟨label, hl, hc⟩
    · exact no_dot
    · exact (each label hl).2 c hc
  · rintro ⟨⟨-, passes⟩, fine⟩ label hl
    exact (properLabel_iff_isLabel _).mpr ⟨passes label hl, fun c hc => fine c (mem_of_label hl hc)⟩

/-- A name is accepted, and given back as it is, exactly if what is seen of its labels are labels of host names.
It is a host name exactly if it holds none of the five characters besides. Nothing but these five can get into a
name that is none, and all this holds of the names taken from hosts as well. -/
theorem accepted_names (name : String) :
    (∀ out, validate name = .ok out ↔
      out = name ∧ ∀ label ∈ Text.splitOn '.' name, ProperLabel (seen label.toList)) ∧
    (Proper name ↔ validate name = .ok name ∧ ∀ c ∈ name.toList, c ∉ misread) ∧
    (validate name = .ok name →
      ∀ c ∈ name.toList, c.isAlphanum = true ∨ c = '-' ∨ c = '.' ∨ c ∈ misread) ∧
    ∀ host, ofLocalHost host = .ok name →
      validate name = .ok name ∧ (Proper name ↔ ∀ c ∈ name.toList, c ∉ misread) := by
  refine ⟨fun out => ?_, proper_iff name, fun accepted c hc => ?_, fun host taken => ?_⟩
  · simp only [validate_eq_ok_iff, isLabel_iff_seen]
  · have passes := (validate_eq_ok_iff.mp accepted).2
    rcases mem_name hc with rfl | ⟨label, hl, hc⟩
    · exact Or.inr (Or.inr (Or.inl rfl))
    · rcases char_of_isLabel (passes label hl) hc with letter | hyphen | found
      · exact Or.inl letter
      · exact Or.inr (Or.inl hyphen)
      · exact Or.inr (Or.inr (Or.inr found))
  · have accepted := validate_ofLocalHost taken
    exact ⟨accepted, (proper_iff name).trans (and_iff_right accepted)⟩

/-- A name of two labels, taken from a host in capital letters. -/
theorem accepted_names_api :
    validate "Api.web-1" = .ok "Api.web-1" ∧ ofLocalHost " Api.web-1.LOCAL. " = .ok "Api.web-1" ∧
      Proper "Api.web-1" := by
  obtain ⟨-, -, -, hosts⟩ := accepted_names "Api.web-1"
  have taken : ofLocalHost " Api.web-1.LOCAL. " = .ok "Api.web-1" := rfl
  obtain ⟨accepted, proper⟩ := hosts _ taken
  exact ⟨accepted, taken, proper.mpr (List.all_iff_forall_prop.mp (by decide))⟩

/-- A line feed at the end of a label is accepted, also in a host, and so is the sign for Kelvin. -/
theorem line_end_accepted :
    validate "web\n" = .ok "web\n" ∧ ofLocalHost "web\n.local" = .ok "web\n" ∧ ¬ Proper "web\n" ∧
      validate (String.singleton (Char.ofNat 0x212A)) = .ok (String.singleton (Char.ofNat 0x212A)) ∧
      ¬ Proper (String.singleton (Char.ofNat 0x212A)) :=
  ⟨rfl, rfl, by decide, rfl, by decide⟩

end ClusterMdns.Hostname
