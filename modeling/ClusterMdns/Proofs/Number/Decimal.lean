import ClusterMdns.Number.Decimal
import Mathlib.Data.Nat.Digits.Defs

/-! A number that is written is read back, if it does not have more digits than may be read. -/

namespace ClusterMdns.Number

variable {c : Char} {cs : List Char}

theorem toNat_of_isDigit (h : c.isDigit = true) : 48 ≤ c.toNat ∧ c.toNat ≤ 57 := by
  simp only [Char.isDigit, Bool.and_eq_true, decide_eq_true_eq, ge_iff_le, UInt32.le_iff_toNat_le] at h
  exact h

/-- The digits of ASCII come first among those of all scripts. -/
theorem digitValue?_of_isDigit (h : c.isDigit = true) : Text.digitValue? c = some (c.toNat - 48) := by
  obtain ⟨hlo, hhi⟩ := toNat_of_isDigit h
  have first : Text.zeroDigits.find? (fun z => z <= c.toNat && c.toNat < z + 10) = some 48 := by
    unfold Text.zeroDigits
    refine List.find?_cons_of_pos ?_
    simp only [Bool.and_eq_true, decide_eq_true_eq]
    omega
  rw [Text.digitValue?, first]
  rfl

theorem digitsOf?_of_isDigit (h : ∀ c ∈ cs, c.isDigit = true) {afterDigit : Bool}
    (hd : afterDigit = true ∨ cs ≠ []) :
    digitsOf? 10 afterDigit cs = some (cs.map (·.toNat - 48)) := by
  induction cs generalizing afterDigit with
  | nil => simp [digitsOf?, hd.resolve_right (fun h => h rfl)]
  | cons c cs ih =>
    obtain ⟨hc, hcs⟩ := List.forall_mem_cons.mp h
    obtain ⟨hlo, hhi⟩ := toNat_of_isDigit hc
    have mark : (c == '_') = false := by
      simp only [beq_eq_false_iff_ne, ne_eq]
      rintro rfl
      revert hhi
      decide
    have value : digitValue? 10 c = some (c.toNat - 48) := by
      simp only [digitValue?, digitValue?_of_isDigit hc, Option.orElse_some, Option.bind_eq_bind,
        Option.bind_some]
      exact if_pos (by omega)
    simp only [digitsOf?, mark, value, ih hcs (Or.inl rfl), Bool.false_eq_true, if_false, Option.map_some,
      List.map_cons]

theorem ofDigits_map (cs : List Char) (n : Nat) :
    (cs.map (·.toNat - 48)).foldl (fun acc d => acc * 10 + d) n = Nat.ofDigitChars 10 cs n := by
  induction cs generalizing n with
  | nil => rfl
  | cons c cs ih =>
    rw [List.map_cons, List.foldl_cons, ih, Nat.ofDigitChars_cons, Nat.mul_comm]
    rfl

theorem isDigit_of_mem_natText {n : Nat} (h : c ∈ (natText n).toList) : c.isDigit = true := by
  rw [natText, String.toList_ofList] at h
  exact Nat.isDigit_of_mem_toDigits (by decide) (by decide) h

theorem natText_ne_nil (n : Nat) : (natText n).toList ≠ [] := by
  rw [natText, String.toList_ofList]
  exact Nat.toDigits_ne_nil

theorem digitsOf?_natText (n : Nat) :
    digitsOf? 10 false (natText n).toList = some ((natText n).toList.map (·.toNat - 48)) :=
  digitsOf?_of_isDigit (fun _ => isDigit_of_mem_natText) (Or.inr (natText_ne_nil n))

theorem length_natText_le_iff (n : Nat) :
    ((natText n).toList.map (·.toNat - 48)).length ≤ digitLimit ↔ n < 10 ^ digitLimit := by
  rw [List.length_map, natText, String.toList_ofList]
  exact Nat.length_toDigits_le_iff (by decide) (by decide)

theorem readNat?_natText {n : Nat} (h : n < 10 ^ digitLimit) : readNat? (natText n).toList = some n := by
  have short := (length_natText_le_iff n).mpr h
  simp only [readNat?, digitsOf?_natText, short, if_true, ofDigits, ofDigits_map, Option.some.injEq]
  rw [natText, String.toList_ofList, Nat.ofDigitChars_ten_toDigits]

theorem readNat?_natText_of_long {n : Nat} (h : ¬ n < 10 ^ digitLimit) :
    readNat? (natText n).toList = none := by
  have long := mt (length_natText_le_iff n).mp h
  simp only [readNat?, digitsOf?_natText, long, if_false]

/-! ### With a sign -/

theorem isBlank_of_isDigit (h : c.isDigit = true) : isBlank c = false := by
  obtain ⟨hlo, hhi⟩ := toNat_of_isDigit h
  simp only [isBlank, Text.isBlank, Bool.and_eq_false_iff, Bool.or_eq_false_iff, decide_eq_false_iff_not,
    beq_eq_false_iff_ne]
  left
  omega

theorem trimBlanks_of_forall (h : ∀ c ∈ cs, isBlank c = false) : trimBlanks cs = cs := by
  have keep : ∀ {xs : List Char}, (∀ c ∈ xs, isBlank c = false) → xs.dropWhile isBlank = xs := by
    intro xs hx
    cases xs with
    | nil => rfl
    | cons x xs => exact List.dropWhile_cons_of_neg (by simp [hx x List.mem_cons_self])
  rw [trimBlanks, Text.dropTrailing, keep h, keep (fun c hc => h c (List.mem_reverse.mp hc)),
    List.reverse_reverse]

/-- Digits alone have neither a sign nor blanks around them. -/
theorem readInt?_natText_eq (n : Nat) :
    readInt? (natText n) = (readNat? (natText n).toList).map Int.ofNat := by
  have digits : ∀ c ∈ (natText n).toList, c.isDigit = true := fun _ => isDigit_of_mem_natText
  unfold readInt? readSigned?
  rw [trimBlanks_of_forall fun c hc => isBlank_of_isDigit (digits c hc)]
  split
  · rename_i heq
    exact absurd (digits '-' (by rw [heq]; exact List.mem_cons_self)) (by decide)
  · rename_i heq
    exact absurd (digits '+' (by rw [heq]; exact List.mem_cons_self)) (by decide)
  · rfl

theorem readInt?_natText {n : Nat} (h : n < 10 ^ digitLimit) : readInt? (natText n) = some (n : Int) := by
  rw [readInt?_natText_eq, readNat?_natText h]
  rfl

/-- A number below zero is written with a sign, which is read before the digits. -/
theorem readInt?_intText {n : Int} (h : n.natAbs < 10 ^ digitLimit) : readInt? (intText n) = some n := by
  by_cases negative : n < 0
  · have digits : ∀ c ∈ (natText n.natAbs).toList, c.isDigit = true := fun _ => isDigit_of_mem_natText
    have signed : (intText n).toList = '-' :: (natText n.natAbs).toList := by
      rw [intText, if_pos negative, String.toList_append]
      rfl
    have blanks : ∀ c ∈ '-' :: (natText n.natAbs).toList, isBlank c = false := by
      refine List.forall_mem_cons.mpr ⟨by decide, ?_⟩
      intro c hc
      exact isBlank_of_isDigit (digits c hc)
    have value : -(n.natAbs : Int) = n := by omega
    simp only [readInt?, readSigned?, signed, trimBlanks_of_forall blanks, readNat?_natText h]
    exact congrArg some value
  · have value : (n.natAbs : Int) = n := by omega
    rw [intText, if_neg negative, readInt?_natText h, value]

/-- A number that is read from digits is the one that they were written for. -/
theorem eq_of_readInt?_natText {n : Nat} {m : Int} (h : readInt? (natText n) = some m) : m = n := by
  by_cases short : n < 10 ^ digitLimit
  · rw [readInt?_natText short, Option.some.injEq] at h
    exact h.symm
  · rw [readInt?_natText_eq, readNat?_natText_of_long short] at h
    cases h

end ClusterMdns.Number
