import ClusterMdns.Proofs.Dns.NameText

/-! A number that is written in hexadecimal digits is read back. -/

namespace ClusterMdns.Number

/-- The digits of a number in base 16, with no zero ahead of others. -/
structure Hexadecimal (ds : List Nat) (n : Nat) : Prop where
  value : ofDigits 16 ds = n
  small : ∀ d ∈ ds, d < 16
  some_digit : ds ≠ []
  ahead : ds.head? = some 0 → ds = [0]

theorem ofDigits_concat (base : Nat) (ds : List Nat) (d : Nat) :
    ofDigits base (ds ++ [d]) = ofDigits base ds * base + d := by
  rw [ofDigits, ofDigits, List.foldl_append]
  rfl

theorem toDigits_hexadecimal (n : Nat) :
    ∃ ds, Hexadecimal ds n ∧ Nat.toDigits 16 n = ds.map Nat.digitChar := by
  induction n using Nat.strongRecOn with
  | ind n ih =>
    by_cases h : n < 16
    · refine ⟨[n], ⟨Nat.zero_add n, ?_, List.cons_ne_nil _ _, ?_⟩, Nat.toDigits_of_lt_base h⟩
      · exact List.forall_mem_singleton.mpr h
      · rintro ⟨⟩
        rfl
    · obtain ⟨ds, hd, written⟩ := ih (n / 16) (by omega)
      have more : ds.head? ≠ some 0 := by
        intro zero
        have value := hd.value
        rw [hd.ahead zero, ofDigits, List.foldl_cons, List.foldl_nil] at value
        omega
      obtain ⟨first, rest, hds⟩ := List.exists_cons_of_ne_nil hd.some_digit
      refine ⟨ds ++ [n % 16], ⟨?_, ?_, by simp, ?_⟩, ?_⟩
      · rw [ofDigits_concat, hd.value]
        omega
      · exact List.forall_mem_append.mpr ⟨hd.small, List.forall_mem_singleton.mpr (by omega)⟩
      · intro zero
        rw [hds, List.cons_append, List.head?_cons] at zero
        rw [hds, List.head?_cons] at more
        exact absurd zero more
      · rw [Nat.toDigits_of_base_le (by decide) (Nat.not_lt.mp h), written, List.map_append]
        rfl

/-- A digit is read as what it is worth, and is nothing that may stand before or between digits. -/
theorem digitChar_facts : ∀ d < 16, digitValue? 16 (Nat.digitChar d) = some d ∧
    isBlank (Nat.digitChar d) = false ∧ Dns.isHostChar (Nat.digitChar d) = true ∧
    Nat.digitChar d ≠ '_' ∧ Nat.digitChar d ≠ '-' := by
  decide

variable {ds : List Nat}

theorem digitsOf?_digitChar (h : ∀ d ∈ ds, d < 16) {afterDigit : Bool} (hd : afterDigit = true ∨ ds ≠ []) :
    digitsOf? 16 afterDigit (ds.map Nat.digitChar) = some ds := by
  induction ds generalizing afterDigit with
  | nil => simp [digitsOf?, hd.resolve_right fun h => h rfl]
  | cons d ds ih =>
    obtain ⟨hd, hds⟩ := List.forall_mem_cons.mp h
    obtain ⟨value, -, -, mark, -⟩ := digitChar_facts d hd
    simp only [List.map_cons, digitsOf?, beq_eq_false_iff_ne.mpr mark, value, ih hds (Or.inl rfl),
      Bool.false_eq_true, if_false, Option.map_some]

theorem readNatIn?_hexadecimal {n : Nat} (h : Hexadecimal ds n) :
    readNatIn? 16 'x' (ds.map Nat.digitChar) = some n := by
  have digits : digitsOf? 16 false (ds.map Nat.digitChar) = some ds :=
    digitsOf?_digitChar h.small (Or.inr h.some_digit)
  unfold readNatIn?
  split
  · rename_i mark rest heq
    obtain ⟨d, more, rfl, zero, hmore⟩ := List.map_eq_cons_iff.mp heq
    have lead : d = 0 := Nat.digitChar_eq_zero.mp zero
    have alone := h.ahead (by rw [lead]; rfl)
    rw [(List.cons.inj alone).2] at hmore
    cases hmore
  · rw [digits, Option.map_some, h.value]

theorem readIntIn?_hexadecimal {n : Nat} (h : Hexadecimal ds n) :
    readIntIn? 16 'x' (ds.map Nat.digitChar) = some (n : Int) := by
  have digit {c : Char} (hc : c ∈ ds.map Nat.digitChar) : ∃ d < 16, c = Nat.digitChar d := by
    obtain ⟨d, hd, rfl⟩ := List.mem_map.mp hc
    exact ⟨d, h.small d hd, rfl⟩
  have trimmed : trimBlanks (ds.map Nat.digitChar) = ds.map Nat.digitChar := by
    refine trimBlanks_of_forall fun c hc => ?_
    obtain ⟨d, hd, rfl⟩ := digit hc
    exact (digitChar_facts d hd).2.1
  unfold readIntIn? readSigned?
  rw [trimmed]
  split
  · rename_i heq
    obtain ⟨d, hd, hc⟩ := digit (heq ▸ List.mem_cons_self)
    exact absurd hc.symm (digitChar_facts d hd).2.2.2.2
  · rename_i heq
    obtain ⟨d, hd, hc⟩ := digit (heq ▸ List.mem_cons_self)
    have host := (digitChar_facts d hd).2.2.1
    rw [← hc] at host
    cases host
  · rw [readNatIn?_hexadecimal h]
    rfl

end ClusterMdns.Number
