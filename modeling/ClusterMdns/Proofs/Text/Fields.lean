import ClusterMdns.Text.Fields

/-! Cutting a text into pieces and putting it together. Pieces without the separator come back as they were,
whether the separators stand between them or behind each. -/

namespace ClusterMdns.Text

variable {p : Char → Bool} {cs rest : List Char} {c : Char}

theorem splitChars_separator (hc : p c = true) (cs : List Char) : splitChars p (c :: cs) = [] :: splitChars p cs :=
  if_pos hc

theorem splitChars_inner (hc : p c = false) {piece : List Char} {pieces : List (List Char)}
    (h : splitChars p cs = piece :: pieces) : splitChars p (c :: cs) = (c :: piece) :: pieces := by
  refine (if_neg (Bool.eq_false_iff.mp hc)).trans ?_
  rw [h]

theorem splitChars_ne_nil (cs : List Char) : splitChars p cs ≠ [] := by
  induction cs with
  | nil => exact List.cons_ne_nil _ _
  | cons c cs ih =>
    cases hc : p c with
    | true =>
      rw [splitChars_separator hc]
      exact List.cons_ne_nil _ _
    | false =>
      obtain ⟨piece, pieces, cut⟩ := List.exists_cons_of_ne_nil ih
      rw [splitChars_inner hc cut]
      exact List.cons_ne_nil _ _

/-- A separator cuts off an empty piece, and any other character belongs to the first piece of the rest. -/
theorem splitChars_cases (p : Char → Bool) (c : Char) (cs : List Char) :
    (p c = true ∧ splitChars p (c :: cs) = [] :: splitChars p cs) ∨
    ∃ piece pieces, p c = false ∧ splitChars p cs = piece :: pieces ∧
      splitChars p (c :: cs) = (c :: piece) :: pieces := by
  cases hc : p c with
  | true => exact .inl ⟨rfl, splitChars_separator hc cs⟩
  | false =>
    obtain ⟨piece, pieces, cut⟩ := List.exists_cons_of_ne_nil (splitChars_ne_nil (p := p) cs)
    exact .inr ⟨piece, pieces, rfl, cut, splitChars_inner hc cut⟩

theorem splitChars_single (h : ∀ c ∈ cs, p c = false) : splitChars p cs = [cs] := by
  induction cs with
  | nil => rfl
  | cons c cs ih =>
    obtain ⟨hc, hcs⟩ := List.forall_mem_cons.mp h
    exact splitChars_inner hc (ih hcs)

/-- A piece, a separator, and the pieces of the rest. -/
theorem splitChars_cons (h : ∀ c ∈ cs, p c = false) (hc : p c = true) :
    splitChars p (cs ++ c :: rest) = cs :: splitChars p rest := by
  induction cs with
  | nil => exact splitChars_separator hc rest
  | cons x xs ih =>
    obtain ⟨hx, hxs⟩ := List.forall_mem_cons.mp h
    exact splitChars_inner hx (ih hxs)

/-- Characters that are replaced by others leave the pieces where they were, if separators are told apart by
what replaces them. -/
theorem splitChars_map {f : Char → Char} (h : ∀ c, p (f c) = p c) (cs : List Char) :
    splitChars p (cs.map f) = (splitChars p cs).map (·.map f) := by
  induction cs with
  | nil => rfl
  | cons c cs ih =>
    rw [List.map_cons]
    rcases splitChars_cases p c cs with ⟨hc, cut⟩ | ⟨piece, pieces, hc, rest, cut⟩
    · rw [splitChars_separator ((h c).trans hc), cut, ih]
      rfl
    · rw [rest] at ih
      rw [splitChars_inner ((h c).trans hc) ih, cut]
      rfl

theorem mem_of_mem_splitChars {piece : List Char} (hp : piece ∈ splitChars p cs) {c : Char} (hc : c ∈ piece) :
    c ∈ cs := by
  induction cs generalizing piece with
  | nil => rwa [List.mem_singleton.mp hp] at hc
  | cons x cs ih =>
    rcases splitChars_cases p x cs with ⟨-, cut⟩ | ⟨first, pieces, -, rest, cut⟩
    · rw [cut] at hp
      rcases List.mem_cons.mp hp with rfl | hp
      · cases hc
      · exact List.mem_cons_of_mem _ (ih hp hc)
    · rw [cut] at hp
      rcases List.mem_cons.mp hp with rfl | hp
      · rcases List.mem_cons.mp hc with rfl | hc
        · exact List.mem_cons_self
        · exact List.mem_cons_of_mem _ (ih (rest ▸ List.mem_cons_self) hc)
      · exact List.mem_cons_of_mem _ (ih (rest ▸ List.mem_cons_of_mem _ hp) hc)

/-- No separator is in a piece. -/
theorem not_of_mem_splitChars {piece : List Char} (hp : piece ∈ splitChars p cs) {c : Char} (hc : c ∈ piece) :
    p c = false := by
  induction cs generalizing piece with
  | nil =>
    rw [List.mem_singleton.mp hp] at hc
    cases hc
  | cons x cs ih =>
    rcases splitChars_cases p x cs with ⟨-, cut⟩ | ⟨first, pieces, hx, rest, cut⟩
    · rw [cut] at hp
      rcases List.mem_cons.mp hp with rfl | hp
      · cases hc
      · exact ih hp hc
    · rw [cut] at hp
      rcases List.mem_cons.mp hp with rfl | hp
      · rcases List.mem_cons.mp hc with rfl | hc
        · exact hx
        · exact ih (rest ▸ List.mem_cons_self) hc
      · exact ih (rest ▸ List.mem_cons_of_mem _ hp) hc

/-- What is no separator is in a piece. -/
theorem exists_mem_splitChars {c : Char} (h : c ∈ cs) (hc : p c = false) : ∃ piece ∈ splitChars p cs, c ∈ piece := by
  induction cs with
  | nil => cases h
  | cons x cs ih =>
    rcases splitChars_cases p x cs with ⟨hx, cut⟩ | ⟨first, pieces, -, rest, cut⟩
    · rw [cut]
      rcases List.mem_cons.mp h with rfl | h
      · rw [hc] at hx
        cases hx
      · obtain ⟨piece, hp, hm⟩ := ih h
        exact ⟨piece, List.mem_cons_of_mem _ hp, hm⟩
    · rw [cut]
      rcases List.mem_cons.mp h with rfl | h
      · exact ⟨_, List.mem_cons_self, List.mem_cons_self⟩
      · obtain ⟨piece, hp, hm⟩ := ih h
        rw [rest] at hp
        rcases List.mem_cons.mp hp with rfl | hp
        · exact ⟨_, List.mem_cons_self, List.mem_cons_of_mem _ hm⟩
        · exact ⟨piece, List.mem_cons_of_mem _ hp, hm⟩

theorem splitOn_ne_nil (sep : Char) (s : String) : splitOn sep s ≠ [] :=
  fun none => splitChars_ne_nil _ (List.map_eq_nil_iff.mp none)

/-- The first piece begins where the text does. -/
theorem head?_of_splitChars {piece : List Char} {pieces : List (List Char)}
    (h : splitChars p cs = piece :: pieces) {c : Char} (hc : c ∈ piece.head?) : c ∈ cs.head? := by
  cases cs with
  | nil =>
    cases h
    cases hc
  | cons x cs =>
    rcases splitChars_cases p x cs with ⟨-, cut⟩ | ⟨first, others, -, -, cut⟩
    · cases cut.symm.trans h
      cases hc
    · cases cut.symm.trans h
      exact hc

/-- What stands before a separator and what stands behind it are cut on their own. -/
theorem splitChars_append (hc : p c = true) (cs rest : List Char) :
    splitChars p (cs ++ c :: rest) = splitChars p cs ++ splitChars p rest := by
  induction cs with
  | nil => exact splitChars_separator hc rest
  | cons x cs ih =>
    rw [List.cons_append]
    rcases splitChars_cases p x cs with ⟨hx, cut⟩ | ⟨piece, pieces, hx, first, cut⟩
    · rw [splitChars_separator hx, cut, ih]
      rfl
    · rw [first] at ih
      rw [splitChars_inner hx ih, cut]
      rfl

/-- A separator at the end leaves an empty piece behind it. -/
theorem splitChars_concat (hc : p c = true) (cs : List Char) :
    splitChars p (cs ++ [c]) = splitChars p cs ++ [[]] :=
  splitChars_append hc cs []

theorem splitChars_replicate (hc : p c = true) (n : Nat) (cs : List Char) :
    splitChars p (List.replicate n c ++ cs) = List.replicate n [] ++ splitChars p cs := by
  induction n with
  | zero => rfl
  | succ n ih => rw [List.replicate_succ, List.cons_append, splitChars_separator hc, ih, List.replicate_succ,
      List.cons_append]

/-- Separators behind each piece leave an empty piece at the end. -/
theorem splitChars_flatMap {pieces : List (List Char)} (h : ∀ cs ∈ pieces, ∀ c ∈ cs, p c = false)
    (hc : p c = true) : splitChars p (pieces.flatMap (· ++ [c])) = pieces ++ [[]] := by
  induction pieces with
  | nil => rfl
  | cons cs pieces ih =>
    obtain ⟨hcs, hp⟩ := List.forall_mem_cons.mp h
    rw [List.flatMap_cons, List.append_assoc, List.singleton_append, splitChars_cons hcs hc, ih hp]
    rfl

/-- Separators between the pieces. -/
theorem splitChars_joinChars {pieces : List (List Char)} (hne : pieces ≠ [])
    (h : ∀ cs ∈ pieces, ∀ c ∈ cs, p c = false) (hc : p c = true) :
    splitChars p (joinChars [c] pieces) = pieces := by
  induction pieces with
  | nil => exact absurd rfl hne
  | cons cs pieces ih =>
    obtain ⟨hcs, hp⟩ := List.forall_mem_cons.mp h
    cases pieces with
    | nil => exact splitChars_single hcs
    | cons next pieces =>
      have step : joinChars [c] (cs :: next :: pieces) = cs ++ c :: joinChars [c] (next :: pieces) :=
        List.append_assoc _ _ _
      rw [step, splitChars_cons hcs hc, ih (List.cons_ne_nil _ _) hp]

/-- The pieces of a text with the separator between them are the text. -/
theorem joinChars_splitChars (c : Char) (cs : List Char) : joinChars [c] (splitChars (· == c) cs) = cs := by
  induction cs with
  | nil => rfl
  | cons x cs ih =>
    rcases splitChars_cases (· == c) x cs with ⟨hx, cut⟩ | ⟨piece, pieces, -, rest, cut⟩
    · obtain ⟨piece, pieces, rest⟩ := List.exists_cons_of_ne_nil (splitChars_ne_nil (p := (· == c)) cs)
      rw [cut, eq_of_beq hx, ← congrArg (c :: ·) ih, rest]
      rfl
    · rw [cut, ← congrArg (x :: ·) ih, rest]
      cases pieces <;> rfl

theorem joinChars_cons (sep cs : List Char) (pieces : List (List Char)) :
    ∃ tail, joinChars sep (cs :: pieces) = cs ++ tail := by
  cases pieces with
  | nil => exact ⟨[], (List.append_nil cs).symm⟩
  | cons next pieces => exact ⟨sep ++ joinChars sep (next :: pieces), List.append_assoc _ _ _⟩

theorem joinChars_map (f : Char → Char) (sep : List Char) (pieces : List (List Char)) :
    joinChars (sep.map f) (pieces.map (·.map f)) = (joinChars sep pieces).map f := by
  induction pieces with
  | nil => rfl
  | cons piece pieces ih =>
    cases pieces with
    | nil => rfl
    | cons next pieces =>
      change piece.map f ++ sep.map f ++ joinChars (sep.map f) ((next :: pieces).map _) =
        (piece ++ sep ++ joinChars sep (next :: pieces)).map f
      rw [ih, List.map_append, List.map_append]

/-- Every character comes from a separator or a piece. -/
theorem mem_joinChars {sep : List Char} {pieces : List (List Char)} (h : c ∈ joinChars sep pieces) :
    c ∈ sep ∨ ∃ cs ∈ pieces, c ∈ cs := by
  induction pieces with
  | nil => cases h
  | cons cs pieces ih =>
    cases pieces with
    | nil => exact Or.inr ⟨cs, List.mem_cons_self, h⟩
    | cons next pieces =>
      rcases List.mem_append.mp h with h | h
      · rcases List.mem_append.mp h with h | h
        · exact Or.inr ⟨cs, List.mem_cons_self, h⟩
        · exact Or.inl h
      · rcases ih h with h | ⟨found, hf, hc⟩
        · exact Or.inl h
        · exact Or.inr ⟨found, List.mem_cons_of_mem _ hf, hc⟩

/-- With an empty piece at the end, a separator stands behind each of the others. -/
theorem joinChars_concat_nil (sep : List Char) (pieces : List (List Char)) :
    joinChars sep (pieces ++ [[]]) = pieces.flatMap (· ++ sep) := by
  induction pieces with
  | nil => rfl
  | cons cs pieces ih =>
    cases pieces with
    | nil => exact (List.append_nil _).trans (List.append_nil _).symm
    | cons next pieces =>
      have step : joinChars sep (cs :: next :: pieces ++ [[]]) =
          cs ++ sep ++ joinChars sep (next :: pieces ++ [[]]) := rfl
      rw [step, ih]
      rfl

theorem toList_join (sep : String) (ss : List String) :
    (join sep ss).toList = joinChars sep.toList (ss.map String.toList) := by
  induction ss with
  | nil => rfl
  | cons s ss ih =>
    cases ss with
    | nil => rfl
    | cons t ss =>
      have step : join sep (s :: t :: ss) = s ++ sep ++ join sep (t :: ss) := rfl
      rw [step, String.toList_append, String.toList_append, ih]
      rfl

theorem endsWith_dot_iff (s : String) : endsWith "." s = true ↔ s.toList.getLast? = some '.' := by
  rw [endsWith, List.isSuffixOf_iff_suffix, List.getLast?_eq_some_iff]
  exact exists_congr fun front => eq_comm

end ClusterMdns.Text
