import ClusterMdns.Proofs.Dns.Entries
import ClusterMdns.Proofs.Dns.NameText

/-! A zone line of plain words with a blank between any two of them is read as the record of these words. -/

namespace ClusterMdns.Dns.Zone

/-- What the words of a record line consist of. -/
def isBare (c : Char) : Bool :=
  isHostChar c || c == '.' || c == ':'

def BareWord (s : String) : Prop :=
  s.toList ≠ [] ∧ ∀ c ∈ s.toList, isBare c = true

theorem toNat_of_isBare {c : Char} (h : isBare c = true) :
    45 ≤ c.toNat ∧ c.toNat ≤ 122 ∧ c.toNat ≠ 59 ∧ c.toNat ≠ 64 := by
  simp only [isBare, Bool.or_eq_true, beq_iff_eq] at h
  rcases h with (h | rfl) | rfl
  · have := toNat_of_isHostChar h
    omega
  · decide
  · decide

/-- A plain character is none of those that begin or end anything but a word. -/
theorem isInner_of_isBare {c : Char} (h : isBare c = true) :
    isSpace c = false ∧ isLineEnd c = false ∧ (c == ';') = false ∧ isQuote c = false ∧
      isWordChar c = true ∧ isInner c = true := by
  obtain ⟨hlo, hhi, -, -⟩ := toNat_of_isBare h
  have ne : ∀ d : Char, isBare d = false → (c == d) = false := by
    rintro d hd
    refine beq_eq_false_iff_ne.mpr ?_
    rintro rfl
    rw [h] at hd
    cases hd
  have word : isWordChar c = true := by
    simp only [isWordChar, Bool.and_eq_true, decide_eq_true_eq]
    omega
  have low : (c.toNat == 11) = false ∧ (c.toNat == 12) = false := by
    simp only [beq_eq_false_iff_ne]
    omega
  refine ⟨?_, ?_, ne ';' rfl, ?_, word, ?_⟩
  · rw [isSpace, ne ' ' rfl, ne '\t' rfl, low.1, low.2]; rfl
  · rw [isLineEnd, ne '\r' rfl, ne '\n' rfl]; rfl
  · rw [isQuote, ne '"' rfl, ne '\'' rfl]; rfl
  · rw [isInner, word, bne, bne, ne '"' rfl, ne ';' rfl]; rfl

/-! ### Tokens -/

/-- No character of a word follows. -/
def Ends (rest : List Char) : Prop :=
  ∀ c ∈ rest.head?, isInner c = false

theorem takeWhile_word {cs rest : List Char} (h : ∀ c ∈ cs, isBare c = true) (hr : Ends rest) :
    (cs ++ rest).takeWhile isInner = cs ∧ (cs ++ rest).dropWhile isInner = rest := by
  have inner : ∀ c ∈ cs, isInner c = true := fun c hc => (isInner_of_isBare (h c hc)).2.2.2.2.2
  rw [List.takeWhile_append_of_pos inner, List.dropWhile_append_of_pos inner]
  cases rest with
  | nil => simp
  | cons c cs =>
    have hc : ¬ isInner c = true := by simp [hr c rfl]
    simp [List.takeWhile_cons_of_neg hc, List.dropWhile_cons_of_neg hc]

/-- A word and the blanks before it. -/
theorem tokensFrom_word {s : String} (hs : BareWord s) {gap rest : List Char}
    (hg : ∀ c ∈ gap, isSpace c = true) (hr : Ends rest) :
    tokensFrom 0 (gap ++ (s.toList ++ rest)) =
      (tokensFrom 0 rest).map ((if gap.isEmpty then [] else [.space]) ++ .word s :: ·) := by
  obtain ⟨hne, hchars⟩ := hs
  obtain ⟨c, cs, hs⟩ := List.exists_cons_of_ne_nil hne
  rw [hs] at hchars
  obtain ⟨hc, hcs⟩ := List.forall_mem_cons.mp hchars
  obtain ⟨space, lineEnd, comment, quote, word, -⟩ := isInner_of_isBare hc
  have notSpace : ¬ isSpace c = true := by simp [space]
  obtain ⟨taken, dropped⟩ := takeWhile_word hcs hr
  have whole : String.ofList (c :: cs) = s := by rw [← hs, String.ofList_toList]
  have front : blanks (gap ++ (c :: cs ++ rest)) = if gap.isEmpty then [] else [.space] := by
    rw [blanks, List.takeWhile_append_of_pos hg, List.cons_append, List.takeWhile_cons_of_neg notSpace,
      List.append_nil]
  have start : (gap ++ (c :: cs ++ rest)).dropWhile isSpace = c :: (cs ++ rest) := by
    rw [List.dropWhile_append_of_pos hg, List.cons_append, List.dropWhile_cons_of_neg notSpace]
  rw [hs, tokensFrom]
  split
  · rename_i heq
    rw [start] at heq
    cases heq
  · rename_i heq
    rw [start] at heq
    cases heq
    simp only [lineEnd, comment, quote, word, taken, dropped, front, whole, Nat.zero_sub,
      Bool.false_eq_true, if_false, if_true]

/-- The text of words with a blank before each. -/
def spaced (words : List String) : List Char :=
  words.flatMap (' ' :: ·.toList)

def spacedTokens (words : List String) : List Token :=
  words.flatMap fun s => [.space, .word s]

theorem ends_spaced (words : List String) : Ends (spaced words) := by
  cases words with
  | nil => exact nofun
  | cons s words =>
    rintro c ⟨⟩
    decide

theorem tokensFrom_spaced {words : List String} (h : ∀ s ∈ words, BareWord s) :
    tokensFrom 0 (spaced words) = some (spacedTokens words) := by
  induction words with
  | nil =>
    rw [spaced, List.flatMap_nil, tokensFrom]
    rfl
  | cons s words ih =>
    obtain ⟨hs, hwords⟩ := List.forall_mem_cons.mp h
    have blank : ∀ c ∈ [' '], isSpace c = true := List.forall_mem_singleton.mpr rfl
    have step := tokensFrom_word hs blank (ends_spaced words)
    rw [ih hwords] at step
    exact step

/-! ### Words -/

theorem ne_of_bare {s t : String} (hs : BareWord s) (ht : ¬ BareWord t) : s ≠ t := by
  rintro rfl
  exact ht hs

theorem not_bare_of_mem {s : String} {c : Char} (hc : c ∈ s.toList) (h : isBare c = false) :
    ¬ BareWord s := by
  rintro ⟨-, hs⟩
  rw [hs c hc] at h
  cases h

theorem ofWord?_of_bare {s : String} (hs : BareWord s) : Directive.ofWord? s = none := by
  unfold Directive.ofWord?
  split
  · exact absurd hs (not_bare_of_mem (c := '$') (by decide) rfl)
  · exact absurd hs (not_bare_of_mem (c := '$') (by decide) rfl)
  · rfl

theorem entriesFrom_word {s : String} (hs : BareWord s) (words : List String) (afterLine : Bool) (ts : List Token) :
    entriesFrom words false afterLine (.word s :: ts) = entriesFrom (words ++ [s]) false false ts := by
  have opening : (s == "(") = false :=
    beq_eq_false_iff_ne.mpr (ne_of_bare hs (not_bare_of_mem (c := '(') (by decide) rfl))
  have closing : (s == ")") = false :=
    beq_eq_false_iff_ne.mpr (ne_of_bare hs (not_bare_of_mem (c := ')') (by decide) rfl))
  rw [entriesFrom, ofWord?_of_bare hs]
  dsimp only
  rw [opening, closing]
  rfl

theorem entriesFrom_spaced {words : List String} (h : ∀ s ∈ words, BareWord s) (before : List String) :
    entriesFrom before false false (spacedTokens words) = some (lineEntry (before ++ words)) := by
  induction words generalizing before with
  | nil => rw [spacedTokens, List.flatMap_nil, entriesFrom, List.append_nil]
  | cons s words ih =>
    obtain ⟨hs, hwords⟩ := List.forall_mem_cons.mp h
    calc
      entriesFrom before false false (spacedTokens (s :: words))
      _ = entriesFrom before false false (.word s :: spacedTokens words) := rfl
      _ = entriesFrom (before ++ [s]) false false (spacedTokens words) := entriesFrom_word hs before false _
      _ = some (lineEntry (before ++ s :: words)) := by rw [ih hwords, List.append_assoc, List.singleton_append]

/-- A text of words with a blank between any two is one entry. -/
theorem entries_of_words {text first : String} {words : List String}
    (ht : text.toList = first.toList ++ spaced words) (hf : BareWord first) (hw : ∀ s ∈ words, BareWord s) :
    entries text = some [.record (first :: words)] := by
  have none : ∀ c ∈ ([] : List Char), isSpace c = true := nofun
  have step := tokensFrom_word hf none (ends_spaced words)
  rw [tokensFrom_spaced hw] at step
  have cut : tokens text = some (.word first :: spacedTokens words) := by
    rw [tokens, ht]
    exact step
  rw [entries, cut, Option.bind_some, entriesFrom_word hf, entriesFrom_spaced hw]
  rfl

/-- Such a text holds one record, if the words make one. -/
theorem read_of_words {text first : String} {words : List String}
    (ht : text.toList = first.toList ++ spaced words) (hf : BareWord first) (hw : ∀ s ∈ words, BareWord s) :
    read text = (({} : Context).record? (first :: words)).map ([·]) := by
  rw [read_eq_entries, entries_of_words ht hf hw, Option.bind_some, Context.records?]
  cases ({} : Context).record? (first :: words) <;> rfl

end ClusterMdns.Dns.Zone
