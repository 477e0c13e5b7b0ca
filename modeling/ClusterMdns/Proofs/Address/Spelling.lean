import ClusterMdns.Proofs.Record.ReverseName
import ClusterMdns.Proofs.Text.Blank
import ClusterMdns.Proofs.Text.LowerCase

/-! Spellings of addresses. A group may be written in letters of either case and with zeros ahead, zero groups may be
left out at one place, and the last two groups may be written as an address of version 4. Every spelling is read as
its address, and the text of an address is one of its spellings. -/

namespace ClusterMdns

open Number

/-! ### Spellings -/

/-- One to four hexadecimal digits, letters in either case. -/
structure SpelledGroup (cs : List Char) (g : UInt16) : Prop where
  digits : ∃ ds : List Nat, (∀ d ∈ ds, d < 16) ∧ cs.map Char.toLower = ds.map Nat.digitChar ∧
    ofDigits 16 ds = g.toNat
  some_digit : cs ≠ []
  short : cs.length ≤ 4

/-- Groups one by one. -/
abbrev SpelledGroups : List (List Char) → List UInt16 → Prop := List.Forall₂ SpelledGroup

/-- Groups of which the last two may be written as an address of version 4. -/
inductive SpelledEnd : List (List Char) → List UInt16 → Prop
  | plain {pieces : List (List Char)} {gs : List UInt16} (h : SpelledGroups pieces gs) : SpelledEnd pieces gs
  | embedded {pieces : List (List Char)} {gs : List UInt16} (h : SpelledGroups pieces gs) (a : AddressV4) :
      SpelledEnd (pieces ++ [a.text.toList]) (gs ++ a.groups)

/-- Eight groups between colons, or fewer and two colons in place of the others, which are zero. -/
inductive SpelledV6 : List Char → List UInt16 → Prop
  | full {pieces : List (List Char)} {gs : List UInt16} (h : SpelledEnd pieces gs) (eight : gs.length = 8) :
      SpelledV6 (Text.joinChars [':'] pieces) gs
  | gap {front back : List (List Char)} {fs bs : List UInt16} (hf : SpelledGroups front fs)
      (hb : SpelledEnd back bs) (fewer : fs.length + bs.length < 8) :
      SpelledV6 (Text.joinChars [':'] front ++ ':' :: ':' :: Text.joinChars [':'] back)
        (fs ++ List.replicate (8 - (fs.length + bs.length)) 0 ++ bs)

/-- What can name a scope at the end of a text. -/
structure ScopeName (scope : String) : Prop where
  some_char : scope.toList ≠ []
  plain : ∀ c ∈ scope.toList, c ≠ '%' ∧ c ≠ '/'
  last : ∀ c ∈ scope.toList.getLast?, Text.isBlank c = false

/-- A spelling without blanks around it. -/
inductive SpelledAddress : List Char → Address → Prop
  | v4 (a : AddressV4) : SpelledAddress a.text.toList (.v4 a)
  | v6 {cs : List Char} {groups : Vector UInt16 8} (h : SpelledV6 cs groups.toList) :
      SpelledAddress cs (.v6 ⟨groups, none⟩)
  | withScope {cs : List Char} {groups : Vector UInt16 8} {scope : String} (h : SpelledV6 cs groups.toList)
      (named : ScopeName scope) : SpelledAddress (cs ++ '%' :: scope.toList) (.v6 ⟨groups, some scope⟩)

/-- A spelling, perhaps with blanks around it. -/
def Address.Spelling (s : String) (a : Address) : Prop :=
  ∃ front cs back, s.toList = front ++ cs ++ back ∧ (∀ c ∈ front, Text.isBlank c = true) ∧
    (∀ c ∈ back, Text.isBlank c = true) ∧ SpelledAddress cs a

/-! ### Digits -/

/-- A digit in either case is read as what it is worth, and is no blank. -/
theorem hexadecimalDigit?_of_toLower {c : Char} {d : Nat} (hd : d < 16) (h : c.toLower = Nat.digitChar d) :
    hexadecimalDigit? c = some d ∧ Text.isBlank c = false := by
  have ascii : c.toNat < 128 := by
    by_contra high
    rw [Text.toLower_of_not_ascii high] at h
    have low : ∀ d < 16, (Nat.digitChar d).toNat < 128 := by decide
    exact high (h ▸ low d hd)
  have all : ∀ n < 128, ∀ d < 16, (Char.ofNat n).toLower = Nat.digitChar d →
      hexadecimalDigit? (Char.ofNat n) = some d ∧ Text.isBlank (Char.ofNat n) = false := by
    decide +kernel
  have found := all c.toNat ascii d hd
  rw [Char.ofNat_toNat] at found
  exact found h

theorem toLower_digitChar : ∀ d < 16, (Nat.digitChar d).toLower = Nat.digitChar d := by
  decide

/-- A string of such digits has their value. -/
theorem foldlM_hexadecimalDigit? {cs : List Char} {ds : List Nat} (small : ∀ d ∈ ds, d < 16)
    (h : cs.map Char.toLower = ds.map Nat.digitChar) (acc : Nat) :
    cs.foldlM (fun acc c => (hexadecimalDigit? c).map (acc * 16 + ·)) acc =
      some (ds.foldl (fun acc d => acc * 16 + d) acc) := by
  induction cs generalizing ds acc with
  | nil =>
    obtain rfl := List.map_eq_nil_iff.mp h.symm
    rfl
  | cons c cs ih =>
    obtain ⟨d, ds, rfl, hc, hcs⟩ := List.map_eq_cons_iff.mp h.symm
    obtain ⟨hd, hds⟩ := List.forall_mem_cons.mp small
    rw [List.foldlM_cons, (hexadecimalDigit?_of_toLower hd hc.symm).1]
    exact ih hds hcs.symm (acc * 16 + d)

namespace SpelledGroup

variable {cs : List Char} {g : UInt16}

theorem group? (h : SpelledGroup cs g) : AddressV6.group? cs = some g := by
  obtain ⟨ds, small, spelled, value⟩ := h.digits
  have fits : (cs.isEmpty || decide (cs.length > 4)) = false := by
    have short := h.short
    simp only [Bool.or_eq_false_iff, List.isEmpty_eq_false_iff, decide_eq_false_iff_not]
    exact ⟨h.some_digit, by omega⟩
  have number : digitString? 16 hexadecimalDigit? cs = some g.toNat :=
    (foldlM_hexadecimalDigit? small spelled 0).trans (congrArg some value)
  rw [AddressV6.group?, fits, if_neg Bool.false_ne_true, number]
  simp

/-- No sign with a meaning of its own stands in a group. -/
theorem plain (h : SpelledGroup cs g) :
    ∀ c ∈ cs, c ≠ ':' ∧ c ≠ '.' ∧ c ≠ '%' ∧ Text.isBlank c = false := by
  obtain ⟨ds, small, spelled, -⟩ := h.digits
  intro c hc
  have lower : c.toLower ∈ ds.map Nat.digitChar := spelled ▸ List.mem_map_of_mem hc
  obtain ⟨d, hd, digit⟩ := List.mem_map.mp lower
  obtain ⟨value, blank⟩ := hexadecimalDigit?_of_toLower (small d hd) digit.symm
  have other {sign : Char} (no_digit : hexadecimalDigit? sign = none) : c ≠ sign := by
    rintro rfl
    cases no_digit.symm.trans value
  exact ⟨other rfl, other rfl, other rfl, blank⟩

/-- The usual text of a group: no zeros ahead, small letters. -/
theorem of_groupText (g : UInt16) : SpelledGroup (AddressV6.groupText g).toList g where
  digits := by
    obtain ⟨ds, hd, written⟩ := AddressV6.groupText_digits g
    refine ⟨ds, hd.small, ?_, hd.value⟩
    rw [written, List.map_map]
    exact List.map_congr_left fun d hm => toLower_digitChar d (hd.small d hm)
  some_digit := AddressV6.groupText_ne_nil g
  short := by
    rw [AddressV6.groupText, String.toList_ofList, Nat.length_toDigits_le_iff (by decide) (by decide)]
    exact g.toNat_lt

end SpelledGroup

/-! ### Pieces -/

theorem Text.isBlank_of_isDigit {c : Char} (h : c.isDigit = true) : Text.isBlank c = false := by
  obtain ⟨hlo, hhi⟩ := toNat_of_isDigit h
  simp only [Text.isBlank, Bool.or_eq_false_iff, Bool.and_eq_false_iff, decide_eq_false_iff_not,
    beq_eq_false_iff_ne]
  omega

/-- Characters that are neither blanks nor signs with a meaning between pieces. -/
structure PlainPiece (piece : List Char) : Prop where
  some_char : piece ≠ []
  chars : ∀ c ∈ piece, c ≠ ':' ∧ c ≠ '%' ∧ Text.isBlank c = false

/-! ### Addresses of version 4 -/

namespace AddressV4

theorem read?_text (a : AddressV4) : read? a.text.toList = some a := by
  have split : Text.splitChars (· == '.') a.text.toList = a.octets.map fun x => (natText x.toNat).toList := by
    rw [Dns.Zone.toList_address]
    refine Text.splitChars_joinChars (by simp [octets]) ?_ rfl
    exact List.forall_mem_map.mpr fun x _ => Dns.Zone.natText_ne_dot
  rw [read?, split]
  exact ofPieces?_octets a

theorem dot_mem_text (a : AddressV4) : '.' ∈ a.text.toList := by
  rw [Dns.Zone.toList_address]
  simp [octets, Text.joinChars]

theorem plainPiece_text (a : AddressV4) : PlainPiece a.text.toList where
  some_char := List.ne_nil_of_mem a.dot_mem_text
  chars := by
    intro c hc
    rw [Dns.Zone.toList_address] at hc
    rcases Text.mem_joinChars hc with dot | ⟨cs, hcs, hc⟩
    · rw [List.mem_singleton.mp dot]
      decide
    · obtain ⟨x, -, rfl⟩ := List.mem_map.mp hcs
      have digit := isDigit_of_mem_natText hc
      refine ⟨?_, ?_, Text.isBlank_of_isDigit digit⟩
      · rintro rfl
        cases digit
      · rintro rfl
        cases digit

/-- What holds a colon is no address of version 4. -/
theorem read?_of_colon {cs : List Char} (h : ':' ∈ cs) : read? cs = none := by
  have digits {piece : List Char} (hp : ':' ∈ piece) : octet? piece = none := by
    have number (acc : Nat) :
        piece.foldlM (fun acc c => (decimalDigit? c).map (acc * 10 + ·)) acc = none := by
      induction piece generalizing acc with
      | nil => cases hp
      | cons c piece ih =>
        rw [List.foldlM_cons]
        rcases List.mem_cons.mp hp with rfl | hp
        · rfl
        · cases decimalDigit? c with
          | none => rfl
          | some d => exact ih hp (acc * 10 + d)
    unfold octet?
    split
    · rfl
    · rw [digitString?, number 0]
  obtain ⟨piece, hp, hc⟩ := Text.exists_mem_splitChars (p := (· == '.')) h rfl
  unfold read?
  split
  · rename_i a b c d pieces
    rw [pieces] at hp
    simp only [List.mem_cons, List.not_mem_nil, or_false] at hp
    rcases hp with rfl | rfl | rfl | rfl <;> simp [digits hc]
  · rfl

end AddressV4

/-! ### Groups -/

namespace AddressV6

variable {front back pieces : List (List Char)} {fs bs gs : List UInt16}

theorem plainGroups?_of_spelled (h : SpelledGroups pieces gs) : plainGroups? pieces = some gs := by
  induction h with
  | nil => rfl
  | cons first _ ih => simp [plainGroups?, first.group?, ih]

theorem groups?_cons {piece : List Char} {g : UInt16} (h : SpelledGroup piece g) (pieces : List (List Char)) :
    groups? (piece :: pieces) = (groups? pieces).map (g :: ·) := by
  cases pieces with
  | nil =>
    have no_dot : piece.contains '.' = false := by
      rw [List.contains_eq_mem, decide_eq_false_iff_not]
      exact fun dot => (h.plain _ dot).2.1 rfl
    simp only [groups?, no_dot, h.group?, Bool.false_eq_true, if_false, Option.map_some]
  | cons next pieces =>
    rw [groups?, h.group?]
    · cases groups? (next :: pieces) <;> rfl
    · exact List.cons_ne_nil _ _

theorem groups?_append (h : SpelledGroups pieces gs) (more : List (List Char)) :
    groups? (pieces ++ more) = (groups? more).map (gs ++ ·) := by
  induction h with
  | nil => exact Option.map_id'.symm
  | cons first _ ih =>
    rw [List.cons_append, groups?_cons first, ih]
    cases groups? more <;> rfl

theorem groups?_of_spelled (h : SpelledEnd pieces gs) : groups? pieces = some gs := by
  cases h with
  | plain h =>
    have whole := groups?_append h []
    rw [List.append_nil] at whole
    simp [whole, groups?]
  | embedded h a =>
    have dot : a.text.toList.contains '.' = true := List.elem_eq_true_of_mem a.dot_mem_text
    rw [groups?_append h, groups?, dot, if_pos rfl, AddressV4.read?_text]
    rfl

/-! ### The gap -/

theorem plainPieces (h : SpelledEnd pieces gs) : ∀ piece ∈ pieces, PlainPiece piece := by
  have plain {pieces : List (List Char)} {gs : List UInt16} (h : SpelledGroups pieces gs) :
      ∀ piece ∈ pieces, PlainPiece piece := by
    induction h with
    | nil => exact List.forall_mem_nil _
    | cons first _ ih =>
      refine List.forall_mem_cons.mpr ⟨⟨first.some_digit, fun c hc => ?_⟩, ih⟩
      obtain ⟨colon, -, percent, blank⟩ := first.plain c hc
      exact ⟨colon, percent, blank⟩
  cases h with
  | plain h => exact plain h
  | embedded h a => exact List.forall_mem_append.mpr ⟨plain h, List.forall_mem_singleton.mpr a.plainPiece_text⟩

/-- Without an empty piece there is no gap. -/
theorem splitAtGap_of_some_char (h : ∀ piece ∈ pieces, piece ≠ []) (before : List (List Char)) :
    splitAtGap before pieces = none := by
  induction pieces generalizing before with
  | nil => rfl
  | cons piece pieces ih =>
    obtain ⟨hp, hps⟩ := List.forall_mem_cons.mp h
    cases pieces with
    | nil => rfl
    | cons next pieces => simp [splitAtGap, hp, ih hps]

/-- The first empty piece behind another is the gap. -/
theorem splitAtGap_gap (h : ∀ piece ∈ pieces, piece ≠ []) {before rest : List (List Char)}
    (first : before ≠ [] ∨ pieces ≠ []) (last : rest ≠ []) :
    splitAtGap before (pieces ++ [] :: rest) = some (before.reverse ++ pieces, rest) := by
  have step (piece : List Char) (before : List (List Char)) {behind : List (List Char)} (hne : behind ≠ [])
      (other : piece ≠ [] ∨ before = []) :
      splitAtGap before (piece :: behind) = splitAtGap (piece :: before) behind := by
    obtain ⟨next, more, rfl⟩ := List.exists_cons_of_ne_nil hne
    rcases other with hp | rfl <;> simp [splitAtGap, *]
  induction pieces generalizing before with
  | nil =>
    obtain ⟨next, more, rfl⟩ := List.exists_cons_of_ne_nil last
    simp [splitAtGap, first.resolve_right fun h => h rfl]
  | cons piece pieces ih =>
    obtain ⟨hp, hps⟩ := List.forall_mem_cons.mp h
    rw [List.cons_append, step piece before (List.append_ne_nil_of_right_ne_nil _ (List.cons_ne_nil _ _)) (.inl hp),
      ih hps (.inl (List.cons_ne_nil _ _)), List.reverse_cons, List.append_assoc, List.singleton_append]

theorem splitChars_joined (h : ∀ piece ∈ pieces, PlainPiece piece) :
    Text.splitChars (· == ':') (Text.joinChars [':'] pieces) = if pieces = [] then [[]] else pieces := by
  split
  · subst_vars
    rfl
  · exact Text.splitChars_joinChars ‹_› (fun piece hp c hc => beq_eq_false_iff_ne.mpr ((h piece hp).chars c hc).1) rfl

/-- A side of the gap that is left out as a whole is one empty piece. -/
theorem side?_joined {read? : List (List Char) → Option (List UInt16)} (h : ∀ piece ∈ pieces, PlainPiece piece)
    (nothing : read? [] = some []) (read : read? pieces = some gs) :
    side? read? (if pieces = [] then [[]] else pieces) = some gs := by
  cases pieces with
  | nil => exact nothing.symm.trans read
  | cons piece pieces =>
    have some_piece : (piece :: pieces == [[]]) = false := by
      rw [beq_eq_false_iff_ne]
      exact fun alone => (h piece List.mem_cons_self).some_char (List.cons.inj alone).1
    rw [if_neg (List.cons_ne_nil _ _), side?, some_piece]
    exact read

/-- An address of version 4 stands for two groups, and every other piece for one. -/
theorem length_of_spelled (h : SpelledEnd pieces gs) : gs.length ≤ pieces.length + 1 := by
  cases h with
  | plain h =>
    have := h.length_eq
    omega
  | embedded h a =>
    have := h.length_eq
    rw [List.length_append, List.length_append, List.length_singleton, AddressV4.groups]
    simp only [List.length_cons, List.length_nil]
    omega

theorem readGroups?_full (h : SpelledEnd pieces gs) (eight : gs.length = 8) :
    readGroups? (Text.joinChars [':'] pieces) = some gs := by
  have many : pieces ≠ [] := by
    rintro rfl
    have := length_of_spelled h
    rw [List.length_nil] at this
    omega
  have some_piece : ∀ piece ∈ pieces, piece ≠ [] := fun piece hp => (plainPieces h piece hp).some_char
  simp only [readGroups?, splitChars_joined (plainPieces h), if_neg many, splitAtGap_of_some_char some_piece,
    groups?_of_spelled h]

theorem readGroups?_gap (hf : SpelledGroups front fs) (hb : SpelledEnd back bs)
    (fewer : fs.length + bs.length < 8) :
    readGroups? (Text.joinChars [':'] front ++ ':' :: ':' :: Text.joinChars [':'] back) =
      some (fs ++ List.replicate (8 - (fs.length + bs.length)) 0 ++ bs) := by
  have before := plainPieces (.plain hf)
  have behind := plainPieces hb
  have cut : Text.splitChars (· == ':') (Text.joinChars [':'] front ++ ':' :: ':' :: Text.joinChars [':'] back) =
      (if front = [] then [[]] else front) ++ [] :: if back = [] then [[]] else back := by
    have second : Text.splitChars (· == ':') (':' :: Text.joinChars [':'] back) =
        [] :: Text.splitChars (· == ':') (Text.joinChars [':'] back) := rfl
    rw [Text.splitChars_append rfl, second, splitChars_joined before, splitChars_joined behind]
  have some_back : (if back = [] then [[]] else back) ≠ [] := by
    split
    · exact List.cons_ne_nil _ _
    · assumption
  have gap : splitAtGap [] ((if front = [] then [[]] else front) ++ [] :: if back = [] then [[]] else back) =
      some (if front = [] then [[]] else front, if back = [] then [[]] else back) := by
    by_cases none : front = []
    · -- the first empty piece is no gap, but the second is
      obtain ⟨next, more, hnext⟩ := List.exists_cons_of_ne_nil some_back
      simp [none, hnext, splitAtGap]
    · rw [if_neg none]
      exact splitAtGap_gap (fun piece hp => (before piece hp).some_char) (.inr none) some_back
  simp only [readGroups?, cut, gap, side?_joined before rfl (plainGroups?_of_spelled hf),
    side?_joined behind rfl (groups?_of_spelled hb), Option.bind_eq_bind, Option.bind_some, if_pos fewer]

theorem readGroups?_of_spelled {cs : List Char} (h : SpelledV6 cs gs) : readGroups? cs = some gs := by
  cases h with
  | full h eight => exact readGroups?_full h eight
  | gap hf hb fewer => exact readGroups?_gap hf hb fewer

/-- What is said of the characters of all pieces, and of colons, holds of a spelling. -/
theorem forall_of_spelled {P : Char → Prop} {cs : List Char} (h : SpelledV6 cs gs) (colon : P ':')
    (each : ∀ piece, PlainPiece piece → ∀ c ∈ piece, P c) : ∀ c ∈ cs, P c := by
  have joined {pieces : List (List Char)} {gs : List UInt16} (h : SpelledEnd pieces gs) :
      ∀ c ∈ Text.joinChars [':'] pieces, P c := by
    intro c hc
    rcases Text.mem_joinChars hc with sep | ⟨piece, hp, hc⟩
    · rwa [List.mem_singleton.mp sep]
    · exact each piece (plainPieces h piece hp) c hc
  cases h with
  | full h eight => exact joined h
  | gap hf hb fewer =>
    refine List.forall_mem_append.mpr ⟨joined (.plain hf), List.forall_mem_cons.mpr ⟨colon, ?_⟩⟩
    exact List.forall_mem_cons.mpr ⟨colon, joined hb⟩

theorem colon_of_spelled {cs : List Char} (h : SpelledV6 cs gs) : ':' ∈ cs := by
  have joined {pieces : List (List Char)} (two : 2 ≤ pieces.length) : ':' ∈ Text.joinChars [':'] pieces := by
    cases pieces with
    | nil => simp at two
    | cons first rest =>
      cases rest with
      | nil => simp at two
      | cons next rest => simp [Text.joinChars]
  cases h with
  | full h eight =>
    have many := length_of_spelled h
    exact joined (by omega)
  | gap hf hb fewer => exact List.mem_append_right _ List.mem_cons_self

/-! ### Scopes -/

variable {groups : Vector UInt16 8} {cs : List Char}

theorem read?_of_spelled (h : SpelledV6 cs groups.toList) : read? cs = some ⟨groups, none⟩ := by
  have plain : ∀ c ∈ cs, (c == '%') = false :=
    forall_of_spelled h rfl fun piece hp c hc => beq_eq_false_iff_ne.mpr (hp.chars c hc).2.1
  simp only [read?, Text.splitChars_single plain, readGroups?_of_spelled h, Option.bind_eq_bind, Option.bind_some,
    ofGroups?_toList]

theorem read?_of_scoped {scope : String} (h : SpelledV6 cs groups.toList) (named : ScopeName scope) :
    read? (cs ++ '%' :: scope.toList) = some ⟨groups, some scope⟩ := by
  have plain : ∀ c ∈ cs, (c == '%') = false :=
    forall_of_spelled h rfl fun piece hp c hc => beq_eq_false_iff_ne.mpr (hp.chars c hc).2.1
  have single : ∀ c ∈ scope.toList, (c == '%') = false := fun c hc => beq_eq_false_iff_ne.mpr (named.plain c hc).1
  have allowed : (scope.toList.isEmpty || scope.toList.contains '/') = false := by
    rw [Bool.or_eq_false_iff, List.isEmpty_eq_false_iff, List.contains_eq_mem, decide_eq_false_iff_not]
    exact ⟨named.some_char, fun slash => (named.plain _ slash).2 rfl⟩
  have pieces : Text.splitChars (· == '%') (cs ++ '%' :: scope.toList) = [cs, scope.toList] := by
    rw [Text.splitChars_cons plain rfl, Text.splitChars_single single]
  simp only [read?, pieces, allowed, Bool.false_eq_true, if_false, readGroups?_of_spelled h, Option.bind_eq_bind,
    Option.bind_some, String.ofList_toList, ofGroups?_toList]

/-- The text of an address without a scope is one of its spellings. -/
theorem spelled_text (groups : Vector UInt16 8) : SpelledV6 (text ⟨groups, none⟩).toList groups.toList := by
  have written (gs : List UInt16) : SpelledGroups (gs.map fun g => (groupText g).toList) gs := by
    induction gs with
    | nil => exact .nil
    | cons g gs ih => exact .cons (.of_groupText g) ih
  obtain ⟨within, parts⟩ := longestZeros_run groups.toList
  have eight : groups.toList.length = 8 := groups.length_toList
  unfold text
  cases hz : longestZeros groups.toList with | mk start length =>
  rw [hz] at within parts
  simp only [hz]
  split
  · rw [toList_groupsText]
    exact .full (.plain (written _)) eight
  · have lengths : (groups.toList.take start).length + (groups.toList.drop (start + length)).length = 8 - length := by
      rw [List.length_take, List.length_drop]
      omega
    have gap := SpelledV6.gap (written (groups.toList.take start))
      (.plain (written (groups.toList.drop (start + length)))) (by omega)
    have zeros : 8 - (8 - length) = length := by omega
    rw [lengths, zeros, ← parts] at gap
    have chars : (groupsText (groups.toList.take start) ++ "::" ++
        groupsText (groups.toList.drop (start + length))).toList =
        (groupsText (groups.toList.take start)).toList ++ ':' :: ':' ::
          (groupsText (groups.toList.drop (start + length))).toList := by
      simp
    rw [chars, toList_groupsText, toList_groupsText]
    exact gap

end AddressV6

/-! ### Addresses -/

namespace Address

variable {s : String} {a : Address} {cs : List Char}

theorem readChars?_of_spelled (h : SpelledAddress cs a) : readChars? cs = some a := by
  have other {cs : List Char} (colon : ':' ∈ cs) : readChars? cs = (AddressV6.read? cs).map v6 := by
    rw [readChars?, AddressV4.read?_of_colon colon]
  cases h with
  | v4 a => rw [readChars?, AddressV4.read?_text]
  | v6 h =>
    rw [other (AddressV6.colon_of_spelled h), AddressV6.read?_of_spelled h]
    rfl
  | withScope h named =>
    rw [other (List.mem_append_left _ (AddressV6.colon_of_spelled h)), AddressV6.read?_of_scoped h named]
    rfl

/-- No blank stands at either end of a spelling. -/
theorem ends_of_spelled (h : SpelledAddress cs a) :
    (∀ c ∈ cs.head?, Text.isBlank c = false) ∧ ∀ c ∈ cs.getLast?, Text.isBlank c = false := by
  have inner {cs : List Char} {gs : List UInt16} (h : SpelledV6 cs gs) : ∀ c ∈ cs, Text.isBlank c = false :=
    AddressV6.forall_of_spelled h (by decide) fun piece hp c hc => (hp.chars c hc).2.2
  cases h with
  | v4 a =>
    have plain := a.plainPiece_text.chars
    exact ⟨fun c hc => (plain c (List.mem_of_head? hc)).2.2, fun c hc => (plain c (List.mem_of_getLast? hc)).2.2⟩
  | v6 h => exact ⟨fun c hc => inner h c (List.mem_of_head? hc), fun c hc => inner h c (List.mem_of_getLast? hc)⟩
  | @withScope cs groups scope h named =>
    have some_char : cs ≠ [] := List.ne_nil_of_mem (AddressV6.colon_of_spelled h)
    have last : (cs ++ '%' :: scope.toList).getLast? = scope.toList.getLast? := by
      rw [List.getLast?_append_of_ne_nil _ (List.cons_ne_nil _ _)]
      obtain ⟨c, rest, hc⟩ := List.exists_cons_of_ne_nil named.some_char
      rw [hc, List.getLast?_cons_cons]
    rw [List.head?_append_of_ne_nil _ some_char, last]
    exact ⟨fun c hc => inner h c (List.mem_of_head? hc), named.last⟩

/-- Every spelling is read as its address, and that is normalised. -/
theorem read?_of_spelling (h : Spelling s a) : read? s = some a.normalize := by
  obtain ⟨front, cs, back, chars, leading, trailing, spelled⟩ := h
  have trimmed : Text.trimChars s.toList = cs :=
    Text.trimChars_eq_iff.mpr ⟨⟨front, back, chars, leading, trailing⟩, ends_of_spelled spelled⟩
  rw [read?, trimmed, readChars?_of_spelled spelled]
  rfl

end Address

end ClusterMdns
