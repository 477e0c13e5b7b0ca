import ClusterMdns.Dns.Zone.Data
import ClusterMdns.Proofs.Number.Hexadecimal

/-! Groups of addresses of version 6. An address of version 4 is told by the two groups that hold it, and the text
of groups is read back, whether zeros in it were left out or not. -/

namespace ClusterMdns

open Number

/-! ### Addresses of version 4 in groups -/

namespace AddressV4

theorem group_of_halves (g : UInt16) : (g / 256).toUInt8.toUInt16 * 256 + g.toUInt8.toUInt16 = g := by
  have small := g.toNat_lt
  refine UInt16.toNat_inj.mp ?_
  simp only [UInt16.toNat_add, UInt16.toNat_mul, UInt8.toNat_toUInt16, UInt16.toNat_toUInt8, UInt16.toNat_div,
    UInt16.reduceToNat]
  omega

theorem halves_of_group (high low : UInt8) :
    ((high.toUInt16 * 256 + low.toUInt16) / 256).toUInt8 = high ∧
      (high.toUInt16 * 256 + low.toUInt16).toUInt8 = low := by
  have h := high.toNat_lt
  have l := low.toNat_lt
  constructor <;> refine UInt8.toNat_inj.mp ?_ <;>
    simp only [UInt16.toNat_add, UInt16.toNat_mul, UInt8.toNat_toUInt16, UInt16.toNat_toUInt8, UInt16.toNat_div,
      UInt16.reduceToNat] <;> omega

theorem groups_ofGroups (hi lo : UInt16) : (ofGroups hi lo).groups = [hi, lo] := by
  rw [ofGroups, groups, group_of_halves, group_of_halves]

theorem ofGroups_groups (a : AddressV4) :
    ofGroups (a.a.toUInt16 * 256 + a.b.toUInt16) (a.c.toUInt16 * 256 + a.d.toUInt16) = a := by
  rw [ofGroups, (halves_of_group a.a a.b).1, (halves_of_group a.a a.b).2, (halves_of_group a.c a.d).1,
    (halves_of_group a.c a.d).2]

end AddressV4

namespace AddressV6

/-- The address stands for one of version 4: five groups of zeros, one of ones, and the address. -/
def Maps (b : AddressV6) (a : AddressV4) : Prop :=
  b.groups.toList = [0, 0, 0, 0, 0, 0xFFFF] ++ a.groups

theorem mapped?_eq_some_iff {b : AddressV6} {a : AddressV4} : b.mapped? = some a ↔ b.Maps a := by
  constructor
  · intro h
    unfold mapped? at h
    split at h
    · rename_i hi lo groups
      cases h
      rw [Maps, groups, AddressV4.groups_ofGroups]
      rfl
    · cases h
  · intro h
    rw [mapped?, h, AddressV4.groups]
    exact congrArg some a.ofGroups_groups

theorem mapped?_eq_none_iff {b : AddressV6} : b.mapped? = none ↔ ∀ a, ¬ b.Maps a := by
  simp only [Option.eq_none_iff_forall_ne_some, ne_eq, mapped?_eq_some_iff]

end AddressV6

/-! ### Zeros that are left out -/

namespace AddressV6

theorem zerosAhead_le (gs : List UInt16) : zerosAhead gs ≤ gs.length := by
  induction gs with
  | nil => exact Nat.le_refl 0
  | cons g gs ih =>
    unfold zerosAhead
    split
    · exact Nat.succ_le_succ ih
    · exact Nat.zero_le _

theorem take_zerosAhead (gs : List UInt16) :
    gs.take (zerosAhead gs) = List.replicate (zerosAhead gs) 0 := by
  induction gs with
  | nil => rfl
  | cons g gs ih =>
    unfold zerosAhead
    split
    · rename_i hg
      rw [List.take_succ_cons, ih, List.replicate_succ, eq_of_beq hg]
    · rfl

/-- The longest run consists of zeros. -/
theorem longestZeros_run (gs : List UInt16) :
    (longestZeros gs).1 + (longestZeros gs).2 ≤ gs.length ∧
      gs = gs.take (longestZeros gs).1 ++ List.replicate (longestZeros gs).2 0 ++
        gs.drop ((longestZeros gs).1 + (longestZeros gs).2) := by
  induction gs with
  | nil => exact ⟨Nat.le_refl 0, rfl⟩
  | cons g gs ih =>
    obtain ⟨within, parts⟩ := ih
    unfold longestZeros
    dsimp only
    split
    · refine ⟨by simpa using zerosAhead_le (g :: gs), ?_⟩
      rw [List.take_zero, List.nil_append, Nat.zero_add, ← take_zerosAhead, List.take_append_drop]
    · dsimp only
      refine ⟨by rw [List.length_cons]; omega, ?_⟩
      rw [List.take_succ_cons, Nat.add_right_comm, List.drop_succ_cons, List.cons_append, List.cons_append,
        ← parts]

end AddressV6

/-! ### Texts of groups -/

namespace AddressV6

/-- A group is written in hexadecimal digits. -/
theorem groupText_digits (g : UInt16) :
    ∃ ds, Hexadecimal ds g.toNat ∧ (groupText g).toList = ds.map Nat.digitChar := by
  obtain ⟨ds, hd, written⟩ := toDigits_hexadecimal g.toNat
  exact ⟨ds, hd, by rw [groupText, String.toList_ofList, written]⟩

theorem groupText_ne_nil (g : UInt16) : (groupText g).toList ≠ [] := by
  obtain ⟨ds, hd, written⟩ := groupText_digits g
  rw [written]
  exact fun h => hd.some_digit (List.map_eq_nil_iff.mp h)

theorem isHostChar_of_mem_groupText {g : UInt16} {c : Char} (h : c ∈ (groupText g).toList) :
    Dns.isHostChar c = true := by
  obtain ⟨ds, hd, written⟩ := groupText_digits g
  rw [written] at h
  obtain ⟨d, hm, rfl⟩ := List.mem_map.mp h
  exact (digitChar_facts d (hd.small d hm)).2.2.1

theorem groupText_ne_colon {g : UInt16} : ∀ c ∈ (groupText g).toList, (c == ':') = false := by
  intro c hc
  exact beq_eq_false_iff_ne.mpr (Dns.ne_of_isHostChar (isHostChar_of_mem_groupText hc) rfl)

theorem toList_groupsText (gs : List UInt16) :
    (groupsText gs).toList = Text.joinChars [':'] (gs.map fun g => (groupText g).toList) := by
  rw [groupsText, Text.toList_join, List.map_map]
  rfl

theorem mem_groupsText_cases {gs : List UInt16} {c : Char} (h : c ∈ (groupsText gs).toList) :
    Dns.isHostChar c = true ∨ c = ':' := by
  rw [toList_groupsText] at h
  rcases Text.mem_joinChars h with h | ⟨cs, hcs, h⟩
  · exact Or.inr (List.mem_singleton.mp h)
  · obtain ⟨g, -, rfl⟩ := List.mem_map.mp hcs
    exact Or.inl (isHostChar_of_mem_groupText h)

/-- Without a scope there are digits and colons only. -/
theorem mem_text_cases {groups : Vector UInt16 8} {c : Char} (h : c ∈ (text ⟨groups, none⟩).toList) :
    Dns.isHostChar c = true ∨ c = ':' := by
  unfold text at h
  cases hz : longestZeros groups.toList with | mk start length =>
  simp only [hz] at h
  split at h
  · exact mem_groupsText_cases h
  · rw [String.toList_append, String.toList_append, List.append_assoc] at h
    rcases List.mem_append.mp h with h | h
    · exact mem_groupsText_cases h
    · rcases List.mem_append.mp h with h | h
      · have colons : c ∈ [':', ':'] := h
        exact Or.inr (by simpa using colons)
      · exact mem_groupsText_cases h

/-- The scope is written behind the groups. -/
theorem toList_text (a : AddressV6) : a.text.toList =
    (text ⟨a.groups, none⟩).toList ++ a.scope.elim [] (fun scope => '%' :: scope.toList) := by
  obtain ⟨groups, scope⟩ := a
  cases scope with
  | none => exact (List.append_nil _).symm
  | some scope => simp [text]

theorem colon_mem_text (a : AddressV6) : ':' ∈ a.text.toList := by
  rw [toList_text]
  refine List.mem_append_left _ ?_
  unfold text
  cases hz : longestZeros a.groups.toList with | mk start length =>
  simp only [hz]
  split
  · obtain ⟨g, tail, hg⟩ := List.exists_cons_of_length_eq_add_one a.groups.length_toList
    obtain ⟨next, gs, rfl⟩ : ∃ next gs, tail = next :: gs := by
      refine List.exists_cons_of_length_eq_add_one (n := 6) ?_
      have eight := a.groups.length_toList
      rw [hg, List.length_cons] at eight
      omega
    simp [hg, toList_groupsText, Text.joinChars]
  · simp

end AddressV6

namespace Dns.Zone

open AddressV6

theorem number16?_groupText (g : UInt16) :
    (readIntIn? 16 'x' (groupText g).toList).bind number16? = some g := by
  obtain ⟨ds, hd, written⟩ := groupText_digits g
  have small := g.toNat_lt
  rw [written, readIntIn?_hexadecimal hd, Option.bind_some, number16?, if_pos]
  · simp
  · simp only [Bool.and_eq_true, decide_eq_true_eq]
    omega

theorem groups?_groupsText (gs : List UInt16) : groups? (groupsText gs).toList = some gs := by
  have pieces : (Text.splitChars (· == ':') (groupsText gs).toList).filter (!·.isEmpty) =
      gs.map fun g => (groupText g).toList := by
    rw [toList_groupsText]
    cases gs with
    | nil => rfl
    | cons g gs =>
      rw [Text.splitChars_joinChars (by simp) ?_ rfl]
      · refine List.filter_eq_self.mpr (List.forall_mem_map.mpr fun g _ => ?_)
        simpa using groupText_ne_nil g
      · exact List.forall_mem_map.mpr fun g _ => groupText_ne_colon
  rw [groups?, pieces]
  clear pieces
  induction gs with
  | nil => rfl
  | cons g gs ih =>
    have first : (do number16? (← readIntIn? 16 'x' (groupText g).toList)) = some g := number16?_groupText g
    rw [List.map_cons, List.mapM_cons, first, Option.bind_eq_bind, Option.bind_some, ih]
    rfl

/-! ### The gap -/

/-- Characters other than colons come before the gap. -/
theorem cutAtGap_append {cs : List Char} (h : ∀ c ∈ cs, (c == ':') = false) (before rest : List Char) :
    cutAtGap before (cs ++ rest) = cutAtGap (cs.reverse ++ before) rest := by
  induction cs generalizing before with
  | nil => rfl
  | cons c cs ih =>
    obtain ⟨hc, hcs⟩ := List.forall_mem_cons.mp h
    have step : cutAtGap before (c :: (cs ++ rest)) = cutAtGap (c :: before) (cs ++ rest) := by
      refine cutAtGap.eq_3 before c (cs ++ rest) ?_
      rintro more rfl
      cases hc
    rw [List.cons_append, step, ih hcs, List.reverse_cons, List.append_assoc, List.singleton_append]

/-- What begins a gap, or the end of the text. -/
inductive Gap : List Char → List Char → Prop
  | close : Gap [] []
  | opened (back : List Char) : Gap (':' :: ':' :: back) back

theorem cutAtGap_gap {rest back : List Char} (h : Gap rest back) (before : List Char) :
    cutAtGap before rest = (before.reverse, back) := by
  cases h <;> rfl

theorem cutAtGap_joinChars {pieces : List (List Char)} (hne : ∀ piece ∈ pieces, piece ≠ [])
    (h : ∀ piece ∈ pieces, ∀ c ∈ piece, (c == ':') = false) {rest back : List Char} (gap : Gap rest back)
    (before : List Char) :
    cutAtGap before (Text.joinChars [':'] pieces ++ rest) =
      (before.reverse ++ Text.joinChars [':'] pieces, back) := by
  induction pieces generalizing before with
  | nil => rw [Text.joinChars, List.nil_append, cutAtGap_gap gap, List.append_nil]
  | cons piece pieces ih =>
    obtain ⟨first, later⟩ := List.forall_mem_cons.mp h
    obtain ⟨-, nonempty⟩ := List.forall_mem_cons.mp hne
    cases pieces with
    | nil =>
      rw [Text.joinChars, cutAtGap_append first, cutAtGap_gap gap, List.reverse_append, List.reverse_reverse]
    | cons next pieces =>
      have parts : Text.joinChars [':'] (piece :: next :: pieces) =
          piece ++ ':' :: Text.joinChars [':'] (next :: pieces) := by
        simp [Text.joinChars]
      -- a single colon is no gap, since the next piece begins with something else
      have colon : cutAtGap (piece.reverse ++ before) (':' :: (Text.joinChars [':'] (next :: pieces) ++ rest)) =
          cutAtGap (':' :: (piece.reverse ++ before)) (Text.joinChars [':'] (next :: pieces) ++ rest) := by
        refine cutAtGap.eq_3 _ _ _ fun more _ heq => ?_
        obtain ⟨c, cs, hc⟩ := List.exists_cons_of_ne_nil (nonempty next List.mem_cons_self)
        obtain ⟨tail, ht⟩ := Text.joinChars_cons [':'] next pieces
        rw [ht, hc, List.cons_append, List.cons_append] at heq
        have other := later next List.mem_cons_self c (hc ▸ List.mem_cons_self)
        rw [(List.cons.inj heq).1] at other
        cases other
      rw [parts, List.append_assoc, List.cons_append, cutAtGap_append first, colon, ih nonempty later]
      simp

/-- The text of an address without a scope is read as its groups. -/
theorem groupsV6?_text (groups : Vector UInt16 8) : groupsV6? (AddressV6.text ⟨groups, none⟩) = some groups := by
  have cut (gs : List UInt16) {rest back : List Char} (gap : Gap rest back) :
      cutAtGap [] ((groupsText gs).toList ++ rest) = ((groupsText gs).toList, back) := by
    rw [toList_groupsText]
    refine cutAtGap_joinChars ?_ ?_ gap []
    · exact List.forall_mem_map.mpr fun g _ => groupText_ne_nil g
    · exact List.forall_mem_map.mpr fun g _ => groupText_ne_colon
  have eight : groups.toList.length = 8 := groups.length_toList
  have whole (all : List UInt16) (h : all = groups.toList) :
      (if h : all.length = 8 then some (⟨all.toArray, by simpa using h⟩ : Vector UInt16 8) else none) =
        some groups := by
    subst h
    rw [dif_pos eight]
    cases groups
    simp
  obtain ⟨within, parts⟩ := longestZeros_run groups.toList
  unfold AddressV6.text
  cases hz : longestZeros groups.toList with | mk start length =>
  rw [hz] at within parts
  simp only [hz]
  split
  · have uncut := cut groups.toList .close
    rw [List.append_nil] at uncut
    have nothing : groups? [] = some [] := rfl
    simp only [groupsV6?, uncut, groups?_groupsText, nothing, Option.bind_eq_bind, Option.bind_some]
    refine whole _ ?_
    simp [eight]
  · have chars : (groupsText (groups.toList.take start) ++ "::" ++
        groupsText (groups.toList.drop (start + length))).toList =
        (groupsText (groups.toList.take start)).toList ++ ':' :: ':' ::
          (groupsText (groups.toList.drop (start + length))).toList := by
      simp
    have zeros : 8 - ((groups.toList.take start).length + (groups.toList.drop (start + length)).length) =
        length := by
      rw [List.length_take, List.length_drop]
      omega
    simp only [groupsV6?, chars, cut _ (.opened _), groups?_groupsText, Option.bind_eq_bind, Option.bind_some]
    refine whole _ ?_
    rw [zeros, ← parts]

end Dns.Zone

end ClusterMdns
