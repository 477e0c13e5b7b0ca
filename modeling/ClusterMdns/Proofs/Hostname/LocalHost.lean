import ClusterMdns.Proofs.Hostname
import ClusterMdns.Proofs.Text.Blank
import ClusterMdns.Proofs.Text.Fields
import ClusterMdns.Proofs.Text.LowerCase
import Mathlib.Data.Bool.AllAny

/-! Hosts under `.local` and the names they advertise. A name can be advertised exactly if it is taken from itself
with `.local` behind it; and it is taken from a host exactly if the host is spelled as the name, that suffix in any
letter case, and dots, with blanks around. -/

namespace ClusterMdns.Hostname

/-! ### What is taken from a tidy host -/

/-- The suffix consists of characters that come from letters of ASCII alone. -/
theorem localSuffix_simple : ∀ c ∈ localSuffix.toList, Text.Simple c := by
  have each : ∀ c ∈ localSuffix.toList, c.toNat < 128 ∧ c ≠ 'k' :=
    List.all_iff_forall_prop.mp (by decide)
  exact each

/-- The test looks at the letters one by one, and finds what the lower-case form of the whole text ends in. -/
theorem isUnderLocal_iff (cs : List Char) :
    isUnderLocal cs = true ↔ Text.endsWith localSuffix (Text.lower (String.ofList cs)) = true := by
  rw [isUnderLocal, Text.endsWith, List.isSuffixOf_iff_suffix, List.isSuffixOf_iff_suffix, Text.lower,
    String.toList_ofList, String.toList_ofList, Text.suffix_lowerFrom_iff localSuffix_simple]

/-- A tidy host consists of the name and a suffix that reads `.local` in small letters. -/
theorem ofLocalHost_eq_ok_iff {host name : String} : ofLocalHost host = .ok name ↔
    validate name = .ok name ∧
      ∃ suffix : String, tidy host = name.toList ++ suffix.toList ∧ Text.lower suffix = localSuffix := by
  have six : localSuffix.length = 6 := rfl
  have same {suffix : String} : Text.lower suffix = localSuffix ↔
      suffix.toList.map Char.toLower = localSuffix.toList := Text.lower_eq_iff localSuffix_simple suffix
  unfold ofLocalHost
  dsimp only
  constructor
  · intro h
    split at h
    · rename_i under
      obtain ⟨⟨⟩, checked, h⟩ := bind_eq_ok.mp h
      obtain rfl := Except.ok.inj h
      refine ⟨validate_eq_ok_iff.mpr ⟨rfl, (checkLabels_eq_ok_iff _).mp checked⟩,
        String.ofList ((tidy host).drop ((tidy host).length - localSuffix.length)), ?_, same.mpr ?_⟩
      · rw [String.toList_ofList, String.toList_ofList, List.take_append_drop]
      · rw [isUnderLocal, List.isSuffixOf_iff_suffix, List.suffix_iff_eq_drop, List.length_map] at under
        rw [String.toList_ofList, List.map_drop]
        exact under.symm
    · cases h
  · rintro ⟨valid, suffix, parts, lower⟩
    have lowered := same.mp lower
    have length : suffix.toList.length = localSuffix.length := by
      rw [← List.length_map Char.toLower, lowered, String.length_toList]
    have under : isUnderLocal (tidy host) = true := by
      rw [isUnderLocal, List.isSuffixOf_iff_suffix, parts, List.map_append, lowered]
      exact List.suffix_append _ _
    have front : (tidy host).take ((tidy host).length - localSuffix.length) = name.toList := by
      rw [parts, List.length_append, length, Nat.add_sub_cancel, List.take_left]
    rw [if_pos under, front, String.ofList_toList]
    exact bind_eq_ok.mpr ⟨(), (checkLabels_eq_ok_iff _).mpr (validate_eq_ok_iff.mp valid).2, rfl⟩

/-! ### Spellings of a host -/

/-- The host is spelled as the name and `.local` in any letter case, with dots behind and blanks around. -/
inductive SpelledLocal (name : String) : String → Prop
  | mk (front suffix dots back : String) (front_blank : ∀ c ∈ front.toList, Text.isBlank c = true)
      (suffix_local : Text.lower suffix = localSuffix) (dots_only : ∀ c ∈ dots.toList, c = '.')
      (back_blank : ∀ c ∈ back.toList, Text.isBlank c = true) :
      SpelledLocal name (front ++ name ++ suffix ++ dots ++ back)

section
variable {host : String} {kept : List Char}

/-- A host is made of what is left of it, with dots behind and blanks around. -/
theorem exists_of_tidy (h : tidy host = kept) : ∃ front dots back : List Char,
    host.toList = front ++ kept ++ dots ++ back ∧ (∀ c ∈ front, Text.isBlank c = true) ∧
      (∀ c ∈ dots, c = '.') ∧ ∀ c ∈ back, Text.isBlank c = true := by
  obtain ⟨⟨dots, trimmed, only⟩, -⟩ := Text.dropTrailing_eq_iff.mp h
  obtain ⟨⟨front, back, parts, before, behind⟩, -⟩ := Text.trimChars_eq_iff.mp trimmed
  refine ⟨front, dots, back, ?_, before, fun c hc => eq_of_beq (only c hc), behind⟩
  rw [parts, List.append_assoc front kept dots]

/-- Dots behind and blanks around are taken away, if what they stand at is none of them. -/
theorem tidy_eq (hne : kept ≠ []) (head : ∀ c ∈ kept.head?, Text.isBlank c = false)
    (last : ∀ c ∈ kept.getLast?, Text.isBlank c = false ∧ c ≠ '.') {front dots back : List Char}
    (parts : host.toList = front ++ kept ++ dots ++ back) (before : ∀ c ∈ front, Text.isBlank c = true)
    (only : ∀ c ∈ dots, c = '.') (behind : ∀ c ∈ back, Text.isBlank c = true) : tidy host = kept := by
  have dot : Text.isBlank '.' = false := by decide
  refine Text.dropTrailing_eq_iff.mpr ⟨⟨dots, Text.trimChars_eq_iff.mpr ⟨?_, ?_, ?_⟩, ?_⟩, ?_⟩
  · exact ⟨front, back, by rw [parts, List.append_assoc front kept dots], before, behind⟩
  · rwa [List.head?_append_of_ne_nil _ hne]
  · intro c hc
    rw [List.getLast?_append, Option.mem_def, Option.or_eq_some_iff] at hc
    rcases hc with hc | ⟨-, hc⟩
    · rw [only c (List.mem_of_getLast? hc)]
      exact dot
    · exact (last c hc).1
  · exact fun c hc => beq_iff_eq.mpr (only c hc)
  · exact fun c hc => beq_eq_false_iff_ne.mpr (last c hc).2

end

/-! ### Ends of names and suffixes -/

theorem not_blank_of_isAlphanumeric {c : Char} (h : isAlphanumeric c = true) : Text.isBlank c = false := by
  by_cases small : c.toNat < 128
  · exact Text.forall_ascii (P := fun c => isAlphanumeric c = true → Text.isBlank c = false)
      (by decide +kernel) small h
  · have special : c.toNat ∈ [0x130, 0x131, 0x17F, 0x212A] := by
      simp only [isAlphanumeric, Bool.or_eq_true, Bool.and_eq_true, decide_eq_true_eq, Char.le_def,
        UInt32.le_iff_toNat_le, List.contains_iff_mem] at h
      rcases h with ((⟨-, h⟩ | ⟨-, h⟩) | ⟨-, h⟩) | h
      · exact absurd (Nat.lt_of_le_of_lt h (by decide)) small
      · exact absurd (Nat.lt_of_le_of_lt h (by decide)) small
      · exact absurd (Nat.lt_of_le_of_lt h (by decide)) small
      · exact h
    have each : ∀ n ∈ [0x130, 0x131, 0x17F, 0x212A], Text.isBlank (Char.ofNat n) = false := by decide
    have found := each c.toNat special
    rwa [Char.ofNat_toNat] at found

theorem head_of_isLabel {label : List Char} (h : isLabel label = true) :
    ∃ c ∈ label.head?, isAlphanumeric c = true := by
  simp only [isLabel, Bool.and_eq_true, Option.any_eq_true] at h
  obtain ⟨⟨-, c, hc, letter⟩, -⟩ := h
  refine ⟨c, ?_, letter⟩
  unfold withoutLineEnd at hc
  split at hc
  · obtain ⟨last, whole⟩ := List.dropLast_prefix label
    rw [← whole, List.head?_append, hc]
    rfl
  · exact hc

/-- A name that can be advertised does not begin with a blank. -/
theorem head_of_valid {name : String} (h : validate name = .ok name) :
    ∃ c ∈ name.toList.head?, Text.isBlank c = false := by
  have labels := (validate_eq_ok_iff.mp h).2
  obtain ⟨piece, pieces, split⟩ :=
    List.exists_cons_of_ne_nil (Text.splitChars_ne_nil (p := (· == '.')) name.toList)
  have first : isLabel piece = true := by
    have passes := labels (String.ofList piece) (List.mem_map_of_mem (by rw [split]; exact List.mem_cons_self))
    rwa [String.toList_ofList] at passes
  obtain ⟨c, hc, letter⟩ := head_of_isLabel first
  exact ⟨c, Text.head?_of_splitChars split hc, not_blank_of_isAlphanumeric letter⟩

theorem last_of_local {suffix : String} (h : Text.lower suffix = localSuffix) :
    ∃ c ∈ suffix.toList.getLast?, Text.isBlank c = false ∧ c ≠ '.' := by
  have lowered := (Text.lower_eq_iff localSuffix_simple suffix).mp h
  have last := congrArg List.getLast? lowered
  rw [List.getLast?_map] at last
  obtain ⟨c, hc, lower⟩ := Option.map_eq_some_iff.mp last
  refine ⟨c, hc, ?_⟩
  have small : c.toNat < 128 := by
    by_contra beyond
    rw [Text.toLower_of_not_ascii beyond] at lower
    exact beyond (by rw [lower]; decide)
  exact Text.forall_ascii (P := fun c => c.toLower = 'l' → Text.isBlank c = false ∧ c ≠ '.')
    (by decide +kernel) small lower

theorem ofLocalHost_iff_spelled {host name : String} :
    ofLocalHost host = .ok name ↔ validate name = .ok name ∧ SpelledLocal name host := by
  rw [ofLocalHost_eq_ok_iff]
  refine and_congr_right fun valid => ⟨?_, ?_⟩
  · rintro ⟨suffix, left, lower⟩
    obtain ⟨front, dots, back, parts, before, only, behind⟩ := exists_of_tidy left
    have whole : host = String.ofList front ++ name ++ suffix ++ String.ofList dots ++ String.ofList back := by
      rw [← String.toList_inj, parts]
      simp
    rw [whole]
    exact .mk _ suffix _ _ (by rwa [String.toList_ofList]) lower (by rwa [String.toList_ofList])
      (by rwa [String.toList_ofList])
  · rintro ⟨front, suffix, dots, back, before, lower, only, behind⟩
    obtain ⟨c, hc, head⟩ := head_of_valid valid
    obtain ⟨d, hd, last⟩ := last_of_local lower
    have some_char : name.toList ++ suffix.toList ≠ [] :=
      List.append_ne_nil_of_left_ne_nil (List.ne_nil_of_mem (List.mem_of_head? hc)) _
    refine ⟨suffix, tidy_eq some_char ?_ ?_ ?_ before only behind, lower⟩
    · intro x hx
      rw [List.head?_append, Option.mem_def.mp hc] at hx
      rwa [← Option.some.inj hx]
    · intro x hx
      rw [List.getLast?_append, Option.mem_def.mp hd] at hx
      rwa [← Option.some.inj hx]
    · simp

/-- A name can be advertised exactly if it is taken from itself with `.local` behind it, and then it is taken, as
it is, from every host that is spelled from it. The name that is taken from a host can be advertised, the host is
spelled from it, and it is taken from itself with `.local` behind it as well. -/
theorem local_name_inverts_suffix (name : String) :
    ((∃ out, validate name = .ok out) ↔ ofLocalHost (name ++ ".local") = .ok name) ∧
    ((∃ out, validate name = .ok out) → ∀ host, SpelledLocal name host → ofLocalHost host = .ok name) ∧
    ∀ host, ofLocalHost host = .ok name →
      validate name = .ok name ∧ SpelledLocal name host ∧ ofLocalHost (name ++ ".local") = .ok name := by
  have self : (∃ out, validate name = .ok out) ↔ validate name = .ok name := by
    refine ⟨?_, fun valid => ⟨name, valid⟩⟩
    rintro ⟨out, valid⟩
    obtain rfl := (validate_eq_ok_iff.mp valid).1
    exact valid
  have plain : SpelledLocal name (name ++ ".local") := by
    have spelled : SpelledLocal name ("" ++ name ++ ".local" ++ "" ++ "") :=
      .mk "" ".local" "" "" (by simp) (by decide +kernel) (by simp) (by simp)
    simpa using spelled
  rw [self]
  refine ⟨?_, fun valid host spelled => ofLocalHost_iff_spelled.mpr ⟨valid, spelled⟩, fun host taken => ?_⟩
  · rw [ofLocalHost_iff_spelled, and_iff_left plain]
  · obtain ⟨valid, spelled⟩ := ofLocalHost_iff_spelled.mp taken
    exact ⟨valid, spelled, ofLocalHost_iff_spelled.mpr ⟨valid, plain⟩⟩

/-- A name that ends in `.local` itself, and a host spelled from it in capital letters. -/
theorem local_name_inverts_suffix_twice :
    validate "App.local" = .ok "App.local" ∧ SpelledLocal "App.local" "\t App.local.LOCAL.. \n" ∧
      ofLocalHost "\t App.local.LOCAL.. \n" = .ok "App.local" ∧
      ofLocalHost "App.local.local" = .ok "App.local" := by
  obtain ⟨-, taken, inverse⟩ := local_name_inverts_suffix "App.local"
  have valid : validate "App.local" = .ok "App.local" := rfl
  have spelled : SpelledLocal "App.local" "\t App.local.LOCAL.. \n" :=
    .mk "\t " ".LOCAL" ".." " \n" (List.all_iff_forall_prop.mp (by decide)) (by decide +kernel)
      (List.all_iff_forall_prop.mp (by decide)) (List.all_iff_forall_prop.mp (by decide))
  have found := taken ⟨_, valid⟩ _ spelled
  exact ⟨valid, spelled, found, (inverse _ found).2.2⟩

end ClusterMdns.Hostname
