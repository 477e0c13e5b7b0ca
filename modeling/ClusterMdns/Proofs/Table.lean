import ClusterMdns.Table
import Mathlib.Tactic.SplitIfs
import Mathlib.Data.List.Nodup

/-! Looking up in a table after its operations. `set` changes one key and keeps the rest; `erase` takes only
the first entry of a key away, so its law needs keys that are all different. That property is kept by every
operation. -/

namespace ClusterMdns.Table

variable {κ ν : Type} [DecidableEq κ]

theorem find?_set (t : Table κ ν) (key other : κ) (value : ν) :
    (t.set key value).find? other = if key = other then some value else t.find? other := by
  induction t with
  | nil => rfl
  | cons e rest ih =>
    obtain ⟨k, v⟩ := e
    unfold set
    split_ifs with hk ho ho
    · subst hk ho; simp [find?]
    · subst hk; simp [find?, ho]
    · subst ho; simp [find?, hk, ih]
    · simp [find?, ih, ho]

omit [DecidableEq κ] in
theorem mem_keys_cons {key other : κ} {value : ν} {t : Table κ ν} :
    other ∈ keys ((key, value) :: t) ↔ other = key ∨ other ∈ keys t :=
  List.mem_cons

theorem mem_of_find? {t : Table κ ν} {key : κ} {value : ν} (h : t.find? key = some value) :
    (key, value) ∈ t := by
  induction t with
  | nil => cases h
  | cons e rest ih =>
    obtain ⟨k, v⟩ := e
    unfold find? at h
    split_ifs at h with hk
    · cases h; subst hk; exact List.mem_cons_self
    · exact List.mem_cons_of_mem _ (ih h)

theorem find?_eq_none_iff {t : Table κ ν} {key : κ} : t.find? key = none ↔ key ∉ t.keys := by
  induction t with
  | nil => simp [find?, keys]
  | cons e rest ih =>
    obtain ⟨k, v⟩ := e
    unfold find?
    split_ifs with hk
    · simp [keys, hk]
    · rw [ih]
      simp [keys, Ne.symm hk]

theorem find?_of_mem {t : Table κ ν} (nodup : t.keys.Nodup) {key : κ} {value : ν}
    (h : (key, value) ∈ t) : t.find? key = some value := by
  induction t with
  | nil => cases h
  | cons e rest ih =>
    obtain ⟨k, v⟩ := e
    obtain ⟨fresh, nodup⟩ := List.nodup_cons.mp nodup
    rcases List.mem_cons.mp h with h | h
    · cases h; simp [find?]
    · have hk : k ≠ key := fun hk => fresh (List.mem_map.mpr ⟨_, h, hk.symm⟩)
      simp [find?, hk, ih nodup h]

theorem contains_iff {t : Table κ ν} {key : κ} : t.contains key = true ↔ key ∈ t.keys := by
  unfold contains
  rw [Option.isSome_iff_ne_none, Ne, find?_eq_none_iff, not_not]

theorem find?_erase {t : Table κ ν} (nodup : t.keys.Nodup) (key other : κ) :
    (t.erase key).find? other = if key = other then none else t.find? other := by
  induction t with
  | nil => simp [erase, find?]
  | cons e rest ih =>
    obtain ⟨k, v⟩ := e
    obtain ⟨fresh, nodup⟩ := List.nodup_cons.mp nodup
    unfold erase
    split_ifs with hk ho ho
    · rw [find?_eq_none_iff, ← ho, ← hk]; exact fresh
    · subst hk; simp [find?, ho]
    · subst ho; simp [find?, hk, ih nodup]
    · simp [find?, ih nodup, ho]

theorem mem_of_mem_set {t : Table κ ν} {key : κ} {value : ν} {e : κ × ν} (h : e ∈ t.set key value) :
    e = (key, value) ∨ e ∈ t := by
  induction t with
  | nil => exact Or.inl (List.mem_singleton.mp h)
  | cons d rest ih =>
    obtain ⟨k, v⟩ := d
    unfold set at h
    split_ifs at h with hk
    · rcases List.mem_cons.mp h with h | h
      · exact Or.inl (hk ▸ h)
      · exact Or.inr (List.mem_cons_of_mem _ h)
    · rcases List.mem_cons.mp h with h | h
      · exact Or.inr (h ▸ List.mem_cons_self)
      · exact (ih h).imp_right (List.mem_cons_of_mem _)

theorem erase_sublist (t : Table κ ν) (key : κ) : (t.erase key).Sublist t := by
  induction t with
  | nil => exact List.Sublist.slnil
  | cons e rest ih =>
    obtain ⟨k, v⟩ := e
    unfold erase
    split_ifs
    · exact List.sublist_cons_self _ _
    · exact ih.cons_cons _

theorem mem_keys_set {t : Table κ ν} {key other : κ} {value : ν} :
    other ∈ (t.set key value).keys ↔ other = key ∨ other ∈ t.keys := by
  rw [← not_iff_not, ← find?_eq_none_iff, find?_set, not_or, ← find?_eq_none_iff]
  split_ifs with h
  · simp [h]
  · simp [Ne.symm h]

theorem nodup_set {t : Table κ ν} (nodup : t.keys.Nodup) (key : κ) (value : ν) :
    (t.set key value).keys.Nodup := by
  induction t with
  | nil => exact List.nodup_singleton key
  | cons e rest ih =>
    obtain ⟨k, v⟩ := e
    obtain ⟨fresh, rested⟩ := List.nodup_cons.mp nodup
    unfold set
    split_ifs with hk
    · exact nodup
    · refine List.nodup_cons.mpr ⟨fun h => ?_, ih rested⟩
      rcases mem_keys_set.mp h with h | h
      · exact hk h
      · exact fresh h

theorem nodup_erase {t : Table κ ν} (nodup : t.keys.Nodup) (key : κ) : (t.erase key).keys.Nodup :=
  nodup.sublist ((erase_sublist t key).map _)

theorem nodup_setAll {t : Table κ ν} (nodup : t.keys.Nodup) (entries : List (κ × ν)) :
    (t.setAll entries).keys.Nodup := by
  induction entries generalizing t with
  | nil => exact nodup
  | cons e rest ih => exact ih (nodup_set nodup e.1 e.2)

theorem nodup_ofList (entries : List (κ × ν)) : (ofList entries).keys.Nodup :=
  nodup_setAll (t := []) List.nodup_nil entries

theorem mem_of_mem_ofList {entries : List (κ × ν)} {e : κ × ν} (h : e ∈ ofList entries) :
    e ∈ entries := by
  suffices h : ∀ t : Table κ ν, e ∈ t.setAll entries → e ∈ t ∨ e ∈ entries from
    (h [] ‹_›).resolve_left List.not_mem_nil
  clear h
  induction entries with
  | nil => exact fun t h => Or.inl h
  | cons d rest ih =>
    intro t h
    rcases ih _ h with h | h
    · rcases mem_of_mem_set h with h | h
      · exact Or.inr (h ▸ List.mem_cons_self)
      · exact Or.inl h
    · exact Or.inr (List.mem_cons_of_mem _ h)

theorem find?_setAll {entries : List (κ × ν)} {S : κ → Option ν} (h : ∀ e ∈ entries, S e.1 = some e.2)
    (t : Table κ ν) (key : κ) :
    (t.setAll entries).find? key = if key ∈ entries.map (·.1) then S key else t.find? key := by
  induction entries generalizing t with
  | nil => rfl
  | cons e rest ih =>
    obtain ⟨he, hrest⟩ := List.forall_mem_cons.mp h
    rw [show t.setAll (e :: rest) = (t.set e.1 e.2).setAll rest from rfl, ih hrest, find?_set]
    by_cases hm : key ∈ rest.map (·.1)
    · simp [hm]
    · by_cases hk : e.1 = key
      · subst hk; simp [hm, he]
      · simp [hm, hk, Ne.symm hk]

/-- Entries that a map has make a table of it, if they are all that it has. -/
theorem find?_ofList {entries : List (κ × ν)} {S : κ → Option ν} (h : ∀ e ∈ entries, S e.1 = some e.2)
    {key : κ} (all : S key ≠ none → key ∈ entries.map (·.1)) : (ofList entries).find? key = S key := by
  rw [ofList, find?_setAll h]
  split_ifs with hm
  · rfl
  · exact (not_not.mp (mt all hm)).symm

/-! ### Entries that are set again -/

/-- The value of the last entry of a key. -/
def last? (key : κ) (entries : List (κ × ν)) : Option ν :=
  ((entries.filter (·.1 = key)).getLast?).map (·.2)

theorem last?_cons (key other : κ) (value : ν) (entries : List (κ × ν)) :
    last? key ((other, value) :: entries) =
      (last? key entries).or (if other = key then some value else none) := by
  unfold last?
  by_cases h : other = key
  · rw [List.filter_cons_of_pos (by simpa using h), List.getLast?_cons, if_pos h]
    cases (entries.filter (·.1 = key)).getLast? <;> rfl
  · rw [List.filter_cons_of_neg (by simpa using h), if_neg h, Option.or_none]

theorem last?_concat (key other : κ) (value : ν) (entries : List (κ × ν)) :
    last? key (entries ++ [(other, value)]) = if other = key then some value else last? key entries := by
  unfold last?
  rw [List.filter_append]
  split_ifs with h
  · rw [List.filter_cons_of_pos (by simpa using h), List.filter_nil, List.getLast?_concat]
    rfl
  · rw [List.filter_cons_of_neg (by simpa using h), List.filter_nil, List.append_nil]

/-- Entries of other keys make no difference. -/
theorem last?_filter {p : κ → Bool} {key : κ} (h : p key = true) (entries : List (κ × ν)) :
    last? key (entries.filter (p ·.1)) = last? key entries := by
  have same : (entries.filter (p ·.1)).filter (·.1 = key) = entries.filter (·.1 = key) := by
    rw [List.filter_filter]
    refine List.filter_congr fun e _ => ?_
    by_cases hk : e.1 = key
    · simp [hk, h]
    · simp [hk]
  rw [last?, same, last?]

/-- The last of the entries that are set under a key counts, or else what was there. -/
theorem find?_setAll_last (t : Table κ ν) (entries : List (κ × ν)) (key : κ) :
    (t.setAll entries).find? key = (last? key entries).or (t.find? key) := by
  induction entries generalizing t with
  | nil => rfl
  | cons e rest ih =>
    obtain ⟨k, v⟩ := e
    have step : t.setAll ((k, v) :: rest) = (t.set k v).setAll rest := rfl
    rw [step, ih, find?_set, last?_cons, Option.or_assoc]
    split <;> rfl

theorem last?_of_nodup {t : Table κ ν} (nodup : t.keys.Nodup) (key : κ) : last? key t = t.find? key := by
  induction t with
  | nil => rfl
  | cons e rest ih =>
    obtain ⟨k, v⟩ := e
    obtain ⟨fresh, nodup⟩ := List.nodup_cons.mp nodup
    rw [last?_cons, ih nodup, find?]
    split_ifs with hk
    · rw [find?_eq_none_iff.mpr (hk ▸ fresh), Option.none_or]
    · rw [Option.or_none]

/-- An entry of a key that is not there comes last. -/
theorem set_of_not_mem {t : Table κ ν} {key : κ} (h : key ∉ t.keys) (value : ν) :
    t.set key value = t ++ [(key, value)] := by
  induction t with
  | nil => rfl
  | cons e rest ih =>
    obtain ⟨k, v⟩ := e
    obtain ⟨hk, hrest⟩ := not_or.mp (mt mem_keys_cons.mpr h)
    rw [set, if_neg (Ne.symm hk), ih hrest, List.cons_append]

/-- A key that is set keeps its place, or it comes last. -/
theorem keys_set (t : Table κ ν) (key : κ) (value : ν) :
    (t.set key value).keys = if key ∈ t.keys then t.keys else t.keys ++ [key] := by
  split_ifs with h
  · induction t with
    | nil => cases h
    | cons e rest ih =>
      obtain ⟨k, v⟩ := e
      unfold set
      split_ifs with hk
      · rfl
      · have later := (mem_keys_cons.mp h).resolve_left (Ne.symm hk)
        exact congrArg (k :: ·) (ih later)
  · rw [set_of_not_mem h]
    exact List.map_append

/-- Keys that are set one after another stand where they came first. -/
theorem keys_setAll (t : Table κ ν) (entries : List (κ × ν)) :
    (t.setAll entries).keys = t.keys ++ ((entries.map (·.1)).filter (· ∉ t.keys)).eraseDups := by
  induction entries generalizing t with
  | nil => simp [setAll]
  | cons e rest ih =>
    rw [show t.setAll (e :: rest) = (t.set e.1 e.2).setAll rest from rfl, ih, keys_set, List.map_cons]
    split_ifs with h
    · rw [List.filter_cons_of_neg (by simpa using h)]
    · rw [List.filter_cons_of_pos (by simpa using h), List.eraseDups_cons, List.append_assoc,
        List.singleton_append, List.filter_filter]
      congr 3
      refine List.filter_congr fun k _ => ?_
      by_cases hk : k = e.1 <;> simp [hk]

theorem keys_ofList (entries : List (κ × ν)) : (ofList entries).keys = (entries.map (·.1)).eraseDups := by
  rw [ofList, keys_setAll]
  simp [keys]

theorem mem_keys_ofList {entries : List (κ × ν)} {key : κ} :
    key ∈ (ofList entries).keys ↔ key ∈ entries.map (·.1) := by
  rw [keys_ofList, List.mem_eraseDups]

/-- Of the entries that are set under a key the last counts. -/
theorem find?_ofList_last (entries : List (κ × ν)) (key : κ) :
    (ofList entries).find? key = last? key entries := by
  rw [ofList, find?_setAll_last]
  exact Option.or_none

theorem erase_eq_filter {t : Table κ ν} (nodup : t.keys.Nodup) (key : κ) :
    t.erase key = t.filter fun e => e.1 ≠ key := by
  induction t with
  | nil => rfl
  | cons e rest ih =>
    obtain ⟨k, v⟩ := e
    obtain ⟨fresh, nodup⟩ := List.nodup_cons.mp nodup
    unfold erase
    split_ifs with hk
    · subst hk
      have kept : ∀ e ∈ rest, decide (e.1 ≠ k) = true := by
        intro e he
        refine decide_eq_true fun hk => fresh ?_
        exact List.mem_map.mpr ⟨e, he, hk⟩
      rw [List.filter_cons_of_neg (by simp), List.filter_eq_self.mpr kept]
    · rw [List.filter_cons_of_pos (by simp [hk]), ih nodup]

/-- Tables that have the same under every key hold the same entries, in whatever order. -/
theorem perm_of_find? {t u : Table κ ν} (ht : t.keys.Nodup) (hu : u.keys.Nodup)
    (same : ∀ key, t.find? key = u.find? key) : t.Perm u := by
  refine (List.perm_ext_iff_of_nodup ht.of_map hu.of_map).mpr fun e => ?_
  constructor
  · intro he
    exact mem_of_find? ((same e.1).symm.trans (find?_of_mem ht he))
  · intro he
    exact mem_of_find? ((same e.1).trans (find?_of_mem hu he))

/-! ### Some of the keys -/

/-- The entries of a table under some of the keys. -/
def under (p : κ → Bool) (t : Table κ ν) : Table κ ν :=
  t.filter fun e => p e.1

variable (p : κ → Bool)

omit [DecidableEq κ] in
theorem under_cons (key : κ) (value : ν) (t : Table κ ν) :
    under p ((key, value) :: t) = if p key then (key, value) :: t.under p else t.under p :=
  List.filter_cons

theorem find?_under (t : Table κ ν) {key : κ} (h : p key = true) : (t.under p).find? key = t.find? key := by
  induction t with
  | nil => rfl
  | cons e rest ih =>
    obtain ⟨k, v⟩ := e
    rw [under_cons]
    by_cases hk : k = key
    · subst hk; simp [find?, h]
    · split_ifs <;> simp [find?, hk, ih]

theorem under_set (t : Table κ ν) (key : κ) (value : ν) :
    (t.set key value).under p = if p key then (t.under p).set key value else t.under p := by
  induction t with
  | nil => exact under_cons p key value []
  | cons e rest ih =>
    obtain ⟨k, v⟩ := e
    by_cases hk : k = key
    · subst hk
      cases hp : p k <;> simp [set, under_cons, hp]
    · cases hq : p k <;> cases hp : p key <;> simp [set, under_cons, hk, hq, hp, ih]

theorem under_erase (t : Table κ ν) (key : κ) :
    (t.erase key).under p = if p key then (t.under p).erase key else t.under p := by
  induction t with
  | nil => exact (ite_self _).symm
  | cons e rest ih =>
    obtain ⟨k, v⟩ := e
    by_cases hk : k = key
    · subst hk
      cases hp : p k <;> simp [erase, under_cons, hp]
    · cases hq : p k <;> cases hp : p key <;> simp [erase, under_cons, hk, hq, hp, ih]

end ClusterMdns.Table
