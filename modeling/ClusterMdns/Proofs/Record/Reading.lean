import ClusterMdns.Proofs.Dns.ZoneRecord
import ClusterMdns.Record.Synthesis
import ClusterMdns.Responder

/-! Record lines as the responder reads them. A line whose names are spelled in letters, digits and hyphens is
read as what it says exactly if every label of its names has a length that labels may have. -/

namespace ClusterMdns

open Dns

/-! ### Names -/

/-- The name ends in a dot, and all labels before it are 1 to 63 characters long. -/
def WellFormedName (s : String) : Prop :=
  Text.endsWith "." s = true ∧ ∀ label ∈ (Text.splitOn '.' s).dropLast, 1 ≤ label.length ∧ label.length ≤ 63

instance (s : String) : Decidable (WellFormedName s) :=
  inferInstanceAs (Decidable (_ ∧ _))

theorem wellFormedName_iff {labels : List (List Char)} {s : String} (h : Spells labels s) :
    WellFormedName s ↔ labels.all Name.isLabel = true := by
  have split : (Text.splitOn '.' s).dropLast = labels.map String.ofList := by
    rw [Text.splitOn, h.pieces, List.map_append, List.map_singleton, List.dropLast_concat]
  rw [WellFormedName, h.endsWith, split, List.all_eq_true]
  simp only [true_and, List.forall_mem_map, String.length_ofList, Name.isLabel, Bool.and_eq_true,
    decide_eq_true_eq]
  refine forall₂_congr fun label _ => ?_
  omega

theorem bareWord_of_spells {labels : List (List Char)} {s : String} (h : Spells labels s) :
    Zone.BareWord s := by
  refine ⟨?_, fun c hc => ?_⟩
  · obtain ⟨c, cs, hs, -⟩ := h.head_host
    rw [hs]
    exact List.cons_ne_nil _ _
  · rcases h.mem_cases hc with hc | rfl
    · rw [Zone.isBare, hc]; rfl
    · rfl

/-! ### Lines -/

def LineKind.code : LineKind → Nat
  | a => 1
  | aaaa => 28
  | ptr => 12

namespace RecordLine

def WellFormed (l : RecordLine) : Prop :=
  WellFormedName l.owner ∧ (l.kind = .ptr → WellFormedName l.data)

/-- What the table of a responder keeps a line under. -/
def key (l : RecordLine) : RecordKey :=
  ⟨.ofList (l.owner.toList.map Char.toLower), l.kind.code, .ofList (l.data.toList.map Char.toLower)⟩

/-- A line from a name to an address, or from one name to another, with a time to live that can be read. -/
inductive Written : RecordLine → Prop
  | address {labels : List (List Char)} {owner : String} (ho : Spells labels owner) (a : AddressV4)
      {ttl : Nat} (ht : ttl ≤ 4294967295) : Written ⟨owner, ttl, .a, a.text⟩
  | pointer {labels more : List (List Char)} {owner target : String} (ho : Spells labels owner)
      (hd : Spells more target) {ttl : Nat} (ht : ttl ≤ 4294967295) : Written ⟨owner, ttl, .ptr, target⟩

theorem text_toList (l : RecordLine) : l.text.toList =
    l.owner.toList ++ Zone.spaced [Number.intText l.ttl, "IN", l.kind.name, l.data] := by
  simp [text, Zone.spaced]

end RecordLine

/-! ### What is read -/

theorem intText_natCast (n : Nat) : Number.intText n = Number.natText n := by
  rw [Number.intText, if_neg (by omega), Int.natAbs_natCast]

theorem bareWord_natText (n : Nat) : Zone.BareWord (Number.natText n) := by
  refine ⟨Number.natText_ne_nil n, fun c hc => ?_⟩
  have digit := Number.isDigit_of_mem_natText hc
  simp only [Zone.isBare, isHostChar_of_isDigit digit, Bool.true_or]

theorem bareWord_of_all {s : String} (h : s.toList ≠ [] ∧ s.toList.all Zone.isBare = true) :
    Zone.BareWord s :=
  ⟨h.1, List.all_eq_true.mp h.2⟩

theorem bareWord_address (a : AddressV4) : Zone.BareWord a.text := by
  have first : a.text.toList ≠ [] := by
    rw [Zone.toList_address]
    simp [AddressV4.octets, Text.joinChars]
  refine ⟨first, fun c hc => ?_⟩
  rw [Zone.toList_address] at hc
  rcases Text.mem_joinChars hc with hc | ⟨cs, hcs, hc⟩
  · rw [List.mem_singleton.mp hc]
    rfl
  · obtain ⟨x, -, rfl⟩ := List.mem_map.mp hcs
    exact (bareWord_natText x.toNat).2 c hc

/-- The words of a line make the record that the line holds. -/
theorem read_text {owner data : String} (ho : Zone.BareWord owner) {ttl : Nat} (ht : ttl ≤ 4294967295)
    (kind : LineKind) (hd : Zone.BareWord data) :
    Zone.read (RecordLine.text ⟨owner, ttl, kind, data⟩) = (do
      let name ← Name.below? Name.root owner
      let made ← Zone.data? Name.root kind.name [data]
      some [⟨name, ttl, .internet, made⟩]) := by
  have named : owner ≠ "" ∧ owner ≠ "@" :=
    ⟨Zone.ne_of_bare ho fun h => h.1 rfl,
      Zone.ne_of_bare ho (Zone.not_bare_of_mem (c := '@') (by decide) rfl)⟩
  have words : ∀ s ∈ [Number.intText ttl, "IN", kind.name, data], Zone.BareWord s := by
    simp only [List.forall_mem_cons, intText_natCast]
    refine ⟨bareWord_natText ttl, bareWord_of_all (by decide), ?_, hd, nofun⟩
    cases kind <;> exact bareWord_of_all (by decide)
  rw [Zone.read_of_words (RecordLine.text_toList _) ho words, intText_natCast,
    Zone.record?_of_words named.1 named.2 ht]
  cases Name.below? Name.root owner with
  | none => rfl
  | some name => cases Zone.data? Name.root kind.name [data] <;> rfl

namespace Responder

/-- The line is read as a record with this key. -/
def Names (line : String) (k : RecordKey) : Prop :=
  ∃ record, readLine line = .ok record ∧ record.key = k

/-- The line is read as one record. -/
def Reads (line : String) : Prop :=
  ∃ record, readLine line = .ok record

/-- A line is accepted exactly if its owner is read as a name and its data as data of its kind. -/
theorem readLine_text_iff {owner data : String} (ho : Zone.BareWord owner) {ttl : Nat}
    (ht : ttl ≤ 4294967295) (kind : LineKind) (hd : Zone.BareWord data) (record : Record) :
    readLine (RecordLine.text ⟨owner, ttl, kind, data⟩) = .ok record ↔
      ∃ name made, Name.below? Name.root owner = some name ∧ Zone.data? Name.root kind.name [data] = some made ∧
        record = ⟨name, ttl, .internet, made⟩ := by
  rw [readLine, read_text ho ht kind hd]
  cases Name.below? Name.root owner with
  | none => simp
  | some name =>
    cases Zone.data? Name.root kind.name [data] with
    | none => simp
    | some made => simp [eq_comm]

theorem readLine_address {labels : List (List Char)} {owner : String} (ho : Spells labels owner)
    (a : AddressV4) {ttl : Nat} (ht : ttl ≤ 4294967295) :
    readLine (RecordLine.text ⟨owner, ttl, .a, a.text⟩) =
      if labels.all Name.isLabel then .ok ⟨Name.ofLabels labels, ttl, .internet, .a a⟩
      else .error (.unreadable (RecordLine.text ⟨owner, ttl, .a, a.text⟩)) := by
  rw [readLine, read_text (bareWord_of_spells ho) ht .a (bareWord_address a), Name.below?_of_spells ho, LineKind.name,
    Zone.data?_address]
  by_cases h : labels.all Name.isLabel = true <;> simp [h]

theorem readLine_pointer {labels more : List (List Char)} {owner target : String} (ho : Spells labels owner)
    (hd : Spells more target) {ttl : Nat} (ht : ttl ≤ 4294967295) :
    readLine (RecordLine.text ⟨owner, ttl, .ptr, target⟩) =
      if labels.all Name.isLabel && more.all Name.isLabel then
        .ok ⟨Name.ofLabels labels, ttl, .internet, .ptr (Name.ofLabels more)⟩
      else .error (.unreadable (RecordLine.text ⟨owner, ttl, .ptr, target⟩)) := by
  rw [readLine, read_text (bareWord_of_spells ho) ht .ptr (bareWord_of_spells hd), Name.below?_of_spells ho, LineKind.name,
    Zone.data?_pointer, Name.below?_of_spells hd]
  by_cases h : labels.all Name.isLabel = true <;> by_cases hm : more.all Name.isLabel = true <;>
    simp [h, hm]

theorem key_address {labels : List (List Char)} {owner : String} (ho : Spells labels owner)
    (a : AddressV4) (ttl : Nat) :
    Record.key ⟨Name.ofLabels labels, ttl, .internet, .a a⟩ = RecordLine.key ⟨owner, ttl, .a, a.text⟩ := by
  have data : (RecordData.a a).folded = String.ofList (a.text.toList.map Char.toLower) := by
    rw [← String.toList_map, String.ofList_toList]
    rfl
  rw [Record.key, Name.folded_ofLabels ho, data]
  rfl

theorem key_pointer {labels more : List (List Char)} {owner target : String} (ho : Spells labels owner)
    (hd : Spells more target) (ttl : Nat) :
    Record.key ⟨Name.ofLabels labels, ttl, .internet, .ptr (Name.ofLabels more)⟩ =
      RecordLine.key ⟨owner, ttl, .ptr, target⟩ := by
  have data : (RecordData.ptr (Name.ofLabels more)).folded =
      String.ofList (target.toList.map Char.toLower) := by
    rw [← String.toList_map, String.ofList_toList, ← Name.text_ofLabels hd]
    rfl
  rw [Record.key, Name.folded_ofLabels ho, data]
  rfl

/-- A line is read exactly if it is well formed, and then as a record with its key. -/
theorem names_iff {l : RecordLine} (h : l.Written) (k : RecordKey) :
    Names l.text k ↔ l.WellFormed ∧ k = l.key := by
  cases h with
  | address ho a ht =>
    rw [Names, readLine_address ho a ht, RecordLine.WellFormed, wellFormedName_iff ho]
    split
    · rename_i hw
      simp [hw, key_address ho, eq_comm]
    · rename_i hw
      simp [hw]
  | pointer ho hd ht =>
    rw [Names, readLine_pointer ho hd ht, RecordLine.WellFormed, wellFormedName_iff ho,
      wellFormedName_iff hd]
    split
    · rename_i hw
      rw [Bool.and_eq_true] at hw
      simp only [hw, Except.ok.injEq, exists_eq_left', key_pointer ho hd, forall_const, true_and]
      exact eq_comm
    · rename_i hw
      rw [Bool.and_eq_true, not_and] at hw
      constructor
      · rintro ⟨record, hr, -⟩
        cases hr
      · rintro ⟨⟨first, second⟩, -⟩
        exact absurd (second rfl) (hw first)

theorem reads_of_named {l : RecordLine} (named : ∀ k, Names l.text k ↔ k = l.key) : Reads l.text := by
  obtain ⟨record, read, -⟩ := (named l.key).mpr rfl
  exact ⟨record, read⟩

theorem reads_iff {l : RecordLine} (h : l.Written) : Reads l.text ↔ l.WellFormed := by
  constructor
  · rintro ⟨record, hr⟩
    exact ((names_iff h record.key).mp ⟨record, hr, rfl⟩).1
  · exact fun hw => reads_of_named fun k => (names_iff h k).trans (and_iff_right hw)

end Responder

end ClusterMdns
