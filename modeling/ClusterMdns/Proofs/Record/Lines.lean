import ClusterMdns.Proofs.Outcome
import ClusterMdns.Proofs.Record.Reading

/-! The lines that are written for a resource whose addresses are of version 4: for each address and each name
that the resource gets, one line from the name to the address and one back. If its names and its namespace
are spelled in letters, digits and hyphens, so are the names in all lines. -/

namespace ClusterMdns

open Dns Document

/-! ### Lines of an address -/

namespace RecordPolicy

variable (policy : RecordPolicy)

/-- All names that a resource gets. -/
def owners (r : Resource) : List String :=
  r.names.flatMap (fun name => [r.dottedName name, r.hyphenatedName name]) ++
    if policy.publishesUnqualified r then r.names.map Resource.bareName else []

theorem mem_linesAt {r : Resource} {a : Address} {reverse : String} {l : RecordLine} :
    l ∈ policy.linesAt r a reverse ↔
      ∃ owner ∈ policy.owners r, l = policy.forward a owner ∨ l = policy.backward reverse owner := by
  have namespaced (name : String) : l ∈ policy.namespacedLines r a reverse name ↔
      ∃ owner ∈ [r.dottedName name, r.hyphenatedName name],
        l = policy.forward a owner ∨ l = policy.backward reverse owner := by
    simp only [namespacedLines, List.mem_cons, List.not_mem_nil, or_false, exists_eq_or_imp,
      exists_eq_left]
    constructor
    · rintro (h | h | h | h) <;> simp [h]
    · rintro ((h | h) | h | h) <;> simp [h]
  have bare (name : String) : l ∈ policy.bareLines a reverse name ↔
      l = policy.forward a (Resource.bareName name) ∨
        l = policy.backward reverse (Resource.bareName name) := by
    simp [bareLines]
  unfold linesAt owners
  cases policy.publishesUnqualified r with
  | false =>
    simp only [Bool.false_eq_true, if_false, List.append_nil, List.mem_flatMap, namespaced]
    constructor
    · rintro ⟨name, hn, owner, ho, h⟩
      exact ⟨owner, ⟨name, hn, ho⟩, h⟩
    · rintro ⟨owner, ⟨name, hn, ho⟩, h⟩
      exact ⟨name, hn, owner, ho, h⟩
  | true =>
    simp only [if_true, List.mem_append, List.mem_flatMap, List.mem_map, namespaced, bare]
    constructor
    · rintro (⟨name, hn, owner, ho, h⟩ | ⟨name, hn, h⟩)
      · exact ⟨owner, Or.inl ⟨name, hn, ho⟩, h⟩
      · exact ⟨_, Or.inr ⟨name, hn, rfl⟩, h⟩
    · rintro ⟨owner, ⟨name, hn, ho⟩ | ⟨name, hn, rfl⟩, h⟩
      · exact Or.inl ⟨name, hn, owner, ho, h⟩
      · exact Or.inr ⟨name, hn, h⟩

end RecordPolicy

/-- The value is the text of an address of version 4. -/
def ReadsV4 (given : Value) (a : AddressV4) : Prop :=
  ∃ s, given = .str s ∧ Address.read? s = some (.v4 a)

namespace RecordPolicy

variable (policy : RecordPolicy)

theorem linesOf_outcome (r : Resource) {given : Value} {a : AddressV4} (h : ReadsV4 given a) :
    (policy.linesOf r given).outcome =
      .ok (if policy.exposeV4 then policy.linesAt r (.v4 a) a.reverseName else []) := by
  obtain ⟨s, rfl, hs⟩ := h
  simp only [linesOf, Value.asText, Logged.outcome_bind, Logged.outcome_lift]
  simp only [bind, Except.bind, hs]
  have family : policy.exposes (.v4 a) = policy.exposeV4 := rfl
  rw [← family]
  split <;> rfl

/-- Every address has its lines if the family is exposed, and nothing goes wrong. -/
theorem lines_outcome {r : Resource} {as : List AddressV4} (h : List.Forall₂ ReadsV4 r.addresses as) :
    (policy.lines r).outcome =
      .ok (as.flatMap fun a => if policy.exposeV4 then policy.linesAt r (.v4 a) a.reverseName else []) := by
  have all : ∀ {given : List Value} {as : List AddressV4}, List.Forall₂ ReadsV4 given as →
      (policy.linesOfAll r given).outcome =
        .ok (as.flatMap fun a => if policy.exposeV4 then policy.linesAt r (.v4 a) a.reverseName else []) := by
    intro given as h
    induction h with
    | nil => rfl
    | cons first _ ih =>
      simp only [linesOfAll, Logged.outcome_bind, ih, policy.linesOf_outcome r first, List.flatMap_cons]
      rfl
  exact all h

theorem mem_lines {r : Resource} {as : List AddressV4} (h : List.Forall₂ ReadsV4 r.addresses as)
    {lines : List RecordLine} (hl : (policy.lines r).outcome = .ok lines) (l : RecordLine) :
    l ∈ lines ↔ policy.exposeV4 = true ∧ ∃ a ∈ as, ∃ owner ∈ policy.owners r,
      l = policy.forward (.v4 a) owner ∨ l = policy.backward a.reverseName owner := by
  rw [policy.lines_outcome h] at hl
  cases hl
  cases policy.exposeV4 <;> simp [mem_linesAt]

end RecordPolicy

/-! ### Spelled names -/

/-- Letters, digits and hyphens. -/
def HostLabel (s : String) : Prop :=
  s.toList ≠ [] ∧ ∀ c ∈ s.toList, isHostChar c = true

instance (s : String) : Decidable (HostLabel s) :=
  decidable_of_iff (s.toList ≠ [] ∧ s.toList.all isHostChar = true) (and_congr_right' List.all_eq_true)

/-- Such labels between dots. -/
def HostName (s : String) : Prop :=
  ∃ labels, Spells labels (s ++ ".")

theorem HostLabel.spells {s : String} (h : HostLabel s) : Spells [s.toList] (s ++ ".") :=
  spells_label h.1 h.2

theorem spells_local : Spells ["local".toList] "local." :=
  have label : HostLabel "local" := by decide
  label.spells

/-- A label that goes on behind a hyphen. -/
theorem spells_hyphen {front : List (List Char)} {last : List Char} {name space : String}
    (h : Spells (front ++ [last]) (name ++ ".")) (hs : HostLabel space) :
    Spells (front ++ [last ++ '-' :: space.toList]) (name ++ "-" ++ space ++ ".") where
  chars := by
    have cut : name.toList = front.flatMap (· ++ ['.']) ++ last := by
      have := h.chars
      rw [String.toList_append, List.flatMap_append, List.flatMap_singleton, ← List.append_assoc] at this
      exact List.append_cancel_right this
    simp [cut]
  some_label := List.append_ne_nil_of_right_ne_nil _ (List.cons_ne_nil _ _)
  label_ne_nil := by
    refine List.forall_mem_append.mpr ⟨(List.forall_mem_append.mp h.label_ne_nil).1, ?_⟩
    exact List.forall_mem_singleton.mpr (List.append_ne_nil_of_right_ne_nil _ (List.cons_ne_nil _ _))
  host := by
    obtain ⟨hf, hl⟩ := List.forall_mem_append.mp h.host
    refine List.forall_mem_append.mpr ⟨hf, List.forall_mem_singleton.mpr fun c hc => ?_⟩
    rcases List.mem_append.mp hc with hc | hc
    · exact List.forall_mem_singleton.mp hl c hc
    · rcases List.mem_cons.mp hc with rfl | hc
      · rfl
      · exact hs.2 c hc

section
variable {r : Resource} {space name : String} {labels front : List (List Char)} {last : List Char}

theorem spells_dotted (hs : r.namespaceName = .str space) (label : HostLabel space)
    (h : Spells labels (name ++ ".")) :
    Spells (labels ++ [space.toList] ++ ["local".toList]) (r.dottedName name) := by
  have text : r.namespaceName.text = space := by rw [hs]; rfl
  have parts : r.dottedName name = name ++ "." ++ (space ++ ".") ++ "local." := by
    simp [Resource.dottedName, text, String.ext_iff]
  rw [parts]
  exact (h.append label.spells).append spells_local

theorem spells_hyphenated (hs : r.namespaceName = .str space) (label : HostLabel space)
    (h : Spells (front ++ [last]) (name ++ ".")) :
    Spells (front ++ [last ++ '-' :: space.toList] ++ ["local".toList]) (r.hyphenatedName name) := by
  have text : r.namespaceName.text = space := by rw [hs]; rfl
  have parts : r.hyphenatedName name = name ++ "-" ++ space ++ "." ++ "local." := by
    simp [Resource.hyphenatedName, text, String.ext_iff]
  rw [parts]
  exact (spells_hyphen h label).append spells_local

theorem spells_bare (h : Spells labels (name ++ ".")) :
    Spells (labels ++ ["local".toList]) (Resource.bareName name) := by
  have parts : Resource.bareName name = name ++ "." ++ "local." := by
    simp [Resource.bareName, String.ext_iff]
  rw [parts]
  exact h.append spells_local

theorem mem_owners {policy : RecordPolicy} {owner : String} : owner ∈ policy.owners r ↔
    ∃ name ∈ r.names, owner = r.dottedName name ∨ owner = r.hyphenatedName name ∨
      policy.publishesUnqualified r = true ∧ owner = Resource.bareName name := by
  unfold RecordPolicy.owners
  cases policy.publishesUnqualified r with
  | false => simp
  | true =>
    simp only [if_true, List.mem_append, List.mem_flatMap, List.mem_map, List.mem_cons, List.not_mem_nil,
      or_false, true_and]
    constructor
    · rintro (⟨name, hn, rfl | rfl⟩ | ⟨name, hn, rfl⟩)
      · exact ⟨name, hn, Or.inl rfl⟩
      · exact ⟨name, hn, Or.inr (Or.inl rfl)⟩
      · exact ⟨name, hn, Or.inr (Or.inr rfl)⟩
    · rintro ⟨name, hn, rfl | rfl | rfl⟩
      · exact Or.inl ⟨name, hn, Or.inl rfl⟩
      · exact Or.inl ⟨name, hn, Or.inr rfl⟩
      · exact Or.inr ⟨name, hn, rfl⟩

/-- The names that a resource gets are spelled if its own names and its namespace are. -/
theorem owners_spelled (policy : RecordPolicy) (hs : r.namespaceName = .str space)
    (label : HostLabel space) (names : ∀ name ∈ r.names, HostName name) :
    ∀ owner ∈ policy.owners r, ∃ labels, Spells labels owner := by
  intro owner ho
  obtain ⟨name, hn, ho⟩ := mem_owners.mp ho
  obtain ⟨labels, h⟩ := names name hn
  rcases ho with rfl | rfl | ⟨-, rfl⟩
  · exact ⟨_, spells_dotted hs label h⟩
  · obtain ⟨front, last, rfl⟩ := (List.eq_nil_or_concat labels).resolve_left h.some_label
    rw [List.concat_eq_append] at h
    exact ⟨_, spells_hyphenated hs label h⟩
  · exact ⟨_, spells_bare h⟩

end

/-! ### Reverse names -/

def reverseLabels (a : AddressV4) : List (List Char) :=
  (a.octets.reverse.map fun x => (Number.natText x.toNat).toList) ++ ["in-addr".toList, "arpa".toList]

/-- Labels with a dot behind each. -/
theorem spells_joined {labels : List String} (hne : labels ≠ []) (host : ∀ s ∈ labels, HostLabel s) :
    Spells (labels.map String.toList) (Text.join "." (labels ++ [""])) where
  chars := by
    rw [Text.toList_join, List.map_append]
    exact Text.joinChars_concat_nil _ _
  some_label := mt List.map_eq_nil_iff.mp hne
  label_ne_nil := List.forall_mem_map.mpr fun s hs => (host s hs).1
  host := List.forall_mem_map.mpr fun s hs => (host s hs).2

theorem spells_reverse (a : AddressV4) : Spells (reverseLabels a) a.reverseName := by
  have host : ∀ s ∈ a.octets.reverse.map (fun x => Number.natText x.toNat) ++ ["in-addr", "arpa"],
      HostLabel s := by
    refine List.forall_mem_append.mpr ⟨List.forall_mem_map.mpr fun x _ => ?_, by decide⟩
    exact ⟨Number.natText_ne_nil x.toNat, fun c hc => isHostChar_of_isDigit (Number.isDigit_of_mem_natText hc)⟩
  have spelled := spells_joined (List.append_ne_nil_of_right_ne_nil _ (List.cons_ne_nil _ _)) host
  rw [List.map_append, List.map_map, List.append_assoc] at spelled
  rw [AddressV4.reverseName, AddressV4.pieces, ← List.map_reverse]
  exact spelled

theorem reverse_wellFormed (a : AddressV4) : WellFormedName a.reverseName := by
  rw [wellFormedName_iff (spells_reverse a), List.all_eq_true]
  refine List.forall_mem_append.mpr ⟨?_, by decide⟩
  refine List.forall_mem_map.mpr fun x _ => ?_
  have short : (Number.natText x.toNat).toList.length ≤ 3 := by
    rw [Number.natText, String.toList_ofList, Nat.length_toDigits_le_iff (by decide) (by decide)]
    have := x.toNat_lt
    omega
  have some_digit := List.length_pos_of_ne_nil (Number.natText_ne_nil x.toNat)
  simp only [Name.isLabel, Bool.and_eq_true, decide_eq_true_eq]
  omega

/-! ### Lines of a spelled resource -/

/-- Times to live that fit into a record. -/
def RecordPolicy.TtlFits (policy : RecordPolicy) : Prop :=
  0 ≤ policy.ttl ∧ policy.ttl ≤ 4294967295

section
variable {policy : RecordPolicy} {r : Resource} {as : List AddressV4} {lines : List RecordLine}

theorem lines_written (ttl : policy.TtlFits) (h : List.Forall₂ ReadsV4 r.addresses as)
    (owners : ∀ owner ∈ policy.owners r, ∃ labels, Spells labels owner)
    (hl : (policy.lines r).outcome = .ok lines) : ∀ l ∈ lines, l.Written := by
  intro l hm
  obtain ⟨n, hn⟩ := Int.eq_ofNat_of_zero_le ttl.1
  have small : n ≤ 4294967295 := by
    have := ttl.2
    omega
  obtain ⟨-, a, -, owner, ho, rfl | rfl⟩ := (policy.mem_lines h hl l).mp hm
  · obtain ⟨labels, ho⟩ := owners owner ho
    rw [RecordPolicy.forward, hn]
    exact .address ho a small
  · obtain ⟨labels, ho⟩ := owners owner ho
    rw [RecordPolicy.backward, hn]
    exact .pointer (spells_reverse a) ho small

/-- All lines are well formed if all names of the resource are, or if there are no lines. -/
theorem wellFormed_lines_iff (h : List.Forall₂ ReadsV4 r.addresses as) (hne : as ≠ [])
    (hl : (policy.lines r).outcome = .ok lines) :
    (∀ l ∈ lines, l.WellFormed) ↔
      policy.exposeV4 = false ∨ ∀ owner ∈ policy.owners r, WellFormedName owner := by
  constructor
  · intro all
    cases exposed : policy.exposeV4 with
    | false => exact Or.inl rfl
    | true =>
      refine Or.inr fun owner ho => ?_
      obtain ⟨a, rest, rfl⟩ := List.exists_cons_of_ne_nil hne
      exact (all _ ((policy.mem_lines h hl _).mpr
        ⟨exposed, a, List.mem_cons_self, owner, ho, Or.inl rfl⟩)).1
  · intro fits l hm
    obtain ⟨exposed, a, -, owner, ho, hl⟩ := (policy.mem_lines h hl l).mp hm
    rcases fits with hidden | fits
    · rw [exposed] at hidden
      cases hidden
    · rcases hl with rfl | rfl
      · exact ⟨fits owner ho, nofun⟩
      · exact ⟨reverse_wellFormed a, fun _ => fits owner ho⟩

/-- Each line of a resource whose names are well formed is read as a record with the key of the line. -/
theorem lines_named {space : String} (ttl : policy.TtlFits) (h : List.Forall₂ ReadsV4 r.addresses as)
    (hne : as ≠ []) (hs : r.namespaceName = .str space) (label : HostLabel space)
    (names : ∀ name ∈ r.names, HostLabel name) (fits : ∀ owner ∈ policy.owners r, WellFormedName owner) :
    ∃ lines, (policy.lines r).outcome = .ok lines ∧ ∀ l ∈ lines, ∀ k, Responder.Names l.text k ↔ k = l.key := by
  have made := policy.lines_outcome h
  have spelled := owners_spelled policy hs label fun n hn => ⟨_, (names n hn).spells⟩
  have written := lines_written ttl h spelled made
  have good := (wellFormed_lines_iff h hne made).mpr (Or.inr fits)
  refine ⟨_, made, fun l hl k => ?_⟩
  rw [Responder.names_iff (written l hl), and_iff_right (good l hl)]

end

end ClusterMdns
