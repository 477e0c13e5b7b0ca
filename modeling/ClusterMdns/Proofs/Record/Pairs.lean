import ClusterMdns.Proofs.Record.Columns
import Mathlib.Data.List.Perm.Basic

/-! Lines to an address and lines back match one to one, however often names and addresses are repeated. -/

namespace ClusterMdns

open Document

/-! ### Addresses as they are given -/

namespace Address

/-- The address that a text with blanks around it is, before it is normalised. -/
def given? (s : String) : Option Address :=
  readChars? (Text.trimChars s.toList)

theorem read?_eq_v4_iff {s : String} {a : AddressV4} : read? s = some (v4 a) ↔
    given? s = some (v4 a) ∨ ∃ b, given? s = some (v6 b) ∧ b.Maps a := by
  have read : read? s = (given? s).map normalize := rfl
  simp only [read, ← AddressV6.mapped?_eq_some_iff]
  cases given? s with
  | none => simp
  | some found =>
    cases found with
    | v4 b => simp [normalize]
    | v6 b => cases mapped : b.mapped? <;> simp [normalize, mapped]

theorem read?_eq_v6_iff {s : String} {b : AddressV6} : read? s = some (v6 b) ↔
    given? s = some (v6 b) ∧ ∀ a, ¬ b.Maps a := by
  have read : read? s = (given? s).map normalize := rfl
  rw [read, ← AddressV6.mapped?_eq_none_iff]
  cases given? s with
  | none => simp
  | some found =>
    cases found with
    | v4 a => simp [normalize]
    | v6 c =>
      cases mapped : c.mapped? with
      | none =>
        simp only [Option.map_some, normalize, mapped, Option.some.injEq, v6.injEq]
        exact ⟨fun h => ⟨h, h ▸ mapped⟩, And.left⟩
      | some a =>
        simp only [Option.map_some, normalize, mapped, Option.some.injEq, v6.injEq, reduceCtorEq, false_iff]
        rintro ⟨rfl, h⟩
        cases h.symm.trans mapped

end Address

/-! ### Lines of a name -/

theorem RecordPolicy.lineKind_ne_ptr (a : Address) : RecordPolicy.lineKind a ≠ .ptr := by
  cases a <;> exact nofun

namespace RecordLine

/-- The line says that the name has the address. -/
def leads (n : String) (a : Address) (l : RecordLine) : Bool :=
  l.kind != .ptr && l.owner == n && l.data == a.text

/-- The line says that the address belongs to the name. -/
def returns (n : String) (a : Address) (l : RecordLine) : Bool :=
  l.kind == .ptr && some l.owner == a.reverseName? && l.data == n

end RecordLine

namespace RecordPolicy

variable (policy : RecordPolicy) {r : Resource}

/-- The lines of an address for one name. -/
def linesPer (r : Resource) (a : Address) (name : String) : List RecordLine :=
  a.reverseName?.elim [] fun reverse => policy.namespacedLines r a reverse name ++
    if policy.publishesUnqualified r then policy.bareLines a reverse name else []

theorem length_linesPer {a : Address} (h : a.scope? = none) (r : Resource) (name : String) :
    (policy.linesPer r a name).length = 4 + 2 * (policy.publishesUnqualified r).toNat := by
  obtain ⟨reverse, hr, -⟩ := Address.spells_reverseName h
  cases bare : policy.publishesUnqualified r <;> simp [linesPer, namespacedLines, bareLines, hr, bare]

theorem linesFor_perm (r : Resource) (a : Address) :
    (policy.linesFor r a).Perm (r.names.flatMap (policy.linesPer r a)) := by
  cases hr : a.reverseName? with
  | none => simp [linesFor, linesPer, hr]
  | some reverse =>
    let bareOf name := if policy.publishesUnqualified r then policy.bareLines a reverse name else []
    have bare : (if policy.publishesUnqualified r then r.names.flatMap (policy.bareLines a reverse) else []) =
        r.names.flatMap bareOf := by
      cases h : policy.publishesUnqualified r <;> simp [bareOf, h]
    have each : policy.linesPer r a = fun name => policy.namespacedLines r a reverse name ++ bareOf name := by
      funext name
      rw [linesPer, hr]
      rfl
    simp only [linesFor, hr, Option.elim_some, linesAt, bare, each]
    exact List.flatMap_append_perm _ _ _

@[simp] theorem leads_forward (a b : Address) (owner n : String) :
    (policy.forward a owner).leads n b = (owner == n && a.text == b.text) := by
  have kind : (lineKind a != .ptr) = true := bne_iff_ne.mpr (lineKind_ne_ptr a)
  rw [RecordLine.leads, forward, kind, Bool.true_and]

@[simp] theorem returns_forward (a b : Address) (owner n : String) :
    (policy.forward a owner).returns n b = false := by
  have kind : (lineKind a == .ptr) = false := beq_eq_false_iff_ne.mpr (lineKind_ne_ptr a)
  rw [RecordLine.returns, forward, kind, Bool.false_and, Bool.false_and]

@[simp] theorem leads_backward (reverse target n : String) (b : Address) :
    (policy.backward reverse target).leads n b = false := rfl

@[simp] theorem returns_backward (reverse target n : String) (b : Address) :
    (policy.backward reverse target).returns n b = (some reverse == b.reverseName? && target == n) := rfl

theorem count_linesPer (r : Resource) (a : Address) (name n : String) (b : Address) :
    (policy.linesPer r a name).countP (RecordLine.leads n b) =
      (policy.linesPer r a name).countP (RecordLine.returns n b) := by
  cases h : a.reverseName? with
  | none => simp [linesPer, h]
  | some reverse =>
    have same : (a.text == b.text) = (some reverse == b.reverseName?) := by
      rw [Bool.eq_iff_iff, beq_iff_eq, beq_iff_eq, Address.text_eq_iff_reverseName h, eq_comm]
    cases bare : policy.publishesUnqualified r <;>
      simp [linesPer, namespacedLines, bareLines, h, same, bare, List.countP_cons, Bool.and_comm]

/-! ### Lines of a resource -/

variable {given : List String}

theorem lines_perm (r : Resource) (given : List String) :
    ((policy.exposed given).flatMap (policy.linesFor r)).Perm
      ((policy.exposed given).flatMap fun a => r.names.flatMap (policy.linesPer r a)) :=
  List.Perm.flatMap_left _ fun a _ => policy.linesFor_perm r a

theorem count_lines (r : Resource) (given : List String) (n : String) (b : Address) :
    ((policy.exposed given).flatMap (policy.linesFor r)).countP (RecordLine.leads n b) =
      ((policy.exposed given).flatMap (policy.linesFor r)).countP (RecordLine.returns n b) := by
  simp only [(policy.lines_perm r given).countP_eq, List.countP_flatMap, Function.comp_def, count_linesPer]

theorem mem_lines_iff {l : RecordLine} : l ∈ (policy.exposed given).flatMap (policy.linesFor r) ↔
    ∃ a ∈ policy.exposed given, ∃ reverse, a.reverseName? = some reverse ∧ ∃ owner ∈ policy.owners r,
      l = policy.forward a owner ∨ l = policy.backward reverse owner := by
  have here (a : Address) : l ∈ policy.linesFor r a ↔ ∃ reverse, a.reverseName? = some reverse ∧
      ∃ owner ∈ policy.owners r, l = policy.forward a owner ∨ l = policy.backward reverse owner := by
    cases hr : a.reverseName? with
    | none => simp [linesFor, hr]
    | some reverse => simp [linesFor, hr, mem_linesAt]
  simp only [List.mem_flatMap, here]

theorem mem_exposed_v4 {a : AddressV4} : .v4 a ∈ policy.exposed given ↔ policy.exposeV4 = true ∧
    ∃ s ∈ given, Address.given? s = some (.v4 a) ∨
      ∃ b, Address.given? s = some (.v6 b) ∧ b.Maps a := by
  simp only [exposed, List.mem_filter, List.mem_filterMap, Address.read?_eq_v4_iff, exposes]
  exact and_comm

theorem mem_exposed_v6 {b : AddressV6} : .v6 b ∈ policy.exposed given ↔ policy.exposeV6 = true ∧
    ∃ s ∈ given, Address.given? s = some (.v6 b) ∧ ∀ a, ¬ b.Maps a := by
  simp only [exposed, List.mem_filter, List.mem_filterMap, Address.read?_eq_v6_iff, exposes]
  exact and_comm

/-- What the lines of a resource with these addresses say, taken together. -/
structure Paired (policy : RecordPolicy) (r : Resource) (given : List String) (lines : List RecordLine) :
    Prop where
  /-- Lines that lead from a name to an address, and lines back, are the same in number. -/
  matched (n : String) (a : Address) :
    lines.countP (RecordLine.leads n a) = lines.countP (RecordLine.returns n a)
  nothing_else : ∀ l ∈ lines, ∃ a ∈ policy.exposed given, ∃ n ∈ policy.owners r,
    l = policy.forward a n ∨ ∃ reverse, a.reverseName? = some reverse ∧ l = policy.backward reverse n
  lines_v4 : ∀ l ∈ lines, l.kind = .a → ∃ a, .v4 a ∈ policy.exposed given ∧ l.data = a.text
  lines_v6 : ∀ l ∈ lines, l.kind = .aaaa → ∃ a, .v6 a ∈ policy.exposed given ∧ l.data = a.text
  exposed_v4 (a : AddressV4) : .v4 a ∈ policy.exposed given ↔ policy.exposeV4 = true ∧
    ∃ s ∈ given, Address.given? s = some (.v4 a) ∨ ∃ b, Address.given? s = some (.v6 b) ∧ b.Maps a
  exposed_v6 (b : AddressV6) : .v6 b ∈ policy.exposed given ↔ policy.exposeV6 = true ∧
    ∃ s ∈ given, Address.given? s = some (.v6 b) ∧ ∀ a, ¬ b.Maps a
  /-- Each of these addresses has its share for each name, and that is all. -/
  shares : lines.Perm ((policy.exposed given).flatMap fun a => r.names.flatMap (policy.linesPer r a))
  share_length : ∀ a ∈ policy.exposed given, ∀ name,
    (policy.linesPer r a name).length = 4 + 2 * (policy.publishesUnqualified r).toNat
  /-- The owner of a line back, read as an address, is the address that its name leads to. -/
  reads_back : ∀ l ∈ lines, l.kind = .ptr →
    ∃ a, Address.ofReverseName? l.owner = some a ∧ policy.forward a l.data ∈ lines
  /-- The text of a line tells its columns. -/
  columns : ∀ l ∈ lines, RecordLine.columns? l.text = some (l.owner, l.kind, l.data)

variable {policy}

theorem scopeless_of_mem_exposed (writable : ∀ s ∈ given, policy.Writable s) {a : Address}
    (h : a ∈ policy.exposed given) : a.scope? = none := by
  obtain ⟨read, shown⟩ := List.mem_filter.mp h
  obtain ⟨s, hs, read⟩ := List.mem_filterMap.mp read
  exact writable s hs a read shown

/-- Whenever lines are written, those to addresses and those back match one to one. -/
theorem forward_and_reverse_match {lines : List RecordLine} (h : (policy.lines r).outcome = .ok lines) :
    ∃ given : List String, r.addresses = given.map Value.str ∧ policy.Paired r given lines := by
  obtain ⟨given, texts, writable, rfl⟩ := policy.lines_eq_ok_iff.mp h
  refine ⟨given, texts, ?_⟩
  have leading {l : RecordLine} {kind : LineKind} (hl : l ∈ (policy.exposed given).flatMap (policy.linesFor r))
      (hk : l.kind = kind) (hne : kind ≠ .ptr) :
      ∃ a ∈ policy.exposed given, lineKind a = kind ∧ l.data = a.text := by
    obtain ⟨a, ha, reverse, -, n, -, rfl | rfl⟩ := policy.mem_lines_iff.mp hl
    · exact ⟨a, ha, hk, rfl⟩
    · exact absurd hk.symm hne
  exact {
    matched := policy.count_lines r given
    nothing_else := fun l hl => by
      obtain ⟨a, ha, reverse, hr, n, hn, rfl | rfl⟩ := policy.mem_lines_iff.mp hl
      · exact ⟨a, ha, n, hn, Or.inl rfl⟩
      · exact ⟨a, ha, n, hn, Or.inr ⟨reverse, hr, rfl⟩⟩
    lines_v4 := fun l hl hk => by
      obtain ⟨a | b, ha, kind, data⟩ := leading hl hk nofun
      · exact ⟨a, ha, data⟩
      · cases kind
    lines_v6 := fun l hl hk => by
      obtain ⟨a | b, ha, kind, data⟩ := leading hl hk nofun
      · cases kind
      · exact ⟨b, ha, data⟩
    exposed_v4 := fun a => policy.mem_exposed_v4
    exposed_v6 := fun b => policy.mem_exposed_v6
    shares := policy.lines_perm r given
    share_length := fun a ha => policy.length_linesPer (scopeless_of_mem_exposed writable ha) r
    reads_back := fun l hl hk => by
      obtain ⟨a, ha, reverse, hr, n, hn, rfl | rfl⟩ := policy.mem_lines_iff.mp hl
      · exact absurd hk (lineKind_ne_ptr a)
      · refine ⟨a, Address.ofReverseName?_reverseName hr, policy.mem_lines_iff.mpr ?_⟩
        exact ⟨a, ha, reverse, hr, n, hn, Or.inl rfl⟩
    columns := fun l hl => by
      obtain ⟨a, ha, reverse, hr, n, hn, rfl | rfl⟩ := policy.mem_lines_iff.mp hl
      · exact columns?_forward (scopeless_of_mem_exposed writable ha) n
      · exact columns?_backward hr hn }

/-! ### A name that is given twice -/

/-- Of the addresses one stands for one of version 4, and one is no address. -/
def repeatedResource : Resource where
  source := .service
  action := .added
  names := ["web", "web"]
  namespaceName := .str "default"
  addresses := ["::ffff:192.0.2.7", " 2001:db8::1 ", "web.default"].map Value.str

theorem forward_and_reverse_match_repeated :
    ∃ lines, (RecordPolicy.lines { exposeV6 := true } repeatedResource).outcome = .ok lines ∧
      lines.length = 24 ∧ ∃ given : List String, repeatedResource.addresses = given.map Value.str ∧
        RecordPolicy.Paired { exposeV6 := true } repeatedResource given lines := by
  have writable : ∀ s ∈ ["::ffff:192.0.2.7", " 2001:db8::1 ", "web.default"],
      RecordPolicy.Writable { exposeV6 := true } s := by
    decide +kernel
  have written := (lines_eq_ok_iff { exposeV6 := true } (r := repeatedResource)).mpr ⟨_, rfl, writable, rfl⟩
  exact ⟨_, written, by decide +kernel, forward_and_reverse_match written⟩

end RecordPolicy

end ClusterMdns
