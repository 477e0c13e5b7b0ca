import ClusterMdns.Proofs.Address.Groups
import ClusterMdns.Proofs.Dns.Packet
import ClusterMdns.Proofs.Record.Lines
import Mathlib.Data.List.Forall2

/-! What the lines of a resource are meant to say, as records that are made of its names and addresses without
any text between. A line is read as the record that it is meant to be, or not at all; and it is read exactly if
no label is too long and the time to live fits. -/

namespace ClusterMdns

open Dns Document

/-! ### Times to live that do not fit -/

namespace Dns.Zone

theorem code?_of_hyphen {s : String} (h : s.toList.head? = some '-') : RecordType.code? s = none := by
  have none_named : ∀ e ∈ RecordType.names, e.2.toList.head? ≠ some '-' := by decide
  have unnamed : RecordType.names.find? (·.2 == s) = none := by
    refine List.find?_eq_none.mpr fun e he heq => none_named e he ?_
    rw [eq_of_beq heq, h]
  have unmarked : RecordType.codeMark.toList.isPrefixOf s.toList = false := by
    cases hs : s.toList with
    | nil => rfl
    | cons c cs =>
      rw [hs, List.head?_cons, Option.some.injEq] at h
      subst h
      rfl
  rw [RecordType.code?, unnamed]
  simp only [unmarked, Bool.false_eq_true, if_false]

theorem intText_of_neg {n : Int} (h : n < 0) :
    (Number.intText n).toList = '-' :: (Number.natText n.natAbs).toList := by
  rw [Number.intText, if_pos h, String.toList_append]
  rfl

/-- A number with a sign is taken for a type, and there is none of that name. -/
theorem record?_of_negative (owner : String) {ttl : Int} (h : ttl < 0) (type data : String) :
    ({} : Context).record? [owner, Number.intText ttl, "IN", type, data] = none := by
  have sign := intText_of_neg h
  have digits : isNumber (Number.intText ttl) = false := by
    rw [isNumber, sign]
    exact Bool.and_false _
  have named {s : String} (hs : s.toList.head? ≠ some '-') : Number.intText ttl ≠ s := by
    rintro rfl
    rw [sign] at hs
    exact hs rfl
  have untyped : data? Name.root (Number.intText ttl) ["IN", type, data] = none := by
    rw [data?, code?_of_hyphen (by rw [sign]; rfl)]
    rfl
  have time : ttlOf? 0 = some 0 := by decide
  have body : ({} : Context).body? [Number.intText ttl, "IN", type, data] = none := by
    simp only [Context.body?, List.head?_cons, List.tail_cons, digits, time, Option.bind_eq_bind,
      Option.bind_some, Bool.false_eq_true, if_false]
    split
    · rename_i heq
      exact absurd heq (named (by decide))
    · rename_i heq
      exact absurd heq (named (by decide))
    · rfl
    · simp [untyped]
  simp [Context.record?, body]

theorem record?_of_great (owner : String) {ttl : Nat} (h : 4294967295 < ttl) (type data : String) :
    ({} : Context).record? [owner, Number.natText ttl, "IN", type, data] = none := by
  have late : ttlOf? (ttl : Int) = none := by
    rw [ttlOf?, if_neg]
    rw [Bool.and_eq_true, decide_eq_true_eq, decide_eq_true_eq, ttlLimit]
    omega
  cases hread : Number.readInt? (Number.natText ttl) with
  | none => simp [Context.record?, Context.body?, isNumber_natText, hread]
  | some n =>
    rw [Number.eq_of_readInt?_natText hread] at hread
    simp [Context.record?, Context.body?, isNumber_natText, hread, late]

end Dns.Zone

theorem bareWord_intText (n : Int) : Zone.BareWord (Number.intText n) := by
  by_cases h : n < 0
  · refine ⟨by simp [Zone.intText_of_neg h], fun c hc => ?_⟩
    rw [Zone.intText_of_neg h] at hc
    rcases List.mem_cons.mp hc with rfl | hc
    · rfl
    · exact (bareWord_natText n.natAbs).2 c hc
  · rw [Number.intText, if_neg h]
    exact bareWord_natText n.natAbs

namespace Responder

/-- A line of plain words is accepted exactly if its time to live fits, its owner is read as a name and its
data as data of its kind. -/
theorem readLine_words_iff {owner data : String} (ho : Zone.BareWord owner) (ttl : Int) (kind : LineKind)
    (hd : Zone.BareWord data) (record : Record) :
    readLine (RecordLine.text ⟨owner, ttl, kind, data⟩) = .ok record ↔
      (0 ≤ ttl ∧ ttl ≤ 4294967295) ∧ ∃ name made, Name.below? Name.root owner = some name ∧
        Zone.data? Name.root kind.name [data] = some made ∧ record = ⟨name, ttl.toNat, .internet, made⟩ := by
  have refused (h : ({} : Zone.Context).record? [owner, Number.intText ttl, "IN", kind.name, data] = none) :
      ¬ readLine (RecordLine.text ⟨owner, ttl, kind, data⟩) = .ok record := by
    have words : ∀ s ∈ [Number.intText ttl, "IN", kind.name, data], Zone.BareWord s := by
      simp only [List.forall_mem_cons]
      refine ⟨bareWord_intText ttl, bareWord_of_all (by decide), ?_, hd, List.forall_mem_nil _⟩
      cases kind <;> exact bareWord_of_all (by decide)
    rw [readLine, Zone.read_of_words (RecordLine.text_toList _) ho words, h]
    intro accepted
    cases accepted
  by_cases negative : ttl < 0
  · refine iff_of_false (refused (Zone.record?_of_negative owner negative _ _)) ?_
    rintro ⟨⟨h, -⟩, -⟩
    omega
  · obtain ⟨n, rfl⟩ := Int.eq_ofNat_of_zero_le (Int.not_lt.mp negative)
    by_cases fits : n ≤ 4294967295
    · rw [readLine_text_iff ho fits kind hd, Int.toNat_natCast]
      exact (and_iff_right ⟨by omega, by omega⟩).symm
    · refine iff_of_false (refused ?_) ?_
      · rw [intText_natCast]
        exact Zone.record?_of_great owner (Nat.not_le.mp fits) _ _
      · rintro ⟨⟨-, h⟩, -⟩
        omega

end Responder

/-! ### Names and addresses without text between -/

/-- The labels of a name between its dots. -/
def labelsIn (name : String) : List (List Char) :=
  Text.splitChars (· == '.') name.toList

theorem HostName.spells {name : String} (h : HostName name) : Spells (labelsIn name) (name ++ ".") := by
  obtain ⟨labels, h⟩ := h
  have pieces := h.pieces
  rw [String.toList_append] at pieces
  have parts : labelsIn name = labels :=
    List.append_cancel_right ((Text.splitChars_concat rfl name.toList).symm.trans pieces)
  rwa [parts]

theorem all_isLabel_iff {labels : List (List Char)} {s : String} (h : Spells labels s) :
    labels.all Name.isLabel = true ↔ (Name.ofLabels labels).HasShortLabels := by
  rw [List.all_eq_true, Name.HasShortLabels, Name.ofLabels, List.forall_mem_map]
  refine forall₂_congr fun label hl => ?_
  have := List.length_pos_of_ne_nil (h.label_ne_nil label hl)
  simp only [Name.isLabel, Bool.and_eq_true, decide_eq_true_eq, List.length_map]
  omega

namespace Address

/-- What a record says of the address. -/
def data : Address → RecordData
  | v4 a => .a a
  | v6 a => .aaaa a.groups

def scope? : Address → Option String
  | v4 _ => none
  | v6 a => a.scope

/-- The labels of the name for reverse look-ups: the numbers of version 4, or the hexadecimal digits of
version 6, the last one first. -/
def reverseLabels : Address → List (List Char)
  | v4 a => ClusterMdns.reverseLabels a
  | v6 a => a.nibbles.reverse.map ([·]) ++ ["ip6".toList, "arpa".toList]

theorem isHostChar_of_mem_hexDigits {width n : Nat} {c : Char} (h : c ∈ Text.hexDigits width n) :
    isHostChar c = true := by
  have digit : ∀ d < 16, isHostChar (Text.hexDigit d) = true := by decide
  induction width generalizing n with
  | zero => cases h
  | succ width ih =>
    rcases List.mem_append.mp h with h | h
    · exact ih h
    · rw [List.mem_singleton.mp h]
      exact digit _ (Nat.mod_lt n (by decide))

theorem spells_reverseName {a : Address} (h : a.scope? = none) :
    ∃ reverse, a.reverseName? = some reverse ∧ Spells a.reverseLabels reverse := by
  cases a with
  | v4 a => exact ⟨_, rfl, spells_reverse a⟩
  | v6 a =>
    have host : ∀ s ∈ a.nibbles.reverse.map String.singleton ++ ["ip6", "arpa"], HostLabel s := by
      refine List.forall_mem_append.mpr ⟨List.forall_mem_map.mpr fun c hc => ?_, by decide⟩
      obtain ⟨g, -, hg⟩ := List.mem_flatMap.mp (List.mem_reverse.mp hc)
      refine ⟨by simp, fun x hx => ?_⟩
      rw [String.toList_singleton, List.mem_singleton] at hx
      exact hx ▸ isHostChar_of_mem_hexDigits hg
    have spelled := spells_joined (List.append_ne_nil_of_right_ne_nil _ (List.cons_ne_nil _ _)) host
    have labels : (a.nibbles.reverse.map String.singleton ++ ["ip6", "arpa"]).map String.toList =
        reverseLabels (v6 a) := by
      rw [List.map_append, List.map_map, reverseLabels]
      refine congrArg (· ++ _) (List.map_congr_left fun c _ => ?_)
      exact String.toList_singleton c
    rw [labels, List.append_assoc] at spelled
    refine ⟨_, ?_, spelled⟩
    have scope : a.scope = none := h
    rw [reverseName?, AddressV6.reverseName?, scope]
    rfl

theorem bareWord_groups (groups : Vector UInt16 8) : Zone.BareWord (AddressV6.text ⟨groups, none⟩) := by
  refine ⟨List.ne_nil_of_mem (AddressV6.colon_mem_text _), fun c hc => ?_⟩
  rcases AddressV6.mem_text_cases hc with h | rfl
  · rw [Zone.isBare, h]
    rfl
  · rfl

/-- The text of an address without a scope is plain. -/
theorem bareWord_text {a : Address} (h : a.scope? = none) : Zone.BareWord a.text := by
  cases a with
  | v4 a => exact bareWord_address a
  | v6 a =>
    obtain ⟨groups, scope⟩ := a
    cases h
    exact bareWord_groups groups

theorem data?_text {a : Address} (h : a.scope? = none) :
    Zone.data? Name.root (RecordPolicy.lineKind a).name [a.text] = some a.data := by
  cases a with
  | v4 a => exact Zone.data?_address a
  | v6 a =>
    obtain ⟨groups, scope⟩ := a
    cases h
    have code : RecordType.code? "AAAA" = some 28 := rfl
    have read := Zone.groupsV6?_text groups
    simp [Zone.data?, RecordPolicy.lineKind, LineKind.name, code, text, read, data]

end Address

/-! ### Records that are meant -/

/-- The labels of `name.space.local`. -/
def dottedLabels (space name : String) : List (List Char) :=
  labelsIn name ++ [space.toList] ++ ["local".toList]

/-- The labels of `name-space.local`. -/
def hyphenatedLabels (space name : String) : List (List Char) :=
  labelsIn (name ++ "-" ++ space) ++ ["local".toList]

/-- The labels of `name.local`. -/
def bareLabels (name : String) : List (List Char) :=
  labelsIn name ++ ["local".toList]

theorem HostName.hyphen {name space : String} (h : HostName name) (hs : HostLabel space) :
    HostName (name ++ "-" ++ space) := by
  obtain ⟨labels, h⟩ := h
  obtain ⟨front, last, rfl⟩ := (List.eq_nil_or_concat labels).resolve_left h.some_label
  rw [List.concat_eq_append] at h
  exact ⟨_, spells_hyphen h hs⟩

theorem hyphenatedName_eq {r : Resource} {space : String} (hs : r.namespaceName = .str space) (name : String) :
    r.hyphenatedName name = Resource.bareName (name ++ "-" ++ space) := by
  have text : r.namespaceName.text = space := by rw [hs]; rfl
  rw [Resource.hyphenatedName, text, Resource.bareName]

namespace RecordPolicy

variable (policy : RecordPolicy)

/-- That a name has an address. -/
def hostRecord (a : Address) (labels : List (List Char)) : Record :=
  ⟨Name.ofLabels labels, policy.ttl.toNat, .internet, a.data⟩

/-- That an address belongs to a name. -/
def reverseRecord (a : Address) (labels : List (List Char)) : Record :=
  ⟨Name.ofLabels a.reverseLabels, policy.ttl.toNat, .internet, .ptr (Name.ofLabels labels)⟩

/-- What is to be said of one address. -/
def intendedAt (r : Resource) (space : String) (a : Address) : List Record :=
  r.names.flatMap (fun name =>
    [policy.hostRecord a (dottedLabels space name), policy.hostRecord a (hyphenatedLabels space name),
      policy.reverseRecord a (dottedLabels space name),
      policy.reverseRecord a (hyphenatedLabels space name)]) ++
    if policy.publishesUnqualified r then r.names.flatMap fun name =>
      [policy.hostRecord a (bareLabels name), policy.reverseRecord a (bareLabels name)]
    else []

/-- What is to be said of a resource with these addresses. Only those that can be read and are not hidden
count. -/
def intended (r : Resource) (space : String) (addresses : List String) : List Record :=
  ((addresses.filterMap Address.read?).filter policy.exposes).flatMap (policy.intendedAt r space)

/-- The line is accepted exactly if the record has short labels and the time to live fits, and then it is
read as the record. -/
def Means (l : RecordLine) (record : Record) : Prop :=
  ∀ found, Responder.readLine l.text = .ok found ↔
    found = record ∧ policy.TtlFits ∧ ∀ name ∈ record.owner :: record.data.names, name.HasShortLabels

variable {policy}

theorem forward_means {a : Address} (h : a.scope? = none) {labels : List (List Char)} {owner : String}
    (ho : Spells labels owner) : policy.Means (policy.forward a owner) (policy.hostRecord a labels) := by
  intro found
  have nameless : a.data.names = [] := by cases a <;> rfl
  rw [forward, Responder.readLine_words_iff (bareWord_of_spells ho) _ _ (Address.bareWord_text h),
    Name.below?_of_spells ho, Address.data?_text h]
  simp only [hostRecord, nameless, List.forall_mem_singleton, ← all_isLabel_iff ho]
  constructor
  · rintro ⟨fits, name, made, hn, hm, rfl⟩
    split at hn
    · cases hn
      cases hm
      exact ⟨rfl, fits, ‹_›⟩
    · cases hn
  · rintro ⟨rfl, fits, short⟩
    exact ⟨fits, _, _, if_pos short, rfl, rfl⟩

theorem backward_means {a : Address} {reverse target : String} (hr : Spells a.reverseLabels reverse)
    {labels : List (List Char)} (ht : Spells labels target) :
    policy.Means (policy.backward reverse target) (policy.reverseRecord a labels) := by
  intro found
  rw [backward, Responder.readLine_words_iff (bareWord_of_spells hr) _ _ (bareWord_of_spells ht),
    Name.below?_of_spells hr, LineKind.name, Zone.data?_pointer, Name.below?_of_spells ht]
  simp only [reverseRecord, RecordData.names, List.forall_mem_cons, List.not_mem_nil, false_imp_iff,
    implies_true, and_true, ← all_isLabel_iff hr, ← all_isLabel_iff ht]
  constructor
  · rintro ⟨fits, name, made, hn, hm, rfl⟩
    split at hn
    · split at hm
      · cases hn
        cases hm
        exact ⟨rfl, fits, ‹_›, ‹_›⟩
      · cases hm
    · cases hn
  · rintro ⟨rfl, fits, owner, short⟩
    exact ⟨fits, _, _, if_pos owner, by rw [if_pos short]; rfl, rfl⟩

section
variable {r : Resource} {space : String}

theorem linesAt_means (hs : r.namespaceName = .str space) (label : HostLabel space)
    (names : ∀ name ∈ r.names, HostName name) {a : Address} (h : a.scope? = none) {reverse : String}
    (hr : Spells a.reverseLabels reverse) :
    List.Forall₂ policy.Means (policy.linesAt r a reverse) (policy.intendedAt r space a) := by
  have each {f : String → List RecordLine} {g : String → List Record}
      (hfg : ∀ name ∈ r.names, List.Forall₂ policy.Means (f name) (g name)) :
      List.Forall₂ policy.Means (r.names.flatMap f) (r.names.flatMap g) := by
    have same : List.Forall₂ (fun x y => x = y ∧ x ∈ r.names) r.names r.names :=
      List.forall₂_same.mpr fun name hn => ⟨rfl, hn⟩
    refine List.rel_flatMap same ?_
    rintro name _ ⟨rfl, hn⟩
    exact hfg name hn
  refine List.rel_append (each fun name hn => ?_) ?_
  · have spelled := (names name hn).spells
    have dotted := spells_dotted hs label spelled
    have hyphenated := spells_bare ((names name hn).hyphen label).spells
    rw [← hyphenatedName_eq hs] at hyphenated
    exact .cons (forward_means h dotted) (.cons (forward_means h hyphenated)
      (.cons (backward_means hr dotted) (.cons (backward_means hr hyphenated) .nil)))
  · split
    · refine each fun name hn => ?_
      have spelled := spells_bare (names name hn).spells
      exact .cons (forward_means h spelled) (.cons (backward_means hr spelled) .nil)
    · exact .nil

theorem intended_cons (s : String) (addresses : List String) :
    policy.intended r space (s :: addresses) =
      policy.intended r space [s] ++ policy.intended r space addresses := by
  simp only [intended, ← List.flatMap_append, ← List.filter_append, ← List.filterMap_append,
    List.singleton_append]

theorem linesOf_means (policy : RecordPolicy) (hs : r.namespaceName = .str space) (label : HostLabel space)
    (names : ∀ name ∈ r.names, HostName name) {s : String} (h : ∀ a ∈ Address.read? s, a.scope? = none) :
    ∃ lines, (policy.linesOf r (.str s)).outcome = .ok lines ∧
      List.Forall₂ policy.Means lines (policy.intended r space [s]) := by
  simp only [linesOf, Value.asText, Logged.outcome_bind, Logged.outcome_lift]
  simp only [bind, Except.bind, intended]
  cases read : Address.read? s with
  | none =>
    rw [List.filterMap_cons_none read]
    exact ⟨[], rfl, .nil⟩
  | some a =>
    rw [List.filterMap_cons_some read, List.filterMap_nil]
    dsimp only
    cases exposed : policy.exposes a with
    | false =>
      rw [List.filter_cons_of_neg (by simp [exposed])]
      exact ⟨[], rfl, .nil⟩
    | true =>
      obtain ⟨reverse, hr, spelled⟩ := Address.spells_reverseName (h a read)
      rw [List.filter_cons_of_pos exposed, List.filter_nil, List.flatMap_singleton, if_pos rfl, hr]
      exact ⟨policy.linesAt r a reverse, rfl, linesAt_means hs label names (h a read) spelled⟩

/-- Every line that is written for a resource says what it is meant to say. -/
theorem lines_read_as_intended (hs : r.namespaceName = .str space) (label : HostLabel space)
    (names : ∀ name ∈ r.names, HostName name) {addresses : List String}
    (given : r.addresses = addresses.map Value.str)
    (scopeless : ∀ s ∈ addresses, ∀ a ∈ Address.read? s, a.scope? = none) :
    ∃ lines, (policy.lines r).outcome = .ok lines ∧
      List.Forall₂ policy.Means lines (policy.intended r space addresses) := by
  rw [lines, given]
  clear given
  induction addresses with
  | nil => exact ⟨[], rfl, .nil⟩
  | cons s addresses ih =>
    obtain ⟨first, later⟩ := List.forall_mem_cons.mp scopeless
    obtain ⟨here, hhere, meant⟩ := linesOf_means policy hs label names first
    obtain ⟨more, hmore, means⟩ := ih later
    refine ⟨here ++ more, ?_, ?_⟩
    · simp only [List.map_cons, linesOfAll, Logged.outcome_bind, hhere, hmore]
      rfl
    · rw [intended_cons]
      exact List.rel_append meant means

end

/-! ### A resource with addresses of both versions -/

def twoFamilies : List String := ["192.0.2.1", "2001:db8::1"]

def webResource : Resource where
  source := .service
  action := .added
  names := ["web", "api.web"]
  namespaceName := .str "shop"
  addresses := twoFamilies.map Value.str

theorem web_names : ∀ name ∈ webResource.names, HostName name := by
  have web : HostLabel "web" := by decide
  have api : HostLabel "api" := by decide
  have both : HostName "api.web" := ⟨_, api.spells.append web.spells⟩
  exact List.forall_mem_cons.mpr ⟨⟨_, web.spells⟩, List.forall_mem_singleton.mpr both⟩

theorem lines_read_as_intended_web :
    (∀ s ∈ twoFamilies, ∃ a, Address.read? s = some a ∧ a.scope? = none) ∧
      ∃ lines, (RecordPolicy.lines { exposeV6 := true } webResource).outcome = .ok lines ∧
        List.Forall₂ (RecordPolicy.Means { exposeV6 := true }) lines
          (RecordPolicy.intended { exposeV6 := true } webResource "shop" twoFamilies) := by
  have read : Address.read? "192.0.2.1" = some (.v4 ⟨192, 0, 2, 1⟩) ∧
      Address.read? "2001:db8::1" = some (.v6 ⟨#v[0x2001, 0xdb8, 0, 0, 0, 0, 0, 1], none⟩) := by
    decide +kernel
  have scopeless : ∀ s ∈ twoFamilies, ∃ a, Address.read? s = some a ∧ a.scope? = none :=
    List.forall_mem_cons.mpr ⟨⟨_, read.1, rfl⟩, List.forall_mem_singleton.mpr ⟨_, read.2, rfl⟩⟩
  refine ⟨scopeless, lines_read_as_intended rfl (by decide) web_names rfl fun s hs a ha => ?_⟩
  obtain ⟨b, hb, none⟩ := scopeless s hs
  rw [Option.mem_def, hb, Option.some.injEq] at ha
  exact ha ▸ none

end RecordPolicy

end ClusterMdns
