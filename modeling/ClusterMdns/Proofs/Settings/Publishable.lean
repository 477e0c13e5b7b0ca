import ClusterMdns.Proofs.Record.Addresses
import ClusterMdns.Proofs.Settings.Reload

/-! Whether the records that are written under loaded settings can be published. Of a resource with a short plain name
in a namespace with a short plain name, all lines are accepted if the time to live fits into a record, and none if
it does not; nothing else in the settings makes a difference. Every whole number is loaded as a time to live. -/

namespace ClusterMdns

open Dns Document

/-! ### Resources with short names -/

/-- A resource with one name of letters, digits and hyphens, in a namespace of the same kind, either of at most 30
characters; its addresses are valid and have no scope. -/
structure ShortNamed (r : Resource) (name space : String) (given : List String) : Prop where
  names : r.names = [name]
  namespaceName : r.namespaceName = .str space
  name_label : HostLabel name
  space_label : HostLabel space
  name_short : name.length ≤ 30
  space_short : space.length ≤ 30
  addresses : r.addresses = given.map Value.str
  valid : ∀ s ∈ given, ∃ a, Address.read? s = some a ∧ a.scope? = none

theorem isLabel_of_short {s : String} (h : HostLabel s) (short : s.length ≤ 63) :
    Name.isLabel s.toList = true := by
  have some_char := List.length_pos_of_ne_nil h.1
  rw [← String.length_toList] at short
  simp only [Name.isLabel, Bool.and_eq_true, decide_eq_true_eq]
  omega

theorem Address.isLabel_reverseLabels (a : Address) : a.reverseLabels.all Name.isLabel = true := by
  cases a with
  | v4 a => exact (wellFormedName_iff (spells_reverse a)).mp (reverse_wellFormed a)
  | v6 a =>
    rw [reverseLabels, List.all_append, List.all_map]
    have each : a.nibbles.reverse.all (Name.isLabel ∘ ([·])) = true :=
      List.all_eq_true.mpr fun c _ => rfl
    rw [each]
    decide

namespace ShortNamed

variable {r : Resource} {name space : String} {given : List String}

theorem scopeless (h : ShortNamed r name space given) {s : String} (hs : s ∈ given) {a : Address}
    (read : Address.read? s = some a) : a.scope? = none := by
  obtain ⟨b, hb, none⟩ := h.valid s hs
  cases hb.symm.trans read
  exact none

/-- The longest label joins the name and the namespace, and has at most 61 characters. -/
theorem owner (h : ShortNamed r name space given) {policy : RecordPolicy} {owner : String}
    (ho : owner ∈ policy.owners r) :
    ∃ labels, Spells labels owner ∧ labels.all Name.isLabel = true := by
  obtain ⟨own_name, hn, ho⟩ := mem_owners.mp ho
  rw [h.names, List.mem_singleton] at hn
  subst own_name
  have name_short := h.name_short
  have space_short := h.space_short
  have top : Name.isLabel "local".toList = true := by decide
  have own := isLabel_of_short h.name_label (by omega)
  have around := isLabel_of_short h.space_label (by omega)
  have spelled := h.name_label.spells
  have all_singleton (label : List Char) : [label].all Name.isLabel = Name.isLabel label := Bool.and_true _
  rcases ho with rfl | rfl | ⟨-, rfl⟩
  · refine ⟨_, spells_dotted h.namespaceName h.space_label spelled, ?_⟩
    rw [List.all_append, List.all_append, all_singleton, all_singleton, all_singleton, own, around, top]
    rfl
  · have last : Spells ([] ++ [name.toList]) (name ++ ".") := spelled
    refine ⟨_, spells_hyphenated h.namespaceName h.space_label last, ?_⟩
    have joined : Name.isLabel (name.toList ++ '-' :: space.toList) = true := by
      simp only [Name.isLabel, List.length_append, List.length_cons, String.length_toList, Bool.and_eq_true,
        decide_eq_true_eq]
      omega
    rw [List.all_append, List.nil_append, all_singleton, all_singleton, joined, top]
    rfl
  · refine ⟨_, spells_bare spelled, ?_⟩
    rw [List.all_append, all_singleton, all_singleton, own, top]
    rfl

theorem lines (h : ShortNamed r name space given) (policy : RecordPolicy) :
    (policy.lines r).outcome = .ok ((policy.exposed given).flatMap (policy.linesFor r)) := by
  have writable : ∀ s ∈ given, policy.Writable s := fun s hs a ha _ => h.scopeless hs ha
  rw [RecordPolicy.lines, h.addresses, policy.linesOfAll_of_writable writable]

/-- A line is accepted exactly if the time to live fits. -/
theorem reads_iff (h : ShortNamed r name space given) {policy : RecordPolicy} {l : RecordLine}
    (hl : l ∈ (policy.exposed given).flatMap (policy.linesFor r)) :
    Responder.Reads l.text ↔ policy.TtlFits := by
  obtain ⟨a, ha, hl⟩ := List.mem_flatMap.mp hl
  obtain ⟨s, hs, read⟩ := List.mem_filterMap.mp (List.mem_filter.mp ha).1
  have scopeless := h.scopeless hs read
  obtain ⟨reverse, hr, spelled⟩ := Address.spells_reverseName scopeless
  rw [RecordPolicy.linesFor, hr] at hl
  obtain ⟨owner, ho, hl⟩ := policy.mem_linesAt.mp hl
  obtain ⟨labels, owned, short⟩ := h.owner ho
  have accepted {record : Record} (means : policy.Means l record)
      (short : ∀ name ∈ record.owner :: record.data.names, name.HasShortLabels) :
      Responder.Reads l.text ↔ policy.TtlFits := by
    constructor
    · rintro ⟨found, read⟩
      exact ((means found).mp read).2.1
    · exact fun fits => ⟨record, (means record).mpr ⟨rfl, fits, short⟩⟩
  have owner_short := (all_isLabel_iff owned).mp short
  rcases hl with rfl | rfl
  · refine accepted (RecordPolicy.forward_means scopeless owned) ?_
    have nameless : a.data.names = [] := by cases a <;> rfl
    rw [RecordPolicy.hostRecord, nameless]
    exact List.forall_mem_singleton.mpr owner_short
  · refine accepted (RecordPolicy.backward_means spelled owned) ?_
    have reverse_short := (all_isLabel_iff spelled).mp a.isLabel_reverseLabels
    exact List.forall_mem_cons.mpr ⟨reverse_short, List.forall_mem_singleton.mpr owner_short⟩

end ShortNamed

/-! ### Times to live that are loaded -/

namespace Settings

theorem nodup_fileContent {host : Host} {file : String} {content : Layer}
    (h : (fileContent host file).outcome = .ok content) : content.keys.Nodup := by
  rw [fileContent, Logged.outcome_bind, bind_eq_ok] at h
  obtain ⟨found, -, h⟩ := h
  cases found with
  | none =>
    cases h
    exact List.nodup_nil
  | some path =>
    obtain ⟨v, -, h⟩ := bind_eq_ok.mp ((Logged.outcome_bind ..).symm.trans h)
    split at h
    · rename_i entries _
      have made : Except.mapError SettingsError.fault
          (entries.mapM (fun e => do pure (← keyName e.1, e.2)) >>= fun named => .ok (Table.ofList named)) =
            .ok content := h
      cases named : entries.mapM (fun e => do pure (← keyName e.1, e.2)) with
      | error f =>
        rw [named] at made
        cases made
      | ok named' =>
        rw [named] at made
        cases made
        exact Table.nodup_ofList named'
    · cases h

/-- The settings with another time to live. -/
def withTtl (σ : Settings) (n : Int) : Settings :=
  have content : Setting.recordTtl.Content := n
  σ.set .recordTtl content

theorem withTtl_self (σ : Settings) (n : Int) : (σ.withTtl n).recordTtl = n :=
  σ.get_set_self .recordTtl _

theorem withTtl_of_ne (σ : Settings) (n : Int) {s : Setting} (h : .recordTtl ≠ s) : (σ.withTtl n).get s = σ.get s :=
  σ.get_set_of_ne h _

/-- A last flag that is a whole number sets the time to live, and changes nothing else. -/
theorem load_with_ttl {host : Host} {flags : List (String × Value)} {env : Environment} {file : String}
    {σ : Settings} (loaded : (load host flags env file).outcome = .ok σ) (n : Int) :
    (load host (flags ++ [("record_ttl", .int n)]) env file).outcome = .ok (σ.withTtl n) := by
  rw [load_steps, bind_eq_ok] at loaded ⊢
  obtain ⟨content, read, loaded⟩ := loaded
  obtain ⟨τ, applied, watched⟩ := bind_eq_ok.mp loaded
  obtain ⟨rfl, some_source⟩ := watching_eq_ok_iff.mp watched
  have nodup (flags : List (String × Value)) : (above content flags env).keys.Nodup :=
    nodup_above (nodup_fileContent read) flags env
  refine ⟨content, read, bind_eq_ok.mpr ⟨τ.withTtl n, ?_, ?_⟩⟩
  · refine (apply_eq_ok_iff (nodup _) _ _).mpr fun s => ?_
    have before := (apply_eq_ok_iff (nodup _) _ _).mp applied s
    have given : (flags ++ [("record_ttl", Value.int n)]).filter (!isNull ·.2) =
        flags.filter (!isNull ·.2) ++ [("record_ttl", .int n)] := List.filter_append ..
    rw [find?_above, given, Table.last?_concat]
    by_cases ttl : Setting.recordTtl = s
    · subst ttl
      exact congrArg Except.ok (τ.withTtl_self n).symm
    · have other : "record_ttl" ≠ s.name := fun h => ttl (Setting.name_inj h)
      rw [if_neg other, ← find?_above, withTtl_of_ne τ n ttl, before]
  · exact watching_eq_ok_iff.mpr ⟨rfl, some_source⟩

/-- Under settings that were loaded all lines of a resource with short names are accepted if the time to live fits,
and none of them otherwise. No whole number is refused as a time to live: put behind the flags, any other one is
loaded in its place. -/
theorem publishable_iff_ttl_fits {host : Host} {flags : List (String × Value)} {env : Environment} {file : String}
    {σ : Settings} (loaded : (load host flags env file).outcome = .ok σ) :
    (∀ r name space given, ShortNamed r name space given →
      (σ.recordPolicy.TtlFits → ∃ lines, (σ.recordPolicy.lines r).outcome = .ok lines ∧
        ∀ l ∈ lines, Responder.Reads l.text) ∧
      (¬ σ.recordPolicy.TtlFits → ∀ lines, (σ.recordPolicy.lines r).outcome = .ok lines →
        ∀ l ∈ lines, ¬ Responder.Reads l.text)) ∧
    ∀ n : Int, (load host (flags ++ [("record_ttl", .int n)]) env file).outcome = .ok (σ.withTtl n) := by
  refine ⟨fun r name space given short => ⟨fun fits => ?_, fun late lines written l hl read => ?_⟩,
    load_with_ttl loaded⟩
  · exact ⟨_, short.lines σ.recordPolicy, fun l hl => (short.reads_iff hl).mpr fits⟩
  · rw [short.lines] at written
    cases written
    exact late ((short.reads_iff hl).mp read)

/-! ### A service under the settings of a household -/

def lampResource : Resource where
  source := .service
  action := .added
  names := ["lamp"]
  namespaceName := .str "home"
  addresses := [.str "192.0.2.1"]

theorem lamp_short : ShortNamed lampResource "lamp" "home" ["192.0.2.1"] where
  names := rfl
  namespaceName := rfl
  name_label := by decide
  space_label := by decide
  name_short := by decide
  space_short := by decide
  addresses := rfl
  valid := by
    have read : Address.read? "192.0.2.1" = some (.v4 ⟨192, 0, 2, 1⟩) := by
      decide +kernel
    exact List.forall_mem_singleton.mpr ⟨_, read, rfl⟩

theorem publishable_iff_ttl_fits_household :
    (load bareHost householdFlags householdEnvironment "").outcome = .ok household ∧
      (∃ lines, (household.recordPolicy.lines lampResource).outcome = .ok lines ∧
        ∀ l ∈ lines, Responder.Reads l.text) ∧
      (load bareHost (householdFlags ++ [("record_ttl", .int 4294967296)]) householdEnvironment "").outcome =
        .ok (household.withTtl 4294967296) := by
  obtain ⟨lines, every⟩ := publishable_iff_ttl_fits household_loaded
  have fits : household.recordPolicy.TtlFits := by
    change 0 ≤ (60 : Int) ∧ (60 : Int) ≤ 4294967295
    decide
  exact ⟨household_loaded, (lines _ _ _ _ lamp_short).1 fits, every 4294967296⟩

theorem default_loaded : (load bareHost [] [] "").outcome = .ok default := by
  refine (load_eq_ok_iff (.absent bareHost_no_file) _ _ _).mpr ⟨fun s => ?_, by decide⟩
  cases s <;> rfl

/-- A negative time to live is loaded, and then none of the lines that are written can be published. -/
theorem negative_ttl_loaded : ∃ σ lines,
    (load bareHost [("record_ttl", .int (-1))] [] "").outcome = .ok σ ∧
      (σ.recordPolicy.lines lampResource).outcome = .ok lines ∧ lines ≠ [] ∧
      ∀ l ∈ lines, ¬ Responder.Reads l.text := by
  refine ⟨_, _, load_with_ttl default_loaded (-1), lamp_short.lines _, by decide +kernel, fun l hl read => ?_⟩
  have fits : 0 ≤ (-1 : Int) := ((lamp_short.reads_iff hl).mp read).1
  omega

end Settings

end ClusterMdns
