import ClusterMdns.Proofs.Pipeline.Confluence
import ClusterMdns.Proofs.Responder.History

/-! Dispatching in terms of sets of keys, for a responder without a connection whose lines are all read. An addition
joins the keys of the resource to those of the table, a deletion takes them away, and an update does one after the
other. All other entries stay as they are and where they are, a second dispatch of a resource does nothing, and
resources that share no key may be dispatched in either order. -/

namespace ClusterMdns

open Document Dns

/-- Apart from these keys the tables have the same entries, in the same order. -/
def Table.SameOutside {κ ν : Type} (keys : κ → Prop) (t u : Table κ ν) : Prop :=
  ∀ p : κ → Bool, (∀ k, p k = true → ¬ keys k) → u.under p = t.under p

theorem Table.SameOutside.trans {κ ν : Type} {first later both : κ → Prop} {t u w : Table κ ν}
    (h : SameOutside first t u) (g : SameOutside later u w) (fi : ∀ k, first k → both k)
    (la : ∀ k, later k → both k) : SameOutside both t w := by
  intro p outside
  rw [g p fun k hp hk => outside k hp (la k hk), h p fun k hp hk => outside k hp (fi k hk)]

namespace RecordPolicy

/-- Lines can be made of the resource, and each is read as one record. -/
def Legible (policy : RecordPolicy) (res : Resource) : Prop :=
  ∃ lines, (policy.lines res).outcome = .ok lines ∧ ∀ l ∈ lines, Responder.Reads l.text

variable {policy : RecordPolicy} {res : Resource}

theorem Legible.marked (h : policy.Legible res) (mark : Action) : policy.Legible (res.withAction mark) := by
  rwa [Legible, lines_withAction]

end RecordPolicy

namespace Responder

variable {policy : RecordPolicy} {r : Responder} {res : Resource} {op : Operation}

/-! ### Entries that are not concerned -/

/-- A call leaves the entries alone that are not under the key of its line, also if it fails. -/
theorem call_sameOutside (op : Operation) (line : String) (r : Responder) :
    Table.SameOutside (Names line) r.table (publisher.call op line r).1.table := by
  intro p outside
  rw [call_perform]
  cases read : readLine line with
  | error e => rw [perform_unread read]
  | ok record =>
    have other : p record.key = false :=
      Bool.eq_false_iff.mpr fun hp => outside record.key hp ⟨record, read, rfl⟩
    rcases perform_cases read op r with ⟨told, table, changes⟩ | settled
    · rw [perform_changes read changes, announce_table]
      cases changes with
      | entered absent => simp [Table.under, other]
      | retracted held =>
        rw [Table.under_erase, other]
        rfl
    · rw [settled]

theorem callAll_sameOutside (op : Operation) (lines : List String) (r : Responder) :
    Table.SameOutside (fun k => ∃ line ∈ lines, Names line k) r.table (publisher.callAll op lines r).1.table := by
  induction lines generalizing r with
  | nil => exact fun _ _ => rfl
  | cons line rest ih =>
    have first := call_sameOutside op line r
    have here : ∀ k, Names line k → ∃ l ∈ line :: rest, Names l k := fun k hk => ⟨line, List.mem_cons_self, hk⟩
    have later : ∀ k, (∃ l ∈ rest, Names l k) → ∃ l ∈ line :: rest, Names l k := by
      rintro k ⟨l, hl, hk⟩
      exact ⟨l, List.mem_cons_of_mem _ hl, hk⟩
    cases hc : (publisher.call op line r).2.outcome with
    | error cause =>
      rw [Publisher.callAll_of_refused hc]
      exact fun p outside => first p fun k hp hk => outside k hp (here k hk)
    | ok _ =>
      rw [Publisher.callAll_of_accepted hc]
      exact first.trans (ih _) here later

theorem dispatch_sameOutside (policy : RecordPolicy) (res : Resource) (r : Responder) :
    Table.SameOutside (policy.Writes res) r.table (publisher.dispatch policy res r).1.table := by
  cases hop : res.action.operation? with
  | none =>
    rw [(Publisher.dispatch_of_none publisher policy hop r).1]
    exact fun _ _ => rfl
  | some op =>
    cases hl : (policy.lines res).outcome with
    | error f =>
      rw [(Publisher.dispatch_of_fault hop hl r).1]
      exact fun _ _ => rfl
    | ok lines =>
      rw [(Publisher.dispatch_of_lines hop hl r).1]
      intro p outside
      refine callAll_sameOutside op _ r p fun k hp => ?_
      rintro ⟨line, hm, hk⟩
      obtain ⟨l, hlm, rfl⟩ := List.mem_map.mp hm
      exact outside k hp ⟨lines, hl, l, hlm, hk⟩

/-! ### Dispatches that go well -/

/-- All went well: the table has these keys now, and only the entries of touched keys may differ. -/
structure Leads (r : Responder) (done : Responder × Logged DispatchFailure Unit) (touched held : RecordKey → Prop) :
    Prop where
  outcome : done.2.outcome = .ok ()
  quiet : Quiet done.1
  keys : ∀ k, k ∈ done.1.table.keys ↔ held k
  rest : Table.SameOutside touched r.table done.1.table

theorem dispatch_leads (quiet : Quiet r) (legible : policy.Legible res) (hop : res.action.operation? = some op) :
    Leads r (publisher.dispatch policy res r) (policy.Writes res)
      fun k => op.Leaves (policy.Writes res k) (k ∈ r.table.keys) := by
  obtain ⟨lines, made, reads⟩ := legible
  have outcome := (dispatch_accepted quiet hop made).mpr reads
  obtain ⟨after, keys⟩ := dispatch_table quiet hop outcome
  exact ⟨outcome, after, keys, dispatch_sameOutside policy res r⟩

theorem added_leads (quiet : Quiet r) (legible : policy.Legible res) :
    Leads r (publisher.dispatch policy (res.withAction .added) r) (policy.Writes res)
      fun k => k ∈ r.table.keys ∨ policy.Writes res k := by
  have leads := dispatch_leads quiet (legible.marked .added) rfl
  refine ⟨leads.outcome, leads.quiet, fun k => (leads.keys k).trans ?_, fun p outside => leads.rest p fun k hp => ?_⟩
  · exact (or_congr_left (RecordPolicy.writes_withAction .added k)).trans or_comm
  · exact mt (RecordPolicy.writes_withAction .added k).mp (outside k hp)

theorem deleted_leads (quiet : Quiet r) (legible : policy.Legible res) :
    Leads r (publisher.dispatch policy (res.withAction .deleted) r) (policy.Writes res)
      fun k => k ∈ r.table.keys ∧ ¬ policy.Writes res k := by
  have leads := dispatch_leads quiet (legible.marked .deleted) rfl
  refine ⟨leads.outcome, leads.quiet, fun k => (leads.keys k).trans ?_, fun p outside => leads.rest p fun k hp => ?_⟩
  · exact (and_congr_left' (not_congr (RecordPolicy.writes_withAction .deleted k))).trans and_comm
  · exact mt (RecordPolicy.writes_withAction .deleted k).mp (outside k hp)

theorem added_deleted_leads (quiet : Quiet r) (legible : policy.Legible res) :
    Leads r (publisher.dispatch policy (res.withAction .deleted)
      (publisher.dispatch policy (res.withAction .added) r).1) (policy.Writes res)
      fun k => k ∈ r.table.keys ∧ ¬ policy.Writes res k := by
  have added := added_leads quiet legible
  have deleted := deleted_leads added.quiet legible
  refine ⟨deleted.outcome, deleted.quiet, fun k => ?_, added.rest.trans deleted.rest (fun _ => id) fun _ => id⟩
  rw [deleted.keys, added.keys, or_and_right, and_not_self_iff, or_false]

theorem updated_leads (quiet : Quiet r) {old new : Resource} (gone : policy.Legible old)
    (made : policy.Legible new) :
    Leads r (publisher.dispatchUpdate policy old new r) (fun k => policy.Writes old k ∨ policy.Writes new k)
      fun k => (k ∈ r.table.keys ∧ ¬ policy.Writes old k) ∨ policy.Writes new k := by
  have deleted := deleted_leads quiet gone
  have added := added_leads deleted.quiet made
  obtain ⟨state, outcome⟩ := Publisher.dispatchUpdate_of_ok deleted.outcome new
  refine ⟨outcome.trans added.outcome, state ▸ added.quiet, fun k => ?_, ?_⟩
  · rw [state, added.keys, deleted.keys]
  · rw [state]
    exact deleted.rest.trans added.rest (fun _ => Or.inl) fun _ => Or.inr

/-! ### Dispatches that do nothing -/

/-- A call does nothing if the key of its line is there already, or is to be taken away and is not there. -/
theorem call_settled {line : String} (reads : Reads line)
    (settled : ∀ k, Names line k → (k ∈ r.table.keys ↔ op = .publish)) : publisher.call op line r = (r, .ok ()) := by
  obtain ⟨record, hr⟩ := reads
  have there := settled record.key ⟨record, hr, rfl⟩
  cases op with
  | publish =>
    have known := publish_known hr (there.mpr rfl)
    simp only [publisher, known]
    rfl
  | unpublish =>
    have absent := unpublish_absent hr (Table.find?_eq_none_iff.mpr (mt there.mp (by decide)))
    simp only [publisher, absent]
    rfl

theorem callAll_settled {lines : List String} (reads : ∀ line ∈ lines, Reads line)
    (settled : ∀ line ∈ lines, ∀ k, Names line k → (k ∈ r.table.keys ↔ op = .publish)) :
    (publisher.callAll op lines r).1 = r := by
  induction lines with
  | nil => rfl
  | cons line rest ih =>
    obtain ⟨first, later⟩ := List.forall_mem_cons.mp reads
    obtain ⟨here, there⟩ := List.forall_mem_cons.mp settled
    have nothing : publisher.call op line r = (r, .ok ()) := call_settled first here
    have accepted : (publisher.call op line r).2.outcome = .ok () := by
      rw [nothing]
      rfl
    rw [Publisher.callAll_of_accepted accepted, nothing]
    exact ih later there

/-- What a dispatch has done is not done again. -/
theorem dispatch_again (quiet : Quiet r) (legible : policy.Legible res) :
    (publisher.dispatch policy res (publisher.dispatch policy res r).1).1 = (publisher.dispatch policy res r).1 := by
  cases hop : res.action.operation? with
  | none => rw [(Publisher.dispatch_of_none publisher policy hop _).1]
  | some op =>
    have keys := (dispatch_leads quiet legible hop).keys
    generalize (publisher.dispatch policy res r).1 = once at keys ⊢
    obtain ⟨lines, made, reads⟩ := legible
    rw [(Publisher.dispatch_of_lines hop made _).1]
    refine callAll_settled (List.forall_mem_map.mpr reads) (List.forall_mem_map.mpr fun l hl k hk => ?_)
    have writes : policy.Writes res k := ⟨lines, made, l, hl, hk⟩
    rw [keys k]
    cases op with
    | publish => exact iff_of_true (Or.inl writes) rfl
    | unpublish => exact iff_of_false (fun h => h.1 writes) (by decide)

/-! ### Either order -/

theorem dispatch_legible (quiet : Quiet r) (legible : policy.Legible res) :
    (publisher.dispatch policy res r).2.outcome = .ok () ∧ Quiet (publisher.dispatch policy res r).1 := by
  cases hop : res.action.operation? with
  | none =>
    obtain ⟨same, accepted⟩ := Publisher.dispatch_of_none publisher policy hop r
    exact ⟨accepted, by rwa [same]⟩
  | some op =>
    have leads := dispatch_leads quiet legible hop
    exact ⟨leads.outcome, leads.quiet⟩

/-- Resources that share no key leave the same under every key in either order. -/
theorem effect_comm {first second : Resource} (apart : ∀ k, policy.Writes first k → ¬ policy.Writes second k)
    (k : RecordKey) (held : Option Record) :
    policy.effect k (policy.effect k held first) second = policy.effect k (policy.effect k held second) first := by
  by_cases own : policy.Writes first k
  · rw [RecordPolicy.effect_of_not_writes (apart k own), RecordPolicy.effect_of_not_writes (apart k own)]
  · rw [RecordPolicy.effect_of_not_writes own, RecordPolicy.effect_of_not_writes own]

theorem dispatch_comm (quiet : Quiet r) {first second : Resource} (hf : policy.Legible first)
    (hs : policy.Legible second) (apart : ∀ k, policy.Writes first k → ¬ policy.Writes second k) :
    ((publisher.dispatch policy second (publisher.dispatch policy first r).1).1.table).Perm
      (publisher.dispatch policy first (publisher.dispatch policy second r).1).1.table := by
  have after : ∀ {x y : Resource}, policy.Legible x → policy.Legible y →
      (publisher.dispatch policy y (publisher.dispatch policy x r).1).1.table.keys.Nodup ∧
      ∀ k, (publisher.dispatch policy y (publisher.dispatch policy x r).1).1.table.find? k =
        policy.effect k (policy.effect k (r.table.find? k) x) y := by
    intro x y hx hy
    obtain ⟨outcome, once⟩ := dispatch_legible quiet hx
    obtain ⟨nodup, found⟩ := dispatch_effect once.nodup (dispatch_legible once hy).1
    refine ⟨nodup, fun k => ?_⟩
    rw [found, (dispatch_effect quiet.nodup outcome).2]
  obtain ⟨left, foundLeft⟩ := after hf hs
  obtain ⟨right, foundRight⟩ := after hs hf
  refine Table.perm_of_find? left right fun k => ?_
  rw [foundLeft, foundRight, effect_comm apart]

/-- With lines that are all read: an addition joins the keys of the resource to those of the table, a deletion takes
them away, also after an addition, and an update takes the old ones away and joins the new ones. Other entries keep
their records and their order. A second dispatch changes nothing, and resources without common keys leave the same
entries in either order. -/
theorem dispatch_changes_keys (policy : RecordPolicy) {r : Responder} (quiet : Quiet r) :
    (∀ res, policy.Legible res →
      let added := publisher.dispatch policy (res.withAction .added) r
      Leads r added (policy.Writes res) (fun k => k ∈ r.table.keys ∨ policy.Writes res k) ∧
      Leads r (publisher.dispatch policy (res.withAction .deleted) r) (policy.Writes res)
        (fun k => k ∈ r.table.keys ∧ ¬ policy.Writes res k) ∧
      Leads r (publisher.dispatch policy (res.withAction .deleted) added.1) (policy.Writes res)
        (fun k => k ∈ r.table.keys ∧ ¬ policy.Writes res k)) ∧
    (∀ old new, policy.Legible old → policy.Legible new →
      Leads r (publisher.dispatchUpdate policy old new r) (fun k => policy.Writes old k ∨ policy.Writes new k)
        (fun k => (k ∈ r.table.keys ∧ ¬ policy.Writes old k) ∨ policy.Writes new k)) ∧
    (∀ res, policy.Legible res →
      let once := (publisher.dispatch policy res r).1
      (publisher.dispatch policy res once).1 = once) ∧
    ∀ first second, policy.Legible first → policy.Legible second →
      (∀ k, policy.Writes first k → ¬ policy.Writes second k) →
      ((publisher.dispatch policy second (publisher.dispatch policy first r).1).1.table).Perm
        (publisher.dispatch policy first (publisher.dispatch policy second r).1).1.table := by
  refine ⟨fun res legible => ⟨?_, ?_, ?_⟩, fun old new gone made => updated_leads quiet gone made,
    fun res legible => dispatch_again quiet legible,
    fun first second hf hs apart => dispatch_comm quiet hf hs apart⟩
  · exact added_leads quiet legible
  · exact deleted_leads quiet legible
  · exact added_deleted_leads quiet legible

/-! ### A resource whose names and addresses repeat -/

/-- A service with one name in two letter cases and one address in three spellings. -/
def respelled : Resource :=
  ⟨.service, .added, ["Shop", "shop", "Shop"], .str "default",
    [.str "192.0.2.1", .str "::ffff:192.0.2.1", .str " 192.0.2.1 "], false⟩

def shopRecord : Record :=
  ⟨Name.ofLabels ["SHOP".toList, "local".toList], 60, .internet, .a ⟨192, 0, 2, 1⟩⟩

def neighbour : Record :=
  ⟨Name.ofLabels ["neighbour".toList, "local".toList], 60, .internet, .a ⟨192, 0, 2, 9⟩⟩

/-- A responder that holds a record of that service, and one that is not of it. -/
def inhabited : Responder :=
  { table := [(shopRecord.key, shopRecord), (neighbour.key, neighbour)] }

theorem respelled_spelling :
    List.Forall₂ ReadsV4 respelled.addresses [⟨192, 0, 2, 1⟩, ⟨192, 0, 2, 1⟩, ⟨192, 0, 2, 1⟩] :=
  .cons ⟨_, rfl, by decide +kernel⟩ (.cons ⟨_, rfl, by decide +kernel⟩ (.cons ⟨_, rfl, by decide +kernel⟩ .nil))

theorem respelled_writes :
    ({} : RecordPolicy).Legible respelled ∧ ({} : RecordPolicy).Writes respelled shopRecord.key ∧
      ¬ ({} : RecordPolicy).Writes respelled neighbour.key := by
  have ttl : ({} : RecordPolicy).TtlFits := ⟨by decide, by decide⟩
  have space : HostLabel "default" := by decide
  have fits : ∀ owner ∈ ({} : RecordPolicy).owners respelled, WellFormedName owner := by decide
  obtain ⟨lines, made, named⟩ := lines_named ttl respelled_spelling (List.cons_ne_nil _ _) rfl space (by decide) fits
  have listed := RecordPolicy.mem_lines {} respelled_spelling made
  refine ⟨⟨lines, made, fun l hl => reads_of_named (named l hl)⟩, ?_, ?_⟩
  · have line := (listed _).mpr ⟨rfl, ⟨192, 0, 2, 1⟩, by decide, "Shop.local.", by decide, Or.inl rfl⟩
    exact ⟨lines, made, _, line, (named _ line _).mpr (by decide +kernel)⟩
  · rintro ⟨found, hl, l, hm, hk⟩
    cases made.symm.trans hl
    obtain ⟨-, a, ha, owner, ho, same⟩ := (listed l).mp hm
    have address : a = ⟨192, 0, 2, 1⟩ := by simpa using ha
    have others : ∀ owner ∈ ({} : RecordPolicy).owners respelled,
        neighbour.key ≠ (({} : RecordPolicy).forward (.v4 ⟨192, 0, 2, 1⟩) owner).key ∧
        neighbour.key ≠ (({} : RecordPolicy).backward (AddressV4.reverseName ⟨192, 0, 2, 1⟩) owner).key := by
      decide +kernel
    have key := (named l hm _).mp hk
    subst address
    rcases same with rfl | rfl
    · exact (others owner ho).1 key
    · exact (others owner ho).2 key

theorem host_legible {name : String} (h : name = "shop" ∨ name = "copy") (action : Action) :
    ({} : RecordPolicy).Legible (hostResource name action) := by
  obtain ⟨lines, made, named⟩ := host_lines h action
  exact ⟨lines, made, fun l hl => reads_of_named (named l hl)⟩

/-- Retracting the service leaves the record that is not of it, and so does moving it. -/
theorem dispatch_changes_keys_respelled :
    let added := publisher.dispatch {} (respelled.withAction .added) inhabited
    let deleted := publisher.dispatch {} (respelled.withAction .deleted) added.1
    let moved := publisher.dispatchUpdate {} respelled (hostResource "copy" .added) inhabited
    (deleted.2.outcome = .ok () ∧ shopRecord.key ∉ deleted.1.table.keys ∧
      deleted.1.table.under (fun k => k == neighbour.key) = [(neighbour.key, neighbour)]) ∧
    (moved.2.outcome = .ok () ∧ ∀ k, ({} : RecordPolicy).Writes (hostResource "copy" .added) k →
      k ∈ moved.1.table.keys) ∧
    (publisher.dispatch {} respelled added.1).1 = added.1 ∧
    (publisher.dispatch {} (hostResource "copy" .added)
      (publisher.dispatch {} (hostResource "shop" .added) inhabited).1).1.table.Perm
      (publisher.dispatch {} (hostResource "shop" .added)
        (publisher.dispatch {} (hostResource "copy" .added) inhabited).1).1.table := by
  have quiet : Quiet inhabited := ⟨rfl, by decide +kernel⟩
  obtain ⟨legible, writesShop, sparesNeighbour⟩ := respelled_writes
  have shop := host_legible (Or.inl rfl) .added
  have copy := host_legible (Or.inr rfl) .added
  have apart : ∀ k, ({} : RecordPolicy).Writes (hostResource "shop" .added) k →
      ¬ ({} : RecordPolicy).Writes (hostResource "copy" .added) k :=
    Controller.oneEach_apart 0 1 _ _ rfl rfl Nat.zero_ne_one _ List.mem_cons_self _ List.mem_cons_self
  obtain ⟨single, update, again, either⟩ := dispatch_changes_keys {} quiet
  obtain ⟨-, -, deleted⟩ := single respelled legible
  have moved := update respelled _ legible copy
  refine ⟨⟨deleted.outcome, fun h => ((deleted.keys _).mp h).2 writesShop, ?_⟩,
    ⟨moved.outcome, fun k hk => (moved.keys k).mpr (Or.inr hk)⟩, again respelled legible,
    either _ _ shop copy apart⟩
  rw [deleted.rest (fun k => k == neighbour.key) fun k hk => beq_iff_eq.mp hk ▸ sparesNeighbour]
  decide +kernel

end Responder

end ClusterMdns
