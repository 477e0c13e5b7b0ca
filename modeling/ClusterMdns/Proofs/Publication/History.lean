import ClusterMdns.Proofs.Adapter.Contribution
import ClusterMdns.Proofs.Publication.Dispatch

/-! The table of published records after a history of events. A key is missing at the end exactly if it was
never published, or if an event retracted it and none published it since; this does not ask whose event it
was. And what a consumer knows of an object was last published at one place of the history. -/

namespace ClusterMdns

open Document Dns ClusterObject

variable {a : Adapter} {policy : RecordPolicy}

/-- The object contributes a record with this key. -/
def Adapter.Contributes (a : Adapter) (policy : RecordPolicy) (obj : Value) (k : RecordKey) : Prop :=
  ∃ r ∈ a.snapshots obj, policy.Writes r k

namespace MembershipEvent

def Publishes (a : Adapter) (policy : RecordPolicy) (e : MembershipEvent) (k : RecordKey) : Prop :=
  ∃ obj, e.published? = some obj ∧ a.Contributes policy obj k

def Retracts (a : Adapter) (policy : RecordPolicy) (e : MembershipEvent) (k : RecordKey) : Prop :=
  ∃ obj, e.retracted? = some obj ∧ a.Contributes policy obj k

end MembershipEvent

/-! ### One event -/

theorem mem_elim_snapshots {found : Option Value} {k : RecordKey} :
    (∃ r ∈ found.elim [] a.snapshots, policy.Writes r k) ↔
      ∃ obj, found = some obj ∧ a.Contributes policy obj k := by
  cases found with
  | none => simp
  | some obj => simp [Adapter.Contributes]

/-- An event takes the keys that it retracts out of the table and then puts in those that it publishes. -/
theorem handled_table {r next : Responder} (h : r.Quiet) {e : MembershipEvent}
    (hout : r.dispatchAll policy (a.handled e) = .ok next) :
    next.Quiet ∧ ∀ k, k ∈ next.table.keys ↔
      e.Publishes a policy k ∨ ¬ e.Retracts a policy k ∧ k ∈ r.table.keys := by
  rw [Adapter.handled, Responder.dispatchAll_append] at hout
  obtain ⟨mid, hmid, hout⟩ := bind_eq_ok.mp hout
  have hdel : Action.deleted.operation? = some .unpublish := rfl
  have hadd : Action.added.operation? = some .publish := rfl
  obtain ⟨quiet, gone⟩ := Responder.dispatchAll_table hdel h hmid
  obtain ⟨quiet, made⟩ := Responder.dispatchAll_table hadd quiet hout
  refine ⟨quiet, fun k => ?_⟩
  rw [made k, mem_elim_snapshots, gone k, mem_elim_snapshots]
  rfl

/-! ### Histories -/

/-- The responder after a history of events, each of which is dispatched in turn. -/
def advertise (a : Adapter) (policy : RecordPolicy) (es : List MembershipEvent) (r : Responder) :
    Except DispatchFailure Responder :=
  r.dispatchAll policy (es.flatMap a.handled)

theorem advertise_cons {e : MembershipEvent} {es : List MembershipEvent} {r next : Responder} :
    advertise a policy (e :: es) r = .ok next ↔
      ∃ mid, r.dispatchAll policy (a.handled e) = .ok mid ∧ advertise a policy es mid = .ok next := by
  unfold advertise
  rw [List.flatMap_cons, Responder.dispatchAll_append, bind_eq_ok]

/-- A key is missing after a history if it was missing before and never published, or if it was retracted
and not published since. -/
theorem absent_iff {es : List MembershipEvent} {r next : Responder} (h : r.Quiet)
    (hout : advertise a policy es r = .ok next) (k : RecordKey) :
    k ∉ next.table.keys ↔
      (k ∉ r.table.keys ∧ ∀ e ∈ es, ¬ e.Publishes a policy k) ∨
      ∃ front d back, es = front ++ d :: back ∧ d.Retracts a policy k ∧
        ∀ e ∈ d :: back, ¬ e.Publishes a policy k := by
  induction es generalizing r with
  | nil =>
    cases hout
    simp
  | cons e es ih =>
    obtain ⟨mid, hmid, hout⟩ := advertise_cons.mp hout
    obtain ⟨quiet, first⟩ := handled_table h hmid
    -- the rest of the history starts from the table that the first event leaves
    rw [ih quiet hout, first k]
    constructor
    · rintro (⟨hk, later⟩ | ⟨front, d, back, rfl, hd, later⟩)
      · obtain ⟨hp, hr⟩ := not_or.mp hk
        have silent : ∀ d ∈ e :: es, ¬ d.Publishes a policy k := List.forall_mem_cons.mpr ⟨hp, later⟩
        by_cases hkr : k ∈ r.table.keys
        · have he : e.Retracts a policy k := not_not.mp fun hn => hr ⟨hn, hkr⟩
          exact Or.inr ⟨[], e, es, rfl, he, silent⟩
        · exact Or.inl ⟨hkr, silent⟩
      · exact Or.inr ⟨e :: front, d, back, rfl, hd, later⟩
    · rintro (⟨hkr, silent⟩ | ⟨front, d, back, split, hd, later⟩)
      · obtain ⟨hp, silent⟩ := List.forall_mem_cons.mp silent
        exact Or.inl ⟨not_or.mpr ⟨hp, fun h => hkr h.2⟩, silent⟩
      · cases front with
        | nil =>
          obtain ⟨rfl, rfl⟩ := List.cons.inj split
          obtain ⟨hp, later⟩ := List.forall_mem_cons.mp later
          exact Or.inl ⟨not_or.mpr ⟨hp, fun h => h.1 hd⟩, later⟩
        | cons c front =>
          obtain ⟨rfl, rest⟩ := List.cons.inj split
          exact Or.inr ⟨front, d, back, rest, hd, later⟩

/-! ### The last publication of an object -/

/-- `p` published the object under its key, and no event `after` it was about that key. -/
structure LastPublished (name : String) (obj : Value) (p : MembershipEvent) (after : List MembershipEvent) :
    Prop where
  published : p.published? = some obj
  key : ClusterObject.key obj = .ok name
  last : ∀ e ∈ after, ClusterObject.key e.obj ≠ .ok name

theorem obj_of_published {e : MembershipEvent} {obj : Value} (h : e.published? = some obj) : e.obj = obj := by
  unfold MembershipEvent.published? at h
  split at h
  · exact Option.some.inj h
  · exact Option.some.inj h
  · cases h

/-- What is known of a key after a history was known before it, or was published by an event in it. -/
theorem lastPublished_of_known {es : List MembershipEvent} {known : Known} {name : String} {obj : Value}
    (h : known.replay es name = some obj) :
    (known name = some obj ∧ ∀ e ∈ es, key e.obj ≠ .ok name) ∨
      ∃ front p back, es = front ++ p :: back ∧ LastPublished name obj p back := by
  induction es generalizing known with
  | nil => exact Or.inl ⟨h, by simp⟩
  | cons e es ih =>
    rcases ih h with ⟨hk, silent⟩ | ⟨front, p, back, rfl, hp⟩
    · by_cases hn : key e.obj = .ok name
      · rw [Known.tell_of_key hn] at hk
        exact Or.inr ⟨[], e, es, rfl, hk, obj_of_published hk ▸ hn, silent⟩
      · rw [Known.tell_of_other hn] at hk
        exact Or.inl ⟨hk, List.forall_mem_cons.mpr ⟨hn, silent⟩⟩
    · exact Or.inr ⟨e :: front, p, back, rfl, hp⟩

/-- Of two places in a list, the first is before the second or it is the second or behind it. -/
theorem before_or_mem {α : Type} {front back rest after : List α} {p d : α}
    (h : front ++ p :: back = rest ++ d :: after) :
    (∃ mid, back = mid ++ d :: after) ∨ p ∈ d :: after := by
  rcases List.append_eq_append_iff.mp h with ⟨mid, -, hmid⟩ | ⟨mid, -, hmid⟩
  · cases mid with
    | nil =>
      obtain ⟨rfl, -⟩ := List.cons.inj hmid
      exact Or.inr List.mem_cons_self
    | cons c mid =>
      obtain ⟨-, hb⟩ := List.cons.inj hmid
      exact Or.inl ⟨mid, hb⟩
  · refine Or.inr (hmid ▸ List.mem_append_right _ List.mem_cons_self)

/-! ### Records that are stale -/

/-- Every record of the table is contributed by an object that a consumer knows. -/
def Sound (a : Adapter) (policy : RecordPolicy) (known : Known) (r : Responder) : Prop :=
  ∀ k ∈ r.table.keys, ∃ name obj, known name = some obj ∧ a.Contributes policy obj k

theorem not_contributes_of_not_truthy {obj : Value} (h : obj.truthy = false) (k : RecordKey) :
    ¬ a.Contributes policy obj k := by
  rintro ⟨r, hr, -⟩
  rw [a.snapshots_of_not_truthy h] at hr
  exact List.not_mem_nil hr

/-- What was known under the key of an event is retracted by it. -/
theorem retracts_of_known {known : Known} {e : MembershipEvent} (fits : Fits Eq known e) {name : String}
    (hn : key e.obj = .ok name) {held : Value} (hk : known name = some held) {k : RecordKey}
    (hc : a.Contributes policy held k) : e.Retracts a policy k := by
  cases fits with
  | added hn' hk' =>
    cases hn.symm.trans hn'
    cases hk.symm.trans hk'
  | updated hn' _ hk' ha _ _ _ =>
    cases hn.symm.trans hn'
    cases hk.symm.trans hk'
    exact ⟨_, rfl, ha ▸ hc⟩
  | deleted hn' ha =>
    cases hn.symm.trans hn'
    rcases ha held hk with rfl | ⟨old, rfl, ht⟩
    · exact ⟨held, rfl, hc⟩
    · exact absurd hc (not_contributes_of_not_truthy ht k)

/-- An event that fits leaves no stale record behind: what it changes under its key, it retracts. -/
theorem sound_of_handled {known : Known} {e : MembershipEvent} (fits : Fits Eq known e) {r next : Responder}
    (quiet : r.Quiet) (h : Sound a policy known r) (hout : r.dispatchAll policy (a.handled e) = .ok next) :
    Sound a policy (known.tell e) next := by
  obtain ⟨name, hn⟩ := fits.key
  intro k hk
  rcases ((handled_table quiet hout).2 k).mp hk with ⟨obj, hobj, hc⟩ | ⟨hr, hk⟩
  · exact ⟨name, obj, by rw [Known.tell_of_key hn, hobj], hc⟩
  · -- the record was there before: its object has another key, or it had been retracted now
    obtain ⟨other, obj, ho, hc⟩ := h k hk
    have hne : key e.obj ≠ .ok other := fun heq => hr (retracts_of_known fits heq ho hc)
    exact ⟨other, obj, by rw [Known.tell_of_other hne, ho], hc⟩

theorem sound_of_advertise {es : List MembershipEvent} {known : Known} (faithful : Faithful Eq known es)
    {r next : Responder} (quiet : r.Quiet) (h : Sound a policy known r)
    (hout : advertise a policy es r = .ok next) : Sound a policy (known.replay es) next := by
  induction es generalizing known r with
  | nil => cases hout; exact h
  | cons e es ih =>
    obtain ⟨mid, hmid, hout⟩ := advertise_cons.mp hout
    exact ih faithful.2 (handled_table quiet hmid).1 (sound_of_handled faithful.1 quiet h hmid) hout

end ClusterMdns
