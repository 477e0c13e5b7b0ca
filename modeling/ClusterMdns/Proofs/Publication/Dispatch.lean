import ClusterMdns.Proofs.Outcome
import ClusterMdns.Proofs.Record.Reading
import ClusterMdns.Proofs.Table
import Mathlib.Logic.Basic

/-! What dispatching does to the table of a responder without a connection. Only the keys matter here: an
addition leaves the keys that were there and those of its records, a deletion leaves those that were there
and are not of its records. -/

namespace ClusterMdns

open Document Dns

/-- What an operation leaves of a key: `named` says whether it was called for it, and `held` whether the key
was there before. -/
def Operation.Leaves : Operation → Prop → Prop → Prop
  | .publish, named, held => named ∨ held
  | .unpublish, named, held => ¬ named ∧ held

/-- An operation that comes twice leaves what it leaves when it is called for both at once. -/
theorem Operation.leaves_leaves (op : Operation) (first later held : Prop) :
    op.Leaves later (op.Leaves first held) ↔ op.Leaves (first ∨ later) held := by
  cases op with
  | publish =>
    change later ∨ first ∨ held ↔ (first ∨ later) ∨ held
    rw [or_left_comm, or_assoc]
  | unpublish =>
    change ¬ later ∧ ¬ first ∧ held ↔ ¬ (first ∨ later) ∧ held
    rw [not_or, and_left_comm, and_assoc]

/-! ### The publisher -/

namespace Publisher

variable {σ : Type} {p : Publisher σ} {policy : RecordPolicy} {res : Resource} {op : Operation}
  {record : String} {s : σ}

/-- A call that is refused is the last. -/
theorem callAll_of_refused {cause : String} (h : (p.call op record s).2.outcome = .error cause)
    (rest : List String) : p.callAll op (record :: rest) s = ((p.call op record s).1,
      ⟨⟨.info, op.heading ++ record⟩ :: (p.call op record s).2.lines, .error (.refused ⟨op, record, cause⟩)⟩) := by
  simp only [callAll, h]

/-- After a call that is accepted the others follow. -/
theorem callAll_of_accepted (h : (p.call op record s).2.outcome = .ok ()) (rest : List String) :
    p.callAll op (record :: rest) s = ((p.callAll op rest (p.call op record s).1).1,
      ⟨⟨.info, op.heading ++ record⟩ :: (p.call op record s).2.lines ++
        (p.callAll op rest (p.call op record s).1).2.lines,
        (p.callAll op rest (p.call op record s).1).2.outcome⟩) := by
  simp only [callAll, h]

variable (p policy) in
theorem dispatch_of_none (h : res.action.operation? = none) (s : σ) :
    (p.dispatch policy res s).1 = s ∧ (p.dispatch policy res s).2.outcome = .ok () := by
  simp only [dispatch, h]
  exact ⟨trivial, rfl⟩

theorem dispatch_of_fault {f : Fault} (hop : res.action.operation? = some op)
    (h : (policy.lines res).outcome = .error f) (s : σ) :
    (p.dispatch policy res s).1 = s ∧ (p.dispatch policy res s).2.outcome = .error (.fault f) := by
  simp only [dispatch, hop, h, and_self]

theorem dispatch_of_lines {lines : List RecordLine} (hop : res.action.operation? = some op)
    (h : (policy.lines res).outcome = .ok lines) (s : σ) :
    (p.dispatch policy res s).1 = (p.callAll op (lines.map RecordLine.text) s).1 ∧
      (p.dispatch policy res s).2.outcome = (p.callAll op (lines.map RecordLine.text) s).2.outcome := by
  simp only [dispatch, hop, h, and_self]

theorem dispatchUpdate_of_error {old : Resource} {e : DispatchFailure}
    (h : (p.dispatch policy (old.withAction .deleted) s).2.outcome = .error e) (new : Resource) :
    (p.dispatchUpdate policy old new s).1 = (p.dispatch policy (old.withAction .deleted) s).1 ∧
      (p.dispatchUpdate policy old new s).2.outcome = .error e := by
  simp only [dispatchUpdate, h, and_self]

theorem dispatchUpdate_of_ok {old : Resource}
    (h : (p.dispatch policy (old.withAction .deleted) s).2.outcome = .ok ()) (new : Resource) :
    (p.dispatchUpdate policy old new s).1 =
        (p.dispatch policy (new.withAction .added) (p.dispatch policy (old.withAction .deleted) s).1).1 ∧
      (p.dispatchUpdate policy old new s).2.outcome =
        (p.dispatch policy (new.withAction .added) (p.dispatch policy (old.withAction .deleted) s).1).2.outcome := by
  simp only [dispatchUpdate, h, and_self]

end Publisher

namespace Responder

/-- A responder that never sends, with a table in which every key stands once. -/
structure Quiet (r : Responder) : Prop where
  silent : r.isAttached = false
  nodup : r.table.keys.Nodup

theorem fresh_quiet : Quiet {} :=
  ⟨rfl, List.nodup_nil⟩

/-! ### Calls -/

theorem announce_of_silent {r : Responder} (h : r.isAttached = false) (record : Record)
    (table : Table RecordKey Record) :
    ({ r with table } : Responder).announce record = ({ r with table }, .ok ()) :=
  if_neg (by rw [show ({ r with table } : Responder).isAttached = r.isAttached from rfl, h]; simp)

theorem announce_table (record : Record) (r : Responder) : (r.announce record).1.table = r.table := by
  unfold announce
  split
  · split
    · rfl
    · unfold send
      dsimp only
      split <;> rfl
  · rfl

/-- What a call leaves under a key: a record that was there stays when another is published. -/
def effect (op : Operation) (line : String) (k : RecordKey) (held : Option Record) : Option Record :=
  match readLine line with
  | .error _ => held
  | .ok record =>
    if record.key = k then
      match op with
      | .publish => held.or (some record)
      | .unpublish => none
    else held

theorem effect_isSome_iff (op : Operation) (line : String) (k : RecordKey) (held : Option Record) :
    (effect op line k held).isSome ↔ op.Leaves (Names line k) held.isSome := by
  unfold effect
  cases hl : readLine line with
  | error e => cases op <;> simp [Operation.Leaves, Names, hl]
  | ok record => by_cases hk : record.key = k <;> cases op <;> simp [Operation.Leaves, Names, hl, hk]

theorem effect_of_not_names {op : Operation} {line : String} {k : RecordKey} (h : ¬ Names line k)
    (held : Option Record) : effect op line k held = held := by
  unfold effect
  split
  · rfl
  · rename_i record hr
    exact if_neg fun hk => h ⟨record, hr, hk⟩

/-- A call that is accepted leaves its effect under every key, also when there is a connection. -/
theorem call_effect {r : Responder} (nodup : r.table.keys.Nodup) (op : Operation) {line : String}
    (hout : (publisher.call op line r).2.outcome = .ok ()) :
    (publisher.call op line r).1.table.keys.Nodup ∧
      ∀ k, (publisher.call op line r).1.table.find? k = effect op line k (r.table.find? k) := by
  cases hl : readLine line with
  | error e =>
    cases op <;> simp [publisher, publish, unpublish, hl, Logged.ofExcept, Except.mapError] at hout
  | ok record =>
    cases op with
    | publish =>
      simp only [publisher, publish, hl, effect]
      split
      · rename_i hc
        refine ⟨nodup, fun k => ?_⟩
        split
        · rename_i hk
          obtain ⟨old, ho⟩ := Option.isSome_iff_exists.mp (hk ▸ hc)
          rw [ho]
          rfl
        · rfl
      · rename_i hc
        rw [announce_table]
        refine ⟨Table.nodup_set nodup _ _, fun k => ?_⟩
        rw [Table.find?_set]
        split
        · rename_i hk
          rw [Table.find?_eq_none_iff.mpr fun hm => hc (Table.contains_iff.mpr (hk ▸ hm))]
          rfl
        · rfl
    | unpublish =>
      simp only [publisher, unpublish, hl, effect]
      split
      · rename_i hf
        refine ⟨nodup, fun k => ?_⟩
        split
        · rename_i hk
          rw [← hk, hf]
        · rfl
      · rw [announce_table]
        refine ⟨Table.nodup_erase nodup _, fun k => ?_⟩
        rw [Table.find?_erase nodup]

theorem call_silent {r : Responder} (h : r.isAttached = false) (op : Operation) (line : String) :
    (publisher.call op line r).1.isAttached = false := by
  cases op with
  | publish =>
    simp only [publisher, publish]
    split
    · exact h
    · split
      · exact h
      · rw [announce_of_silent h]
        exact h
  | unpublish =>
    simp only [publisher, unpublish]
    split
    · exact h
    · split
      · exact h
      · rw [announce_of_silent h]
        exact h

theorem call_table {r : Responder} (h : Quiet r) (op : Operation) {line : String}
    (hout : (publisher.call op line r).2.outcome = .ok ()) :
    Quiet (publisher.call op line r).1 ∧
      ∀ k, k ∈ (publisher.call op line r).1.table.keys ↔ op.Leaves (Names line k) (k ∈ r.table.keys) := by
  obtain ⟨nodup, after⟩ := call_effect h.nodup op hout
  refine ⟨⟨call_silent h.silent op line, nodup⟩, fun k => ?_⟩
  simp only [← Table.contains_iff, Table.contains, after k, effect_isSome_iff]

theorem callAll_table {r : Responder} (h : Quiet r) (op : Operation) {lines : List String}
    (hout : (publisher.callAll op lines r).2.outcome = .ok ()) :
    Quiet (publisher.callAll op lines r).1 ∧
      ∀ k, k ∈ (publisher.callAll op lines r).1.table.keys ↔
        op.Leaves (∃ line ∈ lines, Names line k) (k ∈ r.table.keys) := by
  induction lines generalizing r with
  | nil =>
    refine ⟨h, fun k => ?_⟩
    cases op <;> simp [Publisher.callAll, Operation.Leaves]
  | cons line rest ih =>
    cases hc : (publisher.call op line r).2.outcome with
    | error cause =>
      rw [Publisher.callAll_of_refused hc] at hout
      cases hout
    | ok _ =>
      rw [Publisher.callAll_of_accepted hc] at hout ⊢
      obtain ⟨quiet, first⟩ := call_table h op hc
      obtain ⟨quiet, later⟩ := ih quiet hout
      refine ⟨quiet, fun k => ?_⟩
      rw [later k, first k, op.leaves_leaves]
      simp only [List.mem_cons, exists_eq_or_imp]

end Responder

/-! ### Accepted lines -/

namespace Publisher

variable {σ : Type} (p : Publisher σ) {op : Operation} {lines : List String}

theorem callAll_accepts (h : ∀ line ∈ lines, ∀ s, (p.call op line s).2.outcome = .ok ()) (s : σ) :
    (p.callAll op lines s).2.outcome = .ok () := by
  induction lines generalizing s with
  | nil => rfl
  | cons line rest ih =>
    obtain ⟨first, later⟩ := List.forall_mem_cons.mp h
    rw [callAll_of_accepted (first s)]
    exact ih later _

/-- Nothing but a refused call goes wrong. -/
theorem callAll_refused {s : σ} (h : (p.callAll op lines s).2.outcome ≠ .ok ()) :
    ∃ e, (p.callAll op lines s).2.outcome = .error (.refused e) := by
  induction lines generalizing s with
  | nil => exact absurd rfl h
  | cons line rest ih =>
    cases hc : (p.call op line s).2.outcome with
    | error cause => exact ⟨⟨op, line, cause⟩, by rw [callAll_of_refused hc]⟩
    | ok _ =>
      rw [callAll_of_accepted hc] at h ⊢
      exact ih h

variable {policy : RecordPolicy} {res : Resource} {made : List RecordLine}

theorem dispatch_accepts (hl : (policy.lines res).outcome = .ok made)
    (h : ∀ op, ∀ l ∈ made, ∀ s, (p.call op l.text s).2.outcome = .ok ()) (s : σ) :
    (p.dispatch policy res s).2.outcome = .ok () := by
  cases hop : res.action.operation? with
  | none => exact (dispatch_of_none p policy hop s).2
  | some op =>
    rw [(dispatch_of_lines hop hl s).2]
    exact p.callAll_accepts (List.forall_mem_map.mpr (h op)) s

theorem dispatch_refused (hl : (policy.lines res).outcome = .ok made) {s : σ}
    (h : (p.dispatch policy res s).2.outcome ≠ .ok ()) :
    ∃ e, (p.dispatch policy res s).2.outcome = .error (.refused e) := by
  cases hop : res.action.operation? with
  | none => exact absurd (dispatch_of_none p policy hop s).2 h
  | some op =>
    rw [(dispatch_of_lines hop hl s).2] at h ⊢
    exact p.callAll_refused h

end Publisher

namespace Responder

/-- Without a connection a call goes wrong only if its line is not read as one record. -/
theorem call_accepted {r : Responder} (h : Quiet r) (op : Operation) (line : String) :
    (publisher.call op line r).2.outcome = .ok () ↔ Reads line := by
  cases hl : readLine line with
  | error e =>
    have refused : (publisher.call op line r).2.outcome = .error (ResponderError.message e) := by
      cases op <;> simp [publisher, publish, unpublish, hl, Logged.ofExcept, Except.mapError,
        PublishError.text]
    simp [refused, Reads, hl]
  | ok record =>
    have accepted : (publisher.call op line r).2.outcome = .ok () := by
      cases op with
      | publish =>
        simp only [publisher, publish, hl]
        split
        · rfl
        · rw [announce_of_silent h.silent]
          rfl
      | unpublish =>
        simp only [publisher, unpublish, hl]
        split
        · rfl
        · rw [announce_of_silent h.silent]
          rfl
    simp [accepted, Reads, hl]

theorem callAll_accepted {r : Responder} (h : Quiet r) (op : Operation) (lines : List String) :
    (publisher.callAll op lines r).2.outcome = .ok () ↔ ∀ line ∈ lines, Reads line := by
  induction lines generalizing r with
  | nil => exact iff_of_true rfl nofun
  | cons line rest ih =>
    rw [List.forall_mem_cons, ← call_accepted h op line]
    cases hc : (publisher.call op line r).2.outcome with
    | error cause => simp [Publisher.callAll_of_refused hc]
    | ok _ =>
      rw [Publisher.callAll_of_accepted hc]
      exact (ih (call_table h op hc).1).trans (and_iff_right rfl).symm

end Responder

/-! ### Resources -/

namespace RecordPolicy

/-- A record of the resource has this key. -/
def Writes (policy : RecordPolicy) (r : Resource) (k : RecordKey) : Prop :=
  ∃ lines, (policy.lines r).outcome = .ok lines ∧ ∃ line ∈ lines, Responder.Names line.text k

theorem linesOfAll_withAction (policy : RecordPolicy) (r : Resource) (mark : Action)
    (addresses : List Value) :
    policy.linesOfAll (r.withAction mark) addresses = policy.linesOfAll r addresses := by
  induction addresses with
  | nil => rfl
  | cons given rest ih =>
    simp only [linesOfAll, ih]
    rfl

/-- The lines of a resource do not depend on its mark. -/
theorem lines_withAction (policy : RecordPolicy) (r : Resource) (mark : Action) :
    policy.lines (r.withAction mark) = policy.lines r :=
  policy.linesOfAll_withAction r mark r.addresses

theorem writes_withAction {policy : RecordPolicy} {r : Resource} (mark : Action) (k : RecordKey) :
    policy.Writes (r.withAction mark) k ↔ policy.Writes r k := by
  rw [Writes, lines_withAction, Writes]

end RecordPolicy

namespace Responder

/-- Dispatches resources one after another, up to one that fails. -/
def dispatchAll (policy : RecordPolicy) : List Resource → Responder → Except DispatchFailure Responder
  | [], r => .ok r
  | first :: rest, r =>
    match publisher.dispatch policy first r with
    | (next, done) => match done.outcome with
      | .error e => .error e
      | .ok () => dispatchAll policy rest next

theorem dispatch_table {policy : RecordPolicy} {r : Responder} (h : Quiet r) {res : Resource}
    {op : Operation} (hop : res.action.operation? = some op)
    (hout : (publisher.dispatch policy res r).2.outcome = .ok ()) :
    Quiet (publisher.dispatch policy res r).1 ∧
      ∀ k, k ∈ (publisher.dispatch policy res r).1.table.keys ↔
        op.Leaves (policy.Writes res k) (k ∈ r.table.keys) := by
  cases hl : (policy.lines res).outcome with
  | error f => cases hout.symm.trans (Publisher.dispatch_of_fault hop hl r).2
  | ok lines =>
    obtain ⟨state, outcome⟩ := Publisher.dispatch_of_lines (p := publisher) hop hl r
    rw [outcome] at hout
    rw [state]
    obtain ⟨quiet, after⟩ := callAll_table h op hout
    refine ⟨quiet, fun k => ?_⟩
    have writes : policy.Writes res k ↔ ∃ line ∈ lines.map RecordLine.text, Names line k := by
      simp [RecordPolicy.Writes, hl]
    rw [after k, writes]

theorem dispatch_accepted {policy : RecordPolicy} {r : Responder} (h : Quiet r) {res : Resource}
    {op : Operation} (hop : res.action.operation? = some op) {lines : List RecordLine}
    (hl : (policy.lines res).outcome = .ok lines) :
    (publisher.dispatch policy res r).2.outcome = .ok () ↔ ∀ l ∈ lines, Reads l.text := by
  rw [(Publisher.dispatch_of_lines hop hl r).2, callAll_accepted h, List.forall_mem_map]

/-- Resources whose lines are all read are dispatched. -/
theorem dispatchAll_accepted {policy : RecordPolicy} {r : Responder} (h : Quiet r) {rs : List Resource}
    (accepted : ∀ res ∈ rs, ∃ op lines, res.action.operation? = some op ∧
      (policy.lines res).outcome = .ok lines ∧ ∀ l ∈ lines, Reads l.text) :
    ∃ next, r.dispatchAll policy rs = .ok next := by
  induction rs generalizing r with
  | nil => exact ⟨r, rfl⟩
  | cons res rest ih =>
    obtain ⟨⟨op, lines, hop, hl, reads⟩, later⟩ := List.forall_mem_cons.mp accepted
    have done := (dispatch_accepted h hop hl).mpr reads
    simp only [dispatchAll, done]
    exact ih (dispatch_table h hop done).1 later

theorem dispatchAll_append (policy : RecordPolicy) (xs ys : List Resource) (r : Responder) :
    r.dispatchAll policy (xs ++ ys) = r.dispatchAll policy xs >>= dispatchAll policy ys := by
  induction xs generalizing r with
  | nil => rfl
  | cons x xs ih =>
    simp only [List.cons_append, dispatchAll]
    split
    · rfl
    · exact ih _

/-- Dispatching resources that all have the same mark. -/
theorem dispatchAll_table {policy : RecordPolicy} {mark : Action} {op : Operation}
    (hop : mark.operation? = some op) {rs : List Resource} {r next : Responder} (h : Quiet r)
    (hout : r.dispatchAll policy (rs.map (·.withAction mark)) = .ok next) :
    Quiet next ∧ ∀ k, k ∈ next.table.keys ↔
      op.Leaves (∃ res ∈ rs, policy.Writes res k) (k ∈ r.table.keys) := by
  induction rs generalizing r with
  | nil =>
    cases hout
    refine ⟨h, fun k => ?_⟩
    cases op <;> simp [Operation.Leaves]
  | cons res rest ih =>
    simp only [List.map_cons, dispatchAll] at hout
    split at hout
    · cases hout
    · rename_i hd
      obtain ⟨quiet, first⟩ := dispatch_table h hop hd
      obtain ⟨quiet, later⟩ := ih quiet hout
      refine ⟨quiet, fun k => ?_⟩
      rw [later k, first k, op.leaves_leaves, RecordPolicy.writes_withAction]
      simp only [List.mem_cons, exists_eq_or_imp]

end Responder

end ClusterMdns
