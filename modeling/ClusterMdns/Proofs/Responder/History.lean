import ClusterMdns.Proofs.Publication.Dispatch
import Mathlib.Data.List.Induction

/-! What a responder holds after calls whose lines are all read: the records that were published while their
key was absent and that were not retracted since, in the order of these publications. The list of calls alone
says which ones these are; whether there is a connection makes no difference. -/

namespace ClusterMdns

open Dns

/-- A call, with what its line is read as. -/
structure Call where
  operation : Operation
  record : Record
deriving DecidableEq

namespace Call

def key (c : Call) : RecordKey :=
  c.record.key

/-- The last operation that was called for a key. -/
def lastOn (k : RecordKey) (history : List Call) : Option Operation :=
  ((history.filter (·.key = k)).getLast?).map (·.operation)

/-- The call publishes a key that is absent after the calls before it. -/
def Enters (c : Call) (earlier : List Call) : Prop :=
  c.operation = .publish ∧ lastOn c.key earlier ≠ some .publish

def Retracts (c : Call) (k : RecordKey) : Prop :=
  c.operation = .unpublish ∧ c.key = k

instance (c : Call) (earlier : List Call) : Decidable (c.Enters earlier) :=
  inferInstanceAs (Decidable (_ ∧ _))

instance (c : Call) (k : RecordKey) : Decidable (c.Retracts k) :=
  inferInstanceAs (Decidable (_ ∧ _))

/-- The records that entered with a call of the second list and that no later call of it retracts. -/
def standingFrom (earlier : List Call) : List Call → List Record
  | [] => []
  | c :: later =>
    if c.Enters earlier ∧ ∀ d ∈ later, ¬ d.Retracts c.key then
      c.record :: standingFrom (earlier ++ [c]) later
    else standingFrom (earlier ++ [c]) later

/-- The records that stand after a history of calls. -/
def standing (history : List Call) : List Record :=
  standingFrom [] history

theorem lastOn_concat (k : RecordKey) (history : List Call) (c : Call) :
    lastOn k (history ++ [c]) = if c.key = k then some c.operation else lastOn k history := by
  unfold lastOn
  rw [List.filter_append]
  by_cases hk : c.key = k
  · simp [hk]
  · simp [hk]

theorem standingFrom_publish {c : Call} (hc : c.operation = .publish) (earlier later : List Call) :
    standingFrom earlier (later ++ [c]) =
      standingFrom earlier later ++ if c.Enters (earlier ++ later) then [c.record] else [] := by
  induction later generalizing earlier with
  | nil =>
    simp only [List.nil_append, List.append_nil, standingFrom, List.not_mem_nil, false_implies,
      implies_true, and_true]
  | cons d later ih =>
    have harmless : ¬ c.Retracts d.key := by
      rintro ⟨hu, -⟩
      rw [hc] at hu
      cases hu
    have same : (∀ e ∈ later ++ [c], ¬ e.Retracts d.key) ↔ ∀ e ∈ later, ¬ e.Retracts d.key := by
      simp only [List.forall_mem_append, List.forall_mem_singleton, harmless, not_false_eq_true, and_true]
    have moved : earlier ++ [d] ++ later = earlier ++ d :: later := by
      rw [List.append_assoc, List.singleton_append]
    simp only [List.cons_append, standingFrom, ih, same, moved]
    split
    · rw [List.cons_append]
    · rfl

theorem standingFrom_unpublish {c : Call} (hc : c.operation = .unpublish) (earlier later : List Call) :
    standingFrom earlier (later ++ [c]) =
      (standingFrom earlier later).filter fun record => record.key ≠ c.key := by
  induction later generalizing earlier with
  | nil =>
    have stays_out : ¬ c.Enters earlier := by
      rintro ⟨hp, -⟩
      rw [hc] at hp
      cases hp
    simp [standingFrom, stays_out]
  | cons d later ih =>
    have either : (∀ e ∈ later ++ [c], ¬ e.Retracts d.key) ↔
        (∀ e ∈ later, ¬ e.Retracts d.key) ∧ d.record.key ≠ c.key := by
      simp only [List.forall_mem_append, List.forall_mem_singleton, Retracts, hc, true_and]
      exact and_congr_right' ne_comm
    simp only [List.cons_append, standingFrom, ih, either]
    by_cases hd : d.Enters earlier ∧ ∀ e ∈ later, ¬ e.Retracts d.key
    · by_cases hk : d.record.key = c.key
      · rw [if_neg (fun h => h.2.2 hk), if_pos hd, List.filter_cons_of_neg (by simp [hk])]
      · rw [if_pos ⟨hd.1, hd.2, hk⟩, if_pos hd, List.filter_cons_of_pos (by simp [hk])]
    · rw [if_neg (fun h => hd ⟨h.1, h.2.1⟩), if_neg hd]

variable {history : List Call}

theorem standing_publish {c : Call} (hc : c.operation = .publish) :
    standing (history ++ [c]) = standing history ++ if c.Enters history then [c.record] else [] :=
  standingFrom_publish hc [] history

theorem standing_unpublish {c : Call} (hc : c.operation = .unpublish) :
    standing (history ++ [c]) = (standing history).filter fun record => record.key ≠ c.key :=
  standingFrom_unpublish hc [] history

/-- A key stands exactly if the last call for it was a publication. -/
theorem exists_standing_iff (history : List Call) (k : RecordKey) :
    (∃ record ∈ standing history, record.key = k) ↔ lastOn k history = some .publish := by
  induction history using List.reverseRecOn with
  | nil => exact iff_of_false nofun nofun
  | append_singleton history c ih =>
    rw [lastOn_concat]
    cases hop : c.operation with
    | publish =>
      rw [standing_publish hop]
      by_cases enters : c.Enters history
      · rw [if_pos enters]
        simp only [List.mem_append, List.mem_singleton, or_and_right, exists_or, exists_eq_left, ih]
        split_ifs with hk
        · exact iff_of_true (Or.inr hk) rfl
        · exact or_iff_left hk
      · rw [if_neg enters, List.append_nil, ih]
        split_ifs with hk
        · have known : lastOn c.key history = some .publish := by
            by_contra absent
            exact enters ⟨hop, absent⟩
          rw [← hk, known]
        · rfl
    | unpublish =>
      rw [standing_unpublish hop]
      simp only [List.mem_filter, decide_eq_true_eq]
      split_ifs with hk
      · refine iff_of_false ?_ nofun
        rintro ⟨record, ⟨-, other⟩, same⟩
        exact other (same.trans hk.symm)
      · rw [← ih]
        refine exists_congr fun record => ?_
        constructor
        · rintro ⟨⟨hm, -⟩, same⟩
          exact ⟨hm, same⟩
        · rintro ⟨hm, same⟩
          exact ⟨⟨hm, fun hc => hk (hc.symm.trans same)⟩, same⟩

theorem nodup_keys_standing (history : List Call) : ((standing history).map Record.key).Nodup := by
  induction history using List.reverseRecOn with
  | nil => exact List.nodup_nil
  | append_singleton history c ih =>
    cases hop : c.operation with
    | publish =>
      rw [standing_publish hop]
      split_ifs with enters
      · rw [List.map_append, List.map_singleton]
        refine ih.append (List.nodup_singleton _) ?_
        rw [List.disjoint_singleton]
        intro hm
        obtain ⟨record, hr, hk⟩ := List.mem_map.mp hm
        exact enters.2 ((exists_standing_iff history c.key).mp ⟨record, hr, hk⟩)
      · rwa [List.append_nil]
    | unpublish =>
      rw [standing_unpublish hop]
      exact ih.sublist (List.filter_sublist.map _)

end Call

namespace Responder

open Call

/-- The history of calls leads from one responder to the other, and all lines are read. Whether a call was
refused for what the connection did is not asked. -/
inductive Runs (start : Responder) : List Call → Responder → Prop
  | nil : Runs start [] start
  | call {history : List Call} {r : Responder} (before : Runs start history r) {c : Call} {line : String}
      (read : readLine line = .ok c.record) :
      Runs start (history ++ [c]) (publisher.call c.operation line r).1

/-- Makes calls one after another, whatever comes of each. -/
def callEach (given : List (Operation × String)) (r : Responder) : Responder :=
  given.foldl (fun r call => (publisher.call call.1 call.2 r).1) r

/-- What is called is this call, since its line is read as the record. -/
def CalledAs (given : Operation × String) (c : Call) : Prop :=
  given.1 = c.operation ∧ readLine given.2 = .ok c.record

/-- Any calls with lines that are read are a history. -/
theorem Runs.callEach {start r : Responder} {history later : List Call} (h : Runs start history r)
    {given : List (Operation × String)} (called : List.Forall₂ CalledAs given later) :
    Runs start (history ++ later) (r.callEach given) := by
  induction called generalizing history r with
  | nil => rwa [List.append_nil]
  | @cons call c given later hc _ ih =>
    obtain ⟨op, line⟩ := call
    obtain ⟨rfl, read⟩ := hc
    have next := ih (h.call read)
    rwa [List.append_assoc, List.singleton_append] at next

/-! ### One call -/

theorem call_publish (line : String) (r : Responder) :
    (publisher.call .publish line r).1 = (publish line r).1 :=
  rfl

theorem call_unpublish (line : String) (r : Responder) :
    (publisher.call .unpublish line r).1 = (unpublish line r).1 :=
  rfl

section
variable {r : Responder} {line : String} {record : Record}

theorem publish_known (hl : readLine line = .ok record) (known : record.key ∈ r.table.keys) :
    publish line r = (r, .ok ()) := by
  simp only [publish, hl, Table.contains_iff.mpr known, if_true]

theorem publish_absent (hl : readLine line = .ok record) (absent : record.key ∉ r.table.keys) :
    publish line r = announce record { r with table := r.table ++ [(record.key, record)] } := by
  have missed : r.table.contains record.key = false := by
    rw [Bool.eq_false_iff, ne_eq, Table.contains_iff]
    exact absent
  simp only [publish, hl, missed, Bool.false_eq_true, if_false, Table.set_of_not_mem absent]

theorem unpublish_absent (hl : readLine line = .ok record) (absent : r.table.find? record.key = none) :
    unpublish line r = (r, .ok ()) := by
  simp only [unpublish, hl, absent]

theorem unpublish_known {old : Record} (hl : readLine line = .ok record)
    (known : r.table.find? record.key = some old) :
    unpublish line r = announce old.expired { r with table := r.table.erase record.key } := by
  simp only [unpublish, hl, known]

end

/-! ### What a call does -/

/-- Publishes or retracts a line. -/
def perform : Operation → String → Responder → Responder × Except PublishError Unit
  | .publish => publish
  | .unpublish => unpublish

/-- How an operation on a record changes a table: what there is to tell of it, and the table after it. -/
inductive Changes (record : Record) (table : Table RecordKey Record) :
    Operation → Record → Table RecordKey Record → Prop
  | entered (absent : record.key ∉ table.keys) : Changes record table .publish record (table ++ [(record.key, record)])
  | retracted {old : Record} (held : table.find? record.key = some old) :
      Changes record table .unpublish old.expired (table.erase record.key)

section
variable {op : Operation} {line : String} {r : Responder} {record told : Record} {table next : Table RecordKey Record}
  {e : ResponderError}

theorem call_perform (op : Operation) (line : String) (r : Responder) :
    (publisher.call op line r).1 = (perform op line r).1 := by
  cases op <;> rfl

theorem perform_unread (unread : readLine line = .error e) (r : Responder) :
    perform op line r = (r, .error (.responder e)) := by
  cases op <;> simp only [perform, publish, unpublish, unread]

theorem perform_changes (read : readLine line = .ok record) (changes : Changes record r.table op told table) :
    perform op line r = announce told { r with table } := by
  cases changes with
  | entered absent => exact publish_absent read absent
  | retracted held => exact unpublish_known read held

/-- A line that is read changes the table, or there is nothing to be done. -/
theorem perform_cases (read : readLine line = .ok record) (op : Operation) (r : Responder) :
    (∃ told table, Changes record r.table op told table) ∨ perform op line r = (r, .ok ()) := by
  cases op with
  | publish =>
    by_cases known : record.key ∈ r.table.keys
    · exact Or.inr (publish_known read known)
    · exact Or.inl ⟨_, _, .entered known⟩
  | unpublish =>
    cases held : r.table.find? record.key with
    | none => exact Or.inr (unpublish_absent read held)
    | some old => exact Or.inl ⟨_, _, .retracted held⟩

theorem Changes.ne (changes : Changes record table op told next) (nodup : table.keys.Nodup) : next ≠ table := by
  cases changes with
  | entered absent => exact fun same => List.cons_ne_nil _ _ (List.append_right_eq_self.mp same)
  | @retracted old held =>
    intro same
    have gone := Table.find?_erase nodup record.key record.key
    rw [same, held, if_pos rfl] at gone
    cases gone

end

/-! ### Histories -/

/-- The table holds the standing records, each under its own key. -/
def Holds (history : List Call) (r : Responder) : Prop :=
  r.table = (standing history).map fun record => (record.key, record)

variable {start r : Responder} {history : List Call}

theorem Holds.keys (h : Holds history r) : r.table.keys = (standing history).map Record.key := by
  rw [h, Table.keys, List.map_map]
  rfl

theorem Holds.nodup (h : Holds history r) : r.table.keys.Nodup := by
  rw [h.keys]
  exact nodup_keys_standing history

theorem Holds.mem_keys_iff (h : Holds history r) (k : RecordKey) :
    k ∈ r.table.keys ↔ lastOn k history = some .publish := by
  rw [h.keys, List.mem_map, exists_standing_iff]

theorem Holds.enters_iff (h : Holds history r) {c : Call} (hc : c.operation = .publish) :
    c.Enters history ↔ c.record.key ∉ r.table.keys := by
  rw [Enters, h.mem_keys_iff]
  exact and_iff_right hc

theorem Holds.call (h : Holds history r) {c : Call} {line : String} (read : readLine line = .ok c.record) :
    Holds (history ++ [c]) (publisher.call c.operation line r).1 := by
  cases hop : c.operation with
  | publish =>
    rw [Holds, standing_publish hop]
    by_cases hk : c.record.key ∈ r.table.keys
    · rw [call_publish, publish_known read hk, if_neg fun he => (h.enters_iff hop).mp he hk, List.append_nil]
      exact h
    · rw [call_publish, publish_absent read hk, announce_table, if_pos ((h.enters_iff hop).mpr hk), List.map_append,
        ← h]
      rfl
  | unpublish =>
    have after : (standing (history ++ [c])).map (fun record => (record.key, record)) =
        r.table.erase c.record.key := by
      rw [standing_unpublish hop, Table.erase_eq_filter h.nodup, h, List.filter_map]
      rfl
    rw [Holds, after]
    cases hf : r.table.find? c.record.key with
    | none =>
      rw [call_unpublish, unpublish_absent read hf, Table.erase_eq_filter h.nodup]
      refine (List.filter_eq_self.mpr fun e he => ?_).symm
      refine decide_eq_true fun hk => Table.find?_eq_none_iff.mp hf ?_
      exact List.mem_map.mpr ⟨e, he, hk⟩
    | some old =>
      rw [call_unpublish, unpublish_known read hf, announce_table]

theorem Runs.holds (empty : start.table = []) (h : Runs start history r) : Holds history r := by
  induction h with
  | nil => exact empty
  | call _ read ih => exact ih.call read

/-! ### A shop -/

def addressRecord (owner : Name) (ttl : Nat) (last : UInt8) : Record :=
  ⟨owner, ttl, .internet, .a ⟨192, 0, 2, last⟩⟩

def shopName : Name :=
  [[83, 104, 111, 112], [108, 111, 99, 97, 108]]

def smallShopName : Name :=
  [[115, 104, 111, 112], [108, 111, 99, 97, 108]]

/-- Two addresses of a shop, one of them given twice, and the other one retracted. -/
def shopCalls : List (Operation × String) :=
  [(.publish, "Shop.local. 120 IN A 192.0.2.1"), (.publish, "shop.local. 60 IN A 192.0.2.1"),
    (.publish, "shop.local. 120 IN A 192.0.2.2"), (.unpublish, "Shop.local. 9 IN A 192.0.2.2")]

def shopHistory : List Call :=
  [⟨.publish, addressRecord shopName 120 1⟩, ⟨.publish, addressRecord smallShopName 60 1⟩,
    ⟨.publish, addressRecord smallShopName 120 2⟩, ⟨.unpublish, addressRecord shopName 9 2⟩]

theorem shop_called : List.Forall₂ CalledAs shopCalls shopHistory := by
  refine .cons ?_ (.cons ?_ (.cons ?_ (.cons ?_ .nil))) <;> exact ⟨rfl, by decide +kernel⟩

end Responder

end ClusterMdns
