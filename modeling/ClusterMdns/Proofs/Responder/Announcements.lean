import ClusterMdns.Proofs.Dns.Packet
import ClusterMdns.Proofs.Responder.History

/-! What a responder tells the group about each key. Among the records that fit into a packet, announcements
and goodbyes of a key take turns, and an announcement is the last of them exactly if the key is in the table.
A record that does not fit is put into the table and taken out of it in silence. -/

namespace ClusterMdns

open Dns Call

namespace Call

/-- The record that stands under a key. -/
def stood (k : RecordKey) (history : List Call) : Option Record :=
  (standing history).find? fun record => record.key = k

/-- What there is to say of a call after those before it: the record, if it enters, or that the record which
stood has expired. -/
def tells (c : Call) (earlier : List Call) : List Record :=
  match c.operation with
  | .publish => if c.Enters earlier then [c.record] else []
  | .unpublish => ((stood c.key earlier).map Record.expired).toList

/-- What is said of the calls of the second list, as far as it fits into packets. -/
def noticesFrom (earlier : List Call) : List Call → List Record
  | [] => []
  | c :: later => (c.tells earlier).filter (·.Fits) ++ noticesFrom (earlier ++ [c]) later

def notices (history : List Call) : List Record :=
  noticesFrom [] history

/-- Announcements and goodbyes in turn, an announcement first. The record is the one whose announcement came
last, if no goodbye followed it. -/
inductive InTurn : List Record → Option Record → Prop
  | nothing : InTurn [] none
  | announced {said : List Record} (h : InTurn said none) (record : Record) :
      InTurn (said ++ [record]) (some record)
  | retracted {said : List Record} {record : Record} (h : InTurn said (some record)) :
      InTurn (said ++ [record.expired]) none

/-! ### What is said of each key -/

theorem notices_concat (history : List Call) (c : Call) :
    notices (history ++ [c]) = notices history ++ (c.tells history).filter (·.Fits) := by
  suffices h : ∀ earlier later, noticesFrom earlier (later ++ [c]) =
      noticesFrom earlier later ++ (c.tells (earlier ++ later)).filter (·.Fits) from h [] history
  intro earlier later
  induction later generalizing earlier with
  | nil => simp only [List.nil_append, noticesFrom, List.append_nil]
  | cons d later ih =>
    rw [List.cons_append, noticesFrom, noticesFrom, ih, List.append_assoc, List.append_assoc,
      List.singleton_append]

theorem stood_eq_none_iff (k : RecordKey) (history : List Call) :
    stood k history = none ↔ lastOn k history ≠ some .publish := by
  rw [stood, List.find?_eq_none, Ne, ← exists_standing_iff]
  simp only [decide_eq_true_eq, not_exists, not_and]

variable {history : List Call} {c : Call} (k : RecordKey)

theorem stood_publish (hc : c.operation = .publish) :
    stood k (history ++ [c]) =
      if c.Enters history ∧ c.key = k then some c.record else stood k history := by
  rw [stood, standing_publish hc, List.find?_append, ← stood]
  by_cases enters : c.Enters history
  · by_cases hk : c.key = k
    · subst hk
      have absent := (stood_eq_none_iff c.key history).mpr enters.2
      rw [absent, if_pos enters, if_pos ⟨enters, rfl⟩, Option.none_or]
      exact List.find?_cons_of_pos (decide_eq_true rfl)
    · have other : ([c.record].find? fun record => record.key = k) = none :=
        List.find?_cons_of_neg (by simpa [Call.key] using hk)
      rw [if_pos enters, if_neg fun h => hk h.2, other, Option.or_none]
  · rw [if_neg enters, if_neg fun h => enters h.1, List.find?_nil, Option.or_none]

theorem stood_unpublish (hc : c.operation = .unpublish) :
    stood k (history ++ [c]) = if c.key = k then none else stood k history := by
  rw [stood, standing_unpublish hc, List.find?_filter]
  split_ifs with hk
  · refine List.find?_eq_none.mpr fun record _ => ?_
    simp [hk]
  · refine congrArg (List.find? · (standing history)) (funext fun record => ?_)
    rw [Bool.eq_iff_iff]
    simp only [decide_eq_true_eq]
    exact and_iff_right_of_imp fun same hc => hk (hc.symm.trans same)

theorem key_of_stood {k : RecordKey} {record : Record} (h : stood k history = some record) : record.key = k :=
  of_decide_eq_true (List.find?_some (p := fun other : Record => decide (other.key = k)) h)

/-- What there is to say of a call concerns its own key only. -/
theorem key_of_mem_tells {record : Record} (h : record ∈ c.tells history) : record.key = c.key := by
  unfold tells at h
  cases hop : c.operation with
  | publish =>
    simp only [hop] at h
    split_ifs at h
    · rw [List.mem_singleton.mp h]
      rfl
    · cases h
  | unpublish =>
    simp only [hop, Option.mem_toList] at h
    obtain ⟨old, hold, rfl⟩ := Option.map_eq_some_iff.mp h
    have same : old.expired.key = old.key := rfl
    rw [same, key_of_stood hold]

theorem tells_publish (hc : c.operation = .publish) :
    c.tells history = if c.Enters history then [c.record] else [] := by
  simp only [tells, hc]

theorem tells_unpublish (hc : c.operation = .unpublish) :
    c.tells history = ((stood c.key history).map Record.expired).toList := by
  simp only [tells, hc]

/-- The announcement of a record is heard if it fits. -/
theorem InTurn.announced_if_fits {said : List Record} (h : InTurn said none) (record : Record) :
    InTurn (said ++ [record].filter (·.Fits)) ((some record).filter (·.Fits)) := by
  by_cases fits : record.Fits
  · rw [Option.filter_some_pos (by simpa using fits), List.filter_cons_of_pos (by simpa using fits)]
    exact h.announced record
  · rw [Option.filter_some_neg (by simpa using fits), List.filter_cons_of_neg (by simpa using fits)]
    rwa [List.filter_nil, List.append_nil]

/-- A goodbye fits if the record did. -/
theorem InTurn.retracted_if_fits {said : List Record} {old : Record}
    (h : InTurn said ((some old).filter (·.Fits))) : InTurn (said ++ [old.expired].filter (·.Fits)) none := by
  have same : old.expired.Fits ↔ old.Fits := Iff.rfl
  by_cases fits : old.Fits
  · rw [Option.filter_some_pos (by simpa using fits)] at h
    rw [List.filter_cons_of_pos (by simpa [same] using fits)]
    exact h.retracted
  · rw [Option.filter_some_neg (by simpa using fits)] at h
    rw [List.filter_cons_of_neg (by simpa [same] using fits), List.filter_nil, List.append_nil]
    exact h

/-- A call keeps the turns of every key. -/
theorem InTurn.call (h : InTurn ((notices history).filter (·.key = k)) ((stood k history).filter (·.Fits))) :
    InTurn ((notices (history ++ [c])).filter (·.key = k)) ((stood k (history ++ [c])).filter (·.Fits)) := by
  rw [notices_concat, List.filter_append]
  by_cases hk : c.key = k
  · have own : ((c.tells history).filter (·.Fits)).filter (·.key = k) = (c.tells history).filter (·.Fits) := by
      refine List.filter_eq_self.mpr fun record hm => ?_
      exact decide_eq_true ((key_of_mem_tells (List.mem_of_mem_filter hm)).trans hk)
    rw [own]
    cases hop : c.operation with
    | publish =>
      rw [stood_publish k hop, tells_publish hop]
      by_cases enters : c.Enters history
      · have absent : stood k history = none := (stood_eq_none_iff k history).mpr (hk ▸ enters.2)
        rw [absent] at h
        rw [if_pos enters, if_pos ⟨enters, hk⟩]
        exact h.announced_if_fits c.record
      · rw [if_neg enters, if_neg fun he => enters he.1, List.filter_nil, List.append_nil]
        exact h
    | unpublish =>
      rw [stood_unpublish k hop, if_pos hk, tells_unpublish hop, hk]
      cases ho : stood k history with
      | none =>
        rw [ho] at h
        simpa using h
      | some old =>
        rw [ho] at h
        exact h.retracted_if_fits
  · have foreign : ((c.tells history).filter (·.Fits)).filter (·.key = k) = [] := by
      refine List.filter_eq_nil_iff.mpr fun record hm heq => hk ?_
      exact (key_of_mem_tells (List.mem_of_mem_filter hm)).symm.trans (of_decide_eq_true heq)
    have still : stood k (history ++ [c]) = stood k history := by
      cases hop : c.operation with
      | publish => rw [stood_publish k hop, if_neg fun he => hk he.2]
      | unpublish => rw [stood_unpublish k hop, if_neg hk]
    rw [foreign, still, List.append_nil]
    exact h

theorem inTurn_notices (history : List Call) :
    InTurn ((notices history).filter (·.key = k)) ((stood k history).filter (·.Fits)) := by
  induction history using List.reverseRecOn with
  | nil => exact .nothing
  | append_singleton history c ih => exact ih.call k

theorem mem_of_mem_standing {record : Record} (h : record ∈ standing history) :
    ∃ c ∈ history, c.record = record := by
  induction history using List.reverseRecOn with
  | nil => cases h
  | append_singleton history c ih =>
    have before (hm : record ∈ standing history) : ∃ d ∈ history ++ [c], d.record = record := by
      obtain ⟨d, hd, hr⟩ := ih hm
      exact ⟨d, List.mem_append_left _ hd, hr⟩
    cases hop : c.operation with
    | publish =>
      rw [standing_publish hop, List.mem_append] at h
      rcases h with h | h
      · exact before h
      · split_ifs at h
        · exact ⟨c, by simp, (List.mem_singleton.mp h).symm⟩
        · cases h
    | unpublish =>
      rw [standing_unpublish hop] at h
      exact before (List.mem_of_mem_filter h)

end Call

namespace Responder

/-! ### What is sent -/

/-- The packet tells the group about this record alone: it is a reply without questions, and its header counts
one answer. -/
structure Carries (record : Record) (p : Packet) : Prop where
  address : p.address = mdnsAddress.text
  port : p.port = mdnsPort
  data : (Reply.mk 0 replyFlags [] [record]).encode? = some p.data
  header : [0, 0, 0x85, 0, 0, 0, 0, 1, 0, 0, 0, 0] <+: p.data

theorem announcement_fits_iff (record : Record) : (announcement record).Fits ↔ record.Fits := by
  constructor
  · intro h
    exact h.answers record List.mem_cons_self
  · intro h
    have one : (announcement record).answers.length = 1 := rfl
    exact ⟨Nat.zero_le _, by rw [one]; decide, nofun, List.forall_mem_singleton.mpr h⟩

variable {start r : Responder} {history : List Call}

/-- On a connection in use a record that fits is sent, and no other. -/
theorem announce_attached (attached : r.connection = .attached none) (record : Record) :
    (r.announce record).1.connection = .attached none ∧
      ∃ packets, (r.announce record).1.sent = r.sent ++ packets ∧
        List.Forall₂ Carries ([record].filter (·.Fits)) packets := by
  have use : r.isAttached = true := by
    rw [isAttached, attached]
  unfold announce
  rw [if_pos use]
  by_cases fits : record.Fits
  · obtain ⟨data, hdata, front⟩ := Reply.encode?_of_fits ((announcement_fits_iff record).mpr fits)
    have one_answer : Writer.bytes16 0 ++ Writer.bytes16 replyFlags ++ Writer.bytes16 0 ++ Writer.bytes16 1 ++
        Writer.bytes32 0 = [0, 0, 0x85, 0, 0, 0, 0, 1, 0, 0, 0, 0] := by decide
    rw [Reply.header, announcement, List.length_nil, List.length_singleton, one_answer] at front
    rw [hdata]
    simp only [send, attached]
    refine ⟨trivial, [⟨mdnsAddress.text, mdnsPort, data⟩], rfl, ?_⟩
    rw [List.filter_cons_of_pos (by simpa using fits)]
    exact .cons ⟨rfl, rfl, hdata, front⟩ .nil
  · rw [Reply.encode?_of_not_fits (mt (announcement_fits_iff record).mp fits)]
    refine ⟨attached, [], (List.append_nil _).symm, ?_⟩
    rw [List.filter_cons_of_neg (by simpa using fits)]
    exact .nil

theorem Holds.find? (h : Holds history r) (k : RecordKey) : r.table.find? k = stood k history := by
  rw [h, stood]
  induction standing history with
  | nil => rfl
  | cons record rest ih =>
    rw [List.map_cons, Table.find?]
    split_ifs with hk
    · rw [List.find?_cons_of_pos (by simpa using hk)]
    · rw [List.find?_cons_of_neg (by simpa using hk), ih]

/-- A call sends what there is to tell of it. -/
theorem Holds.call_sent (h : Holds history r) (attached : r.connection = .attached none) {c : Call}
    {line : String} (read : readLine line = .ok c.record) :
    (publisher.call c.operation line r).1.connection = .attached none ∧
      ∃ packets, (publisher.call c.operation line r).1.sent = r.sent ++ packets ∧
        List.Forall₂ Carries ((c.tells history).filter (·.Fits)) packets := by
  have silent : r.connection = .attached none ∧ ∃ packets, r.sent = r.sent ++ packets ∧
      List.Forall₂ Carries [] packets := ⟨attached, [], (List.append_nil _).symm, .nil⟩
  cases hop : c.operation with
  | publish =>
    rw [tells_publish hop]
    by_cases hk : c.record.key ∈ r.table.keys
    · rw [call_publish, publish_known read hk, if_neg fun he => (h.enters_iff hop).mp he hk]
      exact silent
    · rw [call_publish, publish_absent read hk, if_pos ((h.enters_iff hop).mpr hk)]
      have entered : { r with table := r.table ++ [(c.record.key, c.record)] }.connection = .attached none :=
        attached
      exact announce_attached entered c.record
  | unpublish =>
    rw [tells_unpublish hop, Call.key, ← h.find?]
    cases hf : r.table.find? c.record.key with
    | none =>
      rw [call_unpublish, unpublish_absent read hf]
      exact silent
    | some old =>
      rw [call_unpublish, unpublish_known read hf]
      have erased : { r with table := r.table.erase c.record.key }.connection = .attached none := attached
      exact announce_attached erased old.expired

theorem Runs.sent (empty : start.table = []) (attached : start.connection = .attached none)
    (h : Runs start history r) : r.connection = .attached none ∧
      ∃ packets, r.sent = start.sent ++ packets ∧ List.Forall₂ Carries (notices history) packets := by
  induction h with
  | nil => exact ⟨attached, [], (List.append_nil _).symm, .nil⟩
  | call before read ih =>
    obtain ⟨attached, front, hfront, carried⟩ := ih
    obtain ⟨attached, back, hback, more⟩ := (before.holds empty).call_sent attached read
    refine ⟨attached, front ++ back, ?_, ?_⟩
    · rw [hback, hfront, List.append_assoc]
    · rw [notices_concat]
      exact List.rel_append carried more

/-- A call that leaves the table as it is sends nothing. -/
theorem call_unchanged (nodup : r.table.keys.Nodup) {op : Operation} {line : String} (reads : Reads line)
    (same : (publisher.call op line r).1.table = r.table) : (publisher.call op line r).1.sent = r.sent := by
  obtain ⟨record, read⟩ := reads
  rw [call_perform] at same ⊢
  rcases perform_cases read op r with ⟨told, table, changes⟩ | settled
  · rw [perform_changes read changes, announce_table] at same
    exact absurd same (changes.ne nodup)
  · rw [settled]

/-- On a connection that always sends: among the records that fit into a packet, announcements and goodbyes of a
key take turns, each in a packet of its own, and the last one is an announcement exactly if the key is in the
table. If all records fit, these are all that there are. A call that does not change the table sends nothing. -/
theorem announcements_in_turn (empty : start.table = []) (attached : start.connection = .attached none)
    (runs : Runs start history r) :
    (∃ packets, r.sent = start.sent ++ packets ∧ List.Forall₂ Carries (notices history) packets) ∧
    (∀ k, InTurn ((notices history).filter (·.key = k)) ((r.table.find? k).filter (·.Fits))) ∧
    ((∀ c ∈ history, c.record.Fits) →
      ∀ k, InTurn ((notices history).filter (·.key = k)) (r.table.find? k)) ∧
    ∀ op line, Reads line → (publisher.call op line r).1.table = r.table →
      (publisher.call op line r).1.sent = r.sent := by
  have holds := runs.holds empty
  have turns (k : RecordKey) :
      InTurn ((notices history).filter (·.key = k)) ((r.table.find? k).filter (·.Fits)) := by
    rw [holds.find?]
    exact inTurn_notices k history
  refine ⟨(runs.sent empty attached).2, turns, fun fit k => ?_, fun op line reads same => ?_⟩
  · have whole : (r.table.find? k).filter (·.Fits) = r.table.find? k := by
      cases hf : r.table.find? k with
      | none => rfl
      | some record =>
        rw [holds.find?] at hf
        obtain ⟨c, hc, rfl⟩ := mem_of_mem_standing (List.mem_of_find?_eq_some hf)
        exact Option.filter_some_pos (by simpa using fit c hc)
    rw [← whole]
    exact turns k
  · exact call_unchanged holds.nodup reads same

theorem announcements_in_turn_shop : ∃ r, Runs { connection := .attached none } shopHistory r ∧
    (∃ packets, r.sent = [] ++ packets ∧ List.Forall₂ Carries
      [addressRecord shopName 120 1, addressRecord smallShopName 120 2, addressRecord smallShopName 0 2] packets) ∧
    ∀ k, InTurn ([addressRecord shopName 120 1, addressRecord smallShopName 120 2,
      addressRecord smallShopName 0 2].filter (·.key = k)) (r.table.find? k) := by
  have runs : Runs { connection := .attached none } shopHistory _ := Runs.nil.callEach shop_called
  have said : notices shopHistory = [addressRecord shopName 120 1, addressRecord smallShopName 120 2,
      addressRecord smallShopName 0 2] := by decide +kernel
  obtain ⟨sent, -, turns, -⟩ := announcements_in_turn rfl rfl runs
  rw [said] at sent turns
  exact ⟨_, runs, sent, turns (by decide +kernel)⟩

/-! ### A name that no packet holds -/

/-- A record that fits into no packet is put into the table all the same. -/
theorem publish_unwritable {line : String} {record : Record} (hl : readLine line = .ok record)
    (absent : record.key ∉ r.table.keys) (attached : r.connection = .attached none) (large : ¬ record.Fits) :
    publish line r = ({ r with table := r.table ++ [(record.key, record)] }, .error .unwritable) := by
  have unwritten : (announcement record).encode? = none :=
    Reply.encode?_of_not_fits (mt (announcement_fits_iff record).mp large)
  rw [publish_absent hl absent]
  simp only [announce, isAttached, attached, if_true, unwritten]

/-- Four labels of 63 letters. -/
def longLabels : List (List Char) :=
  List.replicate 4 (List.replicate 63 'a')

def longName : Name :=
  Name.ofLabels longLabels

def longOwner : String :=
  String.ofList (longLabels.flatMap (· ++ ['.']))

def longLine : String :=
  RecordLine.text ⟨longOwner, 120, .a, AddressV4.text ⟨192, 0, 2, 1⟩⟩

theorem spells_longOwner : Spells longLabels longOwner :=
  spells_of_all String.toList_ofList (by decide) (by decide)

theorem readLine_longLine : readLine longLine = .ok (addressRecord longName 120 1) := by
  have bound : 120 ≤ 4294967295 := by decide
  have short : longLabels.all Name.isLabel = true := by decide
  exact (readLine_address spells_longOwner ⟨192, 0, 2, 1⟩ bound).trans (if_pos short)

/-- The record of a line is put into the table and never announced, not even when it is published once more. -/
theorem long_name_unannounced :
    ∃ record, readLine longLine = .ok record ∧
      ∃ once, publish longLine { connection := .attached none } = (once, .error .unwritable) ∧
        record.key ∈ once.table.keys ∧ once.sent = [] ∧ publish longLine once = (once, .ok ()) := by
  have large : ¬ (addressRecord longName 120 1).Fits := by
    intro h
    exact absurd h.1.1 (by decide)
  have once := publish_unwritable (r := { connection := .attached none }) readLine_longLine List.not_mem_nil
    rfl large
  have known : (addressRecord longName 120 1).key ∈
      Table.keys [((addressRecord longName 120 1).key, addressRecord longName 120 1)] := List.mem_cons_self
  exact ⟨_, readLine_longLine, _, once, known, rfl, publish_known readLine_longLine known⟩

end Responder

end ClusterMdns
