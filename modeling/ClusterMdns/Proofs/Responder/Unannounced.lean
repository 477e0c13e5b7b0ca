import ClusterMdns.Proofs.Responder.Announcements

/-! What a call that fails leaves behind. If its line is not read, nothing: the call fails in the same way when it is
repeated. If the group cannot be told, the table is changed all the same: the call is then settled, and repeating it
on a connection that works sends nothing. -/

namespace ClusterMdns

open Dns

namespace Responder

/-! ### Failures -/

/-- How a call fails, and the responder that it leaves. -/
inductive Fails (op : Operation) (line : String) (r : Responder) : ResponderError → Responder → Prop
  | unread {e : ResponderError} (unread : readLine line = .error e) : Fails op line r e r
  | untold {record told : Record} {table : Table RecordKey Record} {cause : String}
      (read : readLine line = .ok record) (changes : Changes record r.table op told table) (fits : told.Fits)
      (refused : r.connection = .attached (some cause)) : Fails op line r (.unannounced told cause) { r with table }

variable {op : Operation} {line : String} {r after : Responder} {record told : Record}
  {table : Table RecordKey Record} {e : ResponderError}

/-- Telling the group fails with an error of the responder exactly if the connection refuses a packet. -/
theorem announce_fails_iff (record : Record) (r : Responder) :
    announce record r = (after, .error (.responder e)) ↔
      after = r ∧ record.Fits ∧ ∃ cause, r.connection = .attached (some cause) ∧ e = .unannounced record cause := by
  unfold announce
  cases hc : r.connection with
  | never | abandoned | closed => simp [isAttached, hc]
  | attached failure =>
    have use : r.isAttached = true := by
      rw [isAttached, hc]
    rw [if_pos use]
    by_cases fits : record.Fits
    · obtain ⟨data, hdata, -⟩ := Reply.encode?_of_fits ((announcement_fits_iff record).mpr fits)
      rw [hdata]
      cases failure with
      | none => simp [send, hc, Except.mapError]
      | some cause => simp [send, hc, Except.mapError, fits, eq_comm]
    · rw [Reply.encode?_of_not_fits (mt (announcement_fits_iff record).mp fits)]
      simp [fits]

theorem perform_fails_iff (op : Operation) (line : String) (r : Responder) :
    perform op line r = (after, .error (.responder e)) ↔ Fails op line r e after := by
  cases read : readLine line with
  | error found =>
    rw [perform_unread read]
    constructor
    · rintro ⟨⟩
      exact .unread read
    · rintro (unread | ⟨other, _⟩)
      · cases read.symm.trans unread
        rfl
      · cases read.symm.trans other
  | ok record =>
    constructor
    · intro failed
      rcases perform_cases read op r with ⟨told, table, changes⟩ | settled
      · rw [perform_changes read changes, announce_fails_iff] at failed
        obtain ⟨rfl, fits, cause, refused, rfl⟩ := failed
        exact .untold read changes fits refused
      · cases settled.symm.trans failed
    · rintro (unread | ⟨found, changes, fits, refused⟩)
      · cases read.symm.trans unread
      · rw [perform_changes found changes, announce_fails_iff]
        exact ⟨rfl, fits, _, refused, rfl⟩

/-! ### Repeating a call -/

/-- An operation whose change is made has nothing to do. -/
theorem perform_again (read : readLine line = .ok record) (changes : Changes record table op told after.table)
    (nodup : table.keys.Nodup) : perform op line after = (after, .ok ()) := by
  generalize made : after.table = next at changes
  cases changes with
  | entered absent =>
    have known : record.key ∈ after.table.keys := by
      rw [made, Table.keys, List.map_append]
      exact List.mem_append_right _ (List.mem_singleton_self _)
    exact publish_known read known
  | retracted held =>
    have absent : after.table.find? record.key = none := by
      rw [made, Table.find?_erase nodup, if_pos rfl]
    exact unpublish_absent read absent

/-- How the calls fail that do so with an error of the responder, for any connection. One whose line is not read
leaves everything as it was and fails again. One that could not tell the group has changed the table: when it is
repeated it succeeds, and sends nothing even if the connection works by then. -/
theorem failed_call_keeps_change (nodup : r.table.keys.Nodup) (op : Operation) (line : String) :
    (∀ e after, perform op line r = (after, .error (.responder e)) ↔ Fails op line r e after) ∧
    ∀ e after, Fails op line r e after →
      (¬ Reads line → after = r ∧ ∀ connection,
        perform op line { after with connection } = ({ after with connection }, .error (.responder e))) ∧
      (Reads line → after.table ≠ r.table ∧ ∀ connection,
        perform op line { after with connection } = ({ after with connection }, .ok ())) := by
  refine ⟨fun e after => perform_fails_iff op line r, fun e after failed => ?_⟩
  cases failed with
  | unread unread =>
    refine ⟨fun _ => ⟨rfl, fun connection => perform_unread unread _⟩, ?_⟩
    rintro ⟨record, read⟩
    cases unread.symm.trans read
  | untold read changes fits refused =>
    refine ⟨fun unread => absurd ⟨_, read⟩ unread, fun _ => ⟨changes.ne nodup, fun connection => ?_⟩⟩
    exact perform_again read changes nodup

/-! ### A shop that is not announced -/

theorem read_shop : readLine "Shop.local. 120 IN A 192.0.2.1" = .ok (addressRecord shopName 120 1) := by
  decide +kernel

/-- The goodbye for the shop cannot be sent, and is not sent later. -/
theorem failed_call_keeps_change_shop :
    let shop := addressRecord shopName 120 1
    let r : Responder := { table := [(shop.key, shop)], connection := .attached (some "network unreachable") }
    ∃ after, perform .unpublish "Shop.local. 120 IN A 192.0.2.1" r =
        (after, .error (.responder (.unannounced shop.expired "network unreachable"))) ∧
      after.table = [] ∧ after.table ≠ r.table ∧
      perform .unpublish "Shop.local. 120 IN A 192.0.2.1" { after with connection := .attached none } =
        ({ after with connection := .attached none }, .ok ()) := by
  intro shop r
  obtain ⟨fails, keeps⟩ := failed_call_keeps_change (r := r) (List.nodup_singleton _) .unpublish
    "Shop.local. 120 IN A 192.0.2.1"
  have held : r.table.find? shop.key = some shop := if_pos rfl
  have failed : Fails .unpublish _ r (.unannounced shop.expired "network unreachable") _ :=
    .untold read_shop (.retracted held) (by decide +kernel) rfl
  obtain ⟨changed, settled⟩ := (keeps _ _ failed).2 ⟨_, read_shop⟩
  exact ⟨_, (fails _ _).mpr failed, if_pos rfl, changed, settled _⟩

/-- The announcement of the shop cannot be sent, the shop is in the table, and publishing it once more on a connection
that works sends nothing. -/
theorem shop_never_announced :
    let r : Responder := { connection := .attached (some "network unreachable") }
    ∃ after e, publish "Shop.local. 120 IN A 192.0.2.1" r = (after, .error (.responder e)) ∧
      after.table ≠ r.table ∧
      publish "Shop.local. 120 IN A 192.0.2.1" { after with connection := .attached none } =
        ({ after with connection := .attached none }, .ok ()) ∧ after.sent = [] := by
  intro r
  have absent : (addressRecord shopName 120 1).key ∉ r.table.keys := List.not_mem_nil
  have entered := Changes.entered absent
  refine ⟨_, _, (perform_fails_iff .publish _ r).mpr (.untold read_shop entered (by decide +kernel) rfl), ?_, ?_, rfl⟩
  · exact entered.ne List.nodup_nil
  · change perform .publish _ _ = _
    exact perform_again read_shop entered List.nodup_nil

end Responder

end ClusterMdns
