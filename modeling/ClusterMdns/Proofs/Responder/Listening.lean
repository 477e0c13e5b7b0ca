import ClusterMdns.Proofs.Responder.Answers

/-! The responder as it listens. What it does in a turn of its loop depends on the table and on what arrives in that
turn alone; the table stays as it is, and no turn but a failure or the closing of the connection ends the loop. -/

namespace ClusterMdns

open Dns

namespace Responder

/-! ### Turns -/

/-- A turn of the loop: what arrives, whether the responder is closed while it waits for that, and why the connection
does not take a packet in this turn, if so. -/
structure Turn where
  arrival : Arrival
  closing : Bool := false
  loss : Option String := none

/-- What the responder does: it tries to send a packet, or it logs a line. -/
inductive Deed where
  | attempt (p : Packet)
  | log (line : LogLine)
deriving DecidableEq, Repr

/-- The packets that it tries to send. -/
def attempts : List Deed → List Packet
  | [] => []
  | .attempt p :: rest => p :: attempts rest
  | .log _ :: rest => attempts rest

def logged : List Deed → List LogLine
  | [] => []
  | .attempt _ :: rest => logged rest
  | .log line :: rest => line :: logged rest

theorem logged_append (deeds more : List Deed) : logged (deeds ++ more) = logged deeds ++ logged more := by
  induction deeds with
  | nil => rfl
  | cons deed deeds ih => cases deed <;> simp [logged, ih]

/-- A reply on its way: to the group if the datagram came from the port of the protocol, else to its sender. -/
def addressed (address : String) (port : Nat) (reply : List UInt8) : Packet :=
  if port = mdnsPort then ⟨mdnsAddress.text, mdnsPort, reply⟩ else ⟨address, port, reply⟩

/-- The packet that a datagram is answered with, if it is. -/
def response (table : Table RecordKey Record) (data : List UInt8) (address : String) (port : Nat) :
    Except Unit (Option Packet) :=
  (({ table } : Responder).answer data (port != mdnsPort)).map (Option.map (addressed address port))

/-- What is done about a datagram: a packet that answers it is tried once, and may be lost. -/
def deedsOf (address : String) (loss : Option String) : Except Unit (Option Packet) → List Deed
  | .error () => [.log ⟨.debug, "Ignoring malformed mDNS packet from " ++ address ++ ": *"⟩]
  | .ok none => []
  | .ok (some p) => .attempt p :: match loss with
    | some cause => [.log ⟨.warning, "Failed to send mDNS response to " ++ p.address ++ ": " ++ cause⟩]
    | none => []

/-- What the responder does in a turn. -/
def Turn.deeds (table : Table RecordKey Record) (t : Turn) : List Deed :=
  match t.arrival with
  | .silence => []
  | .failure cause => if t.closing then [] else [.log ⟨.warning, "mDNS receive failed: " ++ cause⟩]
  | .datagram data address port => deedsOf address t.loss (response table data address port)

/-- After the turn the loop is over. -/
def Turn.last (t : Turn) : Bool :=
  t.closing || match t.arrival with
    | .failure _ => true
    | _ => false

/-- The turns up to the one after which the loop is over. -/
def heard : List Turn → List Turn
  | [] => []
  | t :: rest => if t.last then [t] else t :: heard rest

/-- The responder after these deeds, of which packets go out unless the connection does not take them. -/
def after (loss : Option String) (deeds : List Deed) (r : Responder) : Responder :=
  match loss with
  | some _ => r
  | none => { r with sent := r.sent ++ attempts deeds }

/-- Takes a turn. -/
def take (t : Turn) (r : Responder) : Responder × List Deed :=
  let deeds := t.deeds r.table
  ({ r.after t.loss deeds with closed := r.closed || t.closing }, deeds)

/-- The loop. Before each turn it is looked whether the responder was closed. -/
def listen (r : Responder) : List Turn → Responder × List Deed
  | [] => (r, [])
  | t :: rest =>
    if r.closed || !r.isAttached then (r, [])
    else
      let (next, here) := r.take t
      match t.arrival with
      | .failure _ => (next, here)
      | _ =>
        let (last, later) := next.listen rest
        (last, here ++ later)

/-! ### The loop of one connection -/

/-- On a connection that takes packets, or refuses them for some cause, a datagram is handled as in a turn. -/
theorem handle_eq {r : Responder} {loss : Option String} (attached : r.connection = .attached loss)
    (data : List UInt8) (address : String) (port : Nat) : r.handle data address port =
      (r.after loss (deedsOf address loss (response r.table data address port)),
        logged (deedsOf address loss (response r.table data address port))) := by
  have answered : ({ table := r.table } : Responder).answer data (port != mdnsPort) =
      r.answer data (port != mdnsPort) := rfl
  have target : addressed address port = fun reply => ⟨if port != mdnsPort then address else mdnsAddress.text,
      if port != mdnsPort then port else mdnsPort, reply⟩ := by
    funext reply
    by_cases own : port = mdnsPort <;> simp [addressed, own]
  unfold handle response
  dsimp only
  rw [answered, target]
  cases r.answer data (port != mdnsPort) with
  | error e => cases loss <;> simp [Except.map, deedsOf, after, attempts, logged]
  | ok reply =>
    cases reply with
    | none => cases loss <;> simp [Except.map, deedsOf, after, attempts, logged]
    | some reply => cases loss <;> simp [Except.map, deedsOf, after, attempts, logged, send, attached]

/-- The responder on a connection that takes packets, or refuses them for a cause. -/
def upon (loss : Option String) (r : Responder) : Responder :=
  { r with connection := .attached loss }

/-- Whatever the turns before it did with the connection, the datagram of a turn is handled as the turn says. -/
theorem Turn.handle_upon (r : Responder) {t : Turn} {data : List UInt8} {address : String} {port : Nat}
    (arrival : t.arrival = .datagram data address port) : (r.upon t.loss).handle data address port =
      ((r.upon t.loss).after t.loss (t.deeds r.table), logged (t.deeds r.table)) := by
  rw [Turn.deeds, arrival]
  exact handle_eq rfl data address port

@[simp] theorem after_table (r : Responder) (loss : Option String) (deeds : List Deed) :
    (r.after loss deeds).table = r.table := by
  cases loss <;> rfl

@[simp] theorem after_connection (r : Responder) (loss : Option String) (deeds : List Deed) :
    (r.after loss deeds).connection = r.connection := by
  cases loss <;> rfl

theorem take_open (arrival : Arrival) (loss : Option String) (r : Responder) :
    r.take ⟨arrival, false, loss⟩ = (r.after loss (Turn.deeds r.table ⟨arrival, false, loss⟩),
      Turn.deeds r.table ⟨arrival, false, loss⟩) := by
  cases loss <;> simp [take, after]

/-- A loop on one connection, which takes all packets or none, is a loop of turns. -/
theorem serve_eq_listen {r : Responder} {loss : Option String} (attached : r.connection = .attached loss)
    (arrivals : List Arrival) :
    r.serve arrivals = ((r.listen (arrivals.map (⟨·, false, loss⟩))).1,
      logged (r.listen (arrivals.map (⟨·, false, loss⟩))).2) := by
  induction arrivals generalizing r with
  | nil => rfl
  | cons arrival rest ih =>
    have quiet (deeds : List Deed) (h : attempts deeds = []) : r.after loss deeds = r := by
      cases loss <;> simp [after, h]
    rw [List.map_cons, listen, take_open]
    unfold serve
    cases r.closed || !r.isAttached with
    | true => rfl
    | false =>
      cases arrival with
      | silence =>
        dsimp only [Turn.deeds]
        rw [quiet [] rfl]
        exact ih attached
      | failure cause =>
        dsimp only [Turn.deeds]
        rw [quiet _ rfl]
        rfl
      | datagram data address port =>
        dsimp only [Turn.deeds]
        rw [handle_eq attached]
        dsimp only
        rw [ih ((after_connection ..).trans attached)]
        simp only [Bool.false_eq_true, if_false, logged_append]

/-! ### Any turns -/

/-- The packets that go out in a turn. -/
def Turn.gone (table : Table RecordKey Record) (t : Turn) : List Packet :=
  if t.loss.isNone then attempts (t.deeds table) else []

theorem take_sent (t : Turn) (r : Responder) : (r.take t).1.sent = r.sent ++ t.gone r.table := by
  obtain ⟨arrival, closing, loss⟩ := t
  cases loss <;> simp [take, after, Turn.gone]

theorem take_isAttached (t : Turn) (r : Responder) : (r.take t).1.isAttached = r.isAttached := by
  simp [take, isAttached]

theorem listen_of_closed {r : Responder} (closed : r.closed = true) (turns : List Turn) :
    r.listen turns = (r, []) := by
  cases turns with
  | nil => rfl
  | cons t rest => rw [listen, closed, Bool.true_or, if_pos rfl]

/-- What comes of a loop: the same table, and what is done in each turn that is heard. -/
structure Undisturbed (r : Responder) (turns : List Turn) (next : Responder) (deeds : List Deed) : Prop where
  table : next.table = r.table
  deeds : deeds = turns.flatMap (Turn.deeds r.table)
  sent : next.sent = r.sent ++ turns.flatMap (Turn.gone r.table)

theorem Undisturbed.turn (t : Turn) (r : Responder) : Undisturbed r [t] (r.take t).1 (r.take t).2 where
  table := by simp [take]
  deeds := by simp [take]
  sent := by simp [take_sent]

theorem Undisturbed.cons {t : Turn} {r last : Responder} {turns : List Turn} {later : List Deed}
    (h : Undisturbed (r.take t).1 turns last later) : Undisturbed r (t :: turns) last ((r.take t).2 ++ later) := by
  have here := turn t r
  constructor
  · rw [h.table, here.table]
  · rw [h.deeds, here.deeds, here.table, List.flatMap_singleton, List.flatMap_cons]
  · rw [h.sent, here.sent, here.table, List.flatMap_singleton, List.flatMap_cons, List.append_assoc]

theorem listen_run {r : Responder} (opened : r.closed = false) (attached : r.isAttached = true)
    (turns : List Turn) : Undisturbed r (heard turns) (r.listen turns).1 (r.listen turns).2 := by
  induction turns generalizing r with
  | nil => exact ⟨rfl, rfl, (List.append_nil _).symm⟩
  | cons t rest ih =>
    have closed : (r.take t).1.closed = t.closing := by
      simp [take, opened]
    have goes_on (h : t.last = t.closing) : Undisturbed r (if t.last then [t] else t :: heard rest)
        ((r.take t).1.listen rest).1 ((r.take t).2 ++ ((r.take t).1.listen rest).2) := by
      rw [h]
      cases closing : t.closing with
      | true =>
        rw [listen_of_closed (closed.trans closing), List.append_nil]
        exact .turn t r
      | false => exact .cons (ih (closed.trans closing) ((take_isAttached t r).trans attached))
    rw [listen, opened, attached, heard]
    simp only [Bool.not_true, Bool.or_self, Bool.false_eq_true, if_false]
    cases arrival : t.arrival with
    | failure cause =>
      have ends : t.last = true := by
        rw [Turn.last, arrival, Bool.or_true]
      rw [ends]
      exact .turn t r
    | silence => exact goes_on (by rw [Turn.last, arrival, Bool.or_false])
    | datagram => exact goes_on (by rw [Turn.last, arrival, Bool.or_false])

end Responder

/-! ### One datagram -/

/-- The question asks for what is kept under the key. -/
def Dns.Question.Concerns (q : Question) (k : RecordKey) : Prop :=
  k.owner = q.name.folded ∧ (q.type = Responder.anyType ∨ q.type = k.type)

instance (q : Question) (k : RecordKey) : Decidable (q.Concerns k) :=
  inferInstanceAs (Decidable (_ ∧ (_ ∨ _)))

namespace Responder

/-- What a table holds of that which a query asks for. -/
def found (table : Table RecordKey Record) (q : Query) : List Record :=
  q.questions.flatMap fun question => (table.filter fun e => question.Concerns e.1).map (·.2)

/-- A datagram is a query that asks for something in the table, and a reply can be written. -/
def Answerable (table : Table RecordKey Record) (data : List UInt8) (port : Nat) : Prop :=
  ∃ q, Query.decode? data = some q ∧ q.isReply = false ∧
    (∃ question ∈ q.questions, ∃ e ∈ table, question.Concerns e.1) ∧
    (replyTo (port != mdnsPort) q (found table q)).Fits

/-- The packet answers the datagram, to the group or to the sender. -/
inductive Answered (table : Table RecordKey Record) (data : List UInt8) (address : String) : Nat → Packet → Prop
  | group {q : Query} {reply : List UInt8} (read : Query.decode? data = some q) (asks : q.isReply = false)
      (some_found : found table q ≠ [])
      (packed : (Reply.mk 0 replyFlags [] (found table q)).encode? = some reply) :
      Answered table data address mdnsPort ⟨mdnsAddress.text, mdnsPort, reply⟩
  | sender {port : Nat} (foreign : port ≠ mdnsPort) {q : Query} {reply : List UInt8}
      (read : Query.decode? data = some q) (asks : q.isReply = false) (some_found : found table q ≠ [])
      (packed : (Reply.mk q.id (flagsOfReply q.flags) (q.questions.take 1) (found table q)).encode? = some reply) :
      Answered table data address port ⟨address, port, reply⟩

theorem found_eq (table : Table RecordKey Record) (q : Query) :
    q.questions.flatMap ({ table } : Responder).matching = found table q := by
  refine List.flatMap_congr fun question _ => congrArg (List.map _) (List.filter_congr fun e _ => ?_)
  rw [Bool.eq_iff_iff, decide_eq_true_iff]
  simp only [Bool.and_eq_true, Bool.or_eq_true, beq_iff_eq]
  rfl

section
variable {table : Table RecordKey Record} {data : List UInt8} {address : String} {port : Nat}

theorem answer_eq_ok_iff {legacy : Bool} {reply : List UInt8} :
    ({ table } : Responder).answer data legacy = .ok (some reply) ↔
      ∃ q, Query.decode? data = some q ∧ q.isReply = false ∧ found table q ≠ [] ∧
        (replyTo legacy q (found table q)).encode? = some reply := by
  unfold answer
  cases Query.decode? data with
  | none => simp
  | some q =>
    dsimp only
    rw [found_eq]
    cases asks : q.isReply with
    | true => simp [asks]
    | false =>
      cases none : (found table q).isEmpty with
      | true => simp [List.isEmpty_iff.mp none]
      | false =>
        have some_found : found table q ≠ [] := by
          simpa using none
        cases packed : (replyTo legacy q (found table q)).encode? <;> simp [asks, some_found, packed]

theorem response_eq_ok_iff {p : Packet} : response table data address port = .ok (some p) ↔
    ∃ reply q, Query.decode? data = some q ∧ q.isReply = false ∧ found table q ≠ [] ∧
      (replyTo (port != mdnsPort) q (found table q)).encode? = some reply ∧ addressed address port reply = p := by
  rw [response, map_eq_ok]
  simp only [Option.map_eq_some_iff]
  constructor
  · rintro ⟨_, h, reply, rfl, rfl⟩
    obtain ⟨q, read, asks, some_found, packed⟩ := answer_eq_ok_iff.mp h
    exact ⟨reply, q, read, asks, some_found, packed, rfl⟩
  · rintro ⟨reply, q, read, asks, some_found, packed, rfl⟩
    exact ⟨some reply, answer_eq_ok_iff.mpr ⟨q, read, asks, some_found, packed⟩, reply, rfl, rfl⟩

theorem response_iff_answered {p : Packet} :
    response table data address port = .ok (some p) ↔ Answered table data address port p := by
  rw [response_eq_ok_iff]
  by_cases own : port = mdnsPort
  · subst own
    simp only [bne_self_eq_false]
    constructor
    · rintro ⟨reply, q, read, asks, some_found, packed, rfl⟩
      exact .group read asks some_found packed
    · intro h
      cases h with
      | group read asks some_found packed => exact ⟨_, _, read, asks, some_found, packed, rfl⟩
      | sender foreign => exact absurd rfl foreign
  · simp only [bne_iff_ne.mpr own, addressed, if_neg own]
    constructor
    · rintro ⟨reply, q, read, asks, some_found, packed, rfl⟩
      exact .sender own read asks some_found packed
    · intro h
      cases h with
      | group => exact absurd rfl own
      | sender _ read asks some_found packed => exact ⟨_, _, read, asks, some_found, packed, rfl⟩

theorem answered_iff : (∃ p, Answered table data address port p) ↔ Answerable table data port := by
  have some_found (q : Query) : found table q ≠ [] ↔
      ∃ question ∈ q.questions, ∃ e ∈ table, question.Concerns e.1 := by
    rw [found, ne_eq, List.flatMap_eq_nil_iff]
    simp
  simp only [Answerable, ← response_iff_answered, response_eq_ok_iff, ← some_found, ← Reply.encode?_isSome_iff]
  constructor
  · rintro ⟨_, reply, q, read, asks, some_found, packed, -⟩
    exact ⟨q, read, asks, some_found, by rw [packed]; rfl⟩
  · rintro ⟨q, read, asks, some_found, packed⟩
    obtain ⟨reply, packed⟩ := Option.isSome_iff_exists.mp packed
    exact ⟨_, reply, q, read, asks, some_found, packed, rfl⟩

/-- Of a reply to the group the identifier is zero, and there is no question in it. A reply to the sender has the
identifier of the query. -/
theorem Answered.marked {p : Packet} (h : Answered table data address port p) :
    (port = mdnsPort → p.address = mdnsAddress.text ∧ p.port = mdnsPort ∧
      p.data.take 2 = [0, 0] ∧ (p.data.drop 4).take 2 = [0, 0]) ∧
    (port ≠ mdnsPort → p.address = address ∧ p.port = port ∧ p.data.take 2 = data.take 2) := by
  cases h with
  | group read asks some_found packed =>
    refine ⟨fun _ => ⟨rfl, rfl, ?_⟩, fun foreign => absurd rfl foreign⟩
    obtain ⟨rest, rfl⟩ := Reply.header_of_encode? packed
    simp [Reply.header, Writer.bytes16]
  | sender foreign read asks some_found packed =>
    refine ⟨fun own => absurd own foreign, fun _ => ⟨rfl, rfl, ?_⟩⟩
    obtain ⟨rest, rfl⟩ := Reply.header_of_encode? packed
    rw [← Query.bytes16_id read]
    rfl

theorem attempts_deedsOf {loss : Option String} {answer : Except Unit (Option Packet)} :
    attempts (deedsOf address loss answer) = match answer with
      | .ok (some p) => [p]
      | _ => [] := by
  match answer, loss with
  | .error _, _ => rfl
  | .ok none, _ => rfl
  | .ok (some _), none => rfl
  | .ok (some _), some _ => rfl

theorem Turn.attempts_of_other {t : Turn} (other : ∀ data address port, t.arrival ≠ .datagram data address port) :
    attempts (t.deeds table) = [] := by
  unfold deeds
  split
  · rfl
  · split <;> rfl
  · rename_i data address port arrival
    exact absurd arrival (other data address port)

theorem Turn.attempts_of_datagram {t : Turn} (arrival : t.arrival = .datagram data address port) (p : Packet) :
    attempts (t.deeds table) = [p] ↔ Answered table data address port p := by
  rw [Turn.deeds, arrival]
  dsimp only
  rw [attempts_deedsOf, ← response_iff_answered]
  split
  · rename_i q answered
    simp [answered]
  · rename_i unanswered
    exact ⟨nofun, fun answered => absurd answered (unanswered p)⟩

theorem Turn.no_attempt_iff {t : Turn} (arrival : t.arrival = .datagram data address port) :
    attempts (t.deeds table) = [] ↔ ¬ Answerable table data port := by
  have answered : (∃ p, Answered table data address port p) ↔ Answerable table data port := answered_iff
  rw [← answered]
  simp only [← Turn.attempts_of_datagram arrival]
  rw [Turn.deeds, arrival]
  dsimp only
  rw [attempts_deedsOf]
  split <;> simp

end

/-- The loop takes every turn up to the one that ends it, and leaves the table alone. Each datagram is handled on the
connection of its own turn: one packet is tried if it can be answered, and none otherwise, and what that packet is
depends on the table and on the datagram. -/
theorem listener_undisturbed {r : Responder} (opened : r.closed = false) (attached : r.isAttached = true)
    (turns : List Turn) :
    Undisturbed r (heard turns) (r.listen turns).1 (r.listen turns).2 ∧
    (∀ loss arrivals, r.connection = .attached loss →
      r.serve arrivals = ((r.listen (arrivals.map (⟨·, false, loss⟩))).1,
        logged (r.listen (arrivals.map (⟨·, false, loss⟩))).2)) ∧
    (∀ t : Turn, (∀ data address port, t.arrival ≠ .datagram data address port) →
      attempts (t.deeds r.table) = []) ∧
    ∀ (t : Turn) (data : List UInt8) (address : String) (port : Nat), t.arrival = .datagram data address port →
      (r.upon t.loss).handle data address port =
        ((r.upon t.loss).after t.loss (t.deeds r.table), logged (t.deeds r.table)) ∧
      (∀ p, attempts (t.deeds r.table) = [p] ↔ Answered r.table data address port p) ∧
      (attempts (t.deeds r.table) = [] ↔ ¬ Answerable r.table data port) ∧
      ∀ p, Answered r.table data address port p →
        (port = mdnsPort → p.address = mdnsAddress.text ∧ p.port = mdnsPort ∧
          p.data.take 2 = [0, 0] ∧ (p.data.drop 4).take 2 = [0, 0]) ∧
        (port ≠ mdnsPort → p.address = address ∧ p.port = port ∧ p.data.take 2 = data.take 2) := by
  refine ⟨listen_run opened attached turns, fun loss arrivals connected => serve_eq_listen connected arrivals,
    fun t other => Turn.attempts_of_other other, fun t data address port arrival => ⟨?_, ?_, ?_, ?_⟩⟩
  · exact Turn.handle_upon r arrival
  · exact Turn.attempts_of_datagram arrival
  · exact Turn.no_attempt_iff arrival
  · exact fun p answered => answered.marked

/-! ### A shop that is asked for -/

def openShop : Responder where
  table := [((addressRecord shopName 120 1).key, addressRecord shopName 120 1)]
  connection := .attached none

/-- A query of the group, three bytes that are no packet, a while of silence, a query from elsewhere whose reply is
lost, a query while the responder is closed, and one more. -/
def shopTurns : List Turn :=
  [⟨.datagram shopQuery "10.0.0.9" 5353, false, none⟩, ⟨.datagram [1, 2, 3] "10.0.0.9" 5353, false, none⟩,
    ⟨.silence, false, none⟩, ⟨.datagram shopQuery "10.0.0.9" 40000, false, some "network unreachable"⟩,
    ⟨.datagram shopQuery "10.0.0.9" 5353, true, none⟩, ⟨.datagram shopQuery "10.0.0.9" 40000, false, none⟩]

theorem listener_undisturbed_shop :
    (openShop.listen shopTurns).1.table = openShop.table ∧
    (attempts (openShop.listen shopTurns).2).map (fun p => (p.address, p.port, p.data.take 2)) =
      [("224.0.0.251", 5353, [0, 0]), ("10.0.0.9", 40000, [0, 7]), ("224.0.0.251", 5353, [0, 0])] := by
  obtain ⟨run, -⟩ := listener_undisturbed (r := openShop) rfl rfl shopTurns
  refine ⟨run.table, ?_⟩
  rw [run.deeds]
  decide +kernel

end Responder

end ClusterMdns
