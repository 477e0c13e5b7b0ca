import ClusterMdns.Proofs.Informer.Atomic
import ClusterMdns.Proofs.Informer.Delivery
import ClusterMdns.Proofs.Informer.Shape
import ClusterMdns.SourceTask

/-! When an informer breaks down. A value of the wrong shape, in a listing or in a watch event, ends it for good, and
so does a failure of the client that is not expected of it. Nothing else does: it is over only after the signal to
stop, after every other failure it lists again, and every listing that it can use is told of to the end. -/

namespace ClusterMdns

open Document ClusterObject Informer

/-- After such a fault of the client the objects are listed again. -/
def Document.Fault.passes : Fault → Bool
  | .badValue | .undecodable => true
  | _ => false

namespace EventStream

variable {s : EventStream} {input : StreamInput} {resource : String}

/-- A value that could not be used has ended the stream. -/
def IsBroken (s : EventStream) : Prop :=
  ∃ f, s.phase = .broken f

/-- What the stream cannot take where it stands. -/
def Chokes (s : EventStream) : StreamInput → Prop
  | .listed items _ => s.phase = .listing ∧ ¬ Listable items
  | .received raw => s.phase = .watching ∧ ¬ Readable raw
  | .failed e => (s.phase = .listing ∨ s.phase = .watching) ∧ ∃ f, e = .fault f ∧ f.passes = false
  | _ => False

/-! ### What a step leaves -/

@[simp] theorem deliver_informer (es : List MembershipEvent) (s : EventStream) :
    (s.deliver es).1.informer = s.informer := by
  cases es <;> rfl

@[simp] theorem goOn_informer (s : EventStream) : s.goOn.informer = s.informer := rfl

@[simp] theorem turn_informer (due : Bool) (s : EventStream) : (s.turn due).1.informer = s.informer := by
  unfold turn
  split
  · rfl
  · split <;> rfl

/-- The informer of a stream comes to its state by listings and watch events. -/
theorem step_reachable (h : Reachable resource s.informer) (input : StreamInput) :
    Reachable resource (s.step input).1.informer := by
  unfold step
  split
  case h_2 => rwa [turn_informer]
  case h_3 items version _ =>
    have relisted := h.relisted items version
    unfold takeListing
    cases hout : (s.informer.relist items version).2.outcome with
    | ok es => simpa only [hout, deliver_informer] using relisted
    | error f => simpa only [hout, fail_informer] using relisted
  case h_4 | h_8 => rwa [fail_informer]
  case h_5 => rwa [deliver_informer]
  case h_6 raw _ =>
    have applied := h.applied raw
    unfold takeEvent
    cases hout : (s.informer.apply raw).2.outcome with
    | ok e => cases e <;> simpa only [hout, goOn_informer] using applied
    | error e => cases e <;> simpa only [hout, fail_informer] using applied
  all_goals exact h

theorem run_reachable (h : Reachable resource s.informer) (inputs : List StreamInput) :
    Reachable resource (s.run inputs).1.informer := by
  induction inputs generalizing s with
  | nil => exact h
  | cons input rest ih => exact ih (step_reachable h input)

/-! ### Breaking down -/

theorem fail_isBroken_iff {e : CallError} : (s.fail e).1.IsBroken ↔ ∃ f, e = .fault f ∧ f.passes = false := by
  cases e with
  | expired message => simp [fail, IsBroken]
  | failed message => simp [fail, fail.retry, IsBroken]
  | fault f => cases f <;> simp [fail, fail.retry, IsBroken, Fault.passes]

theorem passes_of_misshapen {f : Fault} (h : Misshapen f) : f.passes = false := by
  rcases h with rfl | rfl <;> rfl

theorem deliver_not_isBroken (es : List MembershipEvent) : ¬ (s.deliver es).1.IsBroken := by
  cases es <;> exact nofun

theorem takeListing_isBroken_iff (tidy : Tidy s.informer) {items version : Value} :
    (s.takeListing items version).1.IsBroken ↔ ¬ Listable items := by
  unfold takeListing
  rcases relist_shape tidy items version with ⟨listable, _, _, -, -, hout⟩ | ⟨other, f, hout, misshapen⟩
  · simp only [hout, listable, not_true_eq_false, iff_false]
    exact deliver_not_isBroken _
  · simp only [hout, fail_isBroken_iff, other, not_false_eq_true, iff_true]
    exact ⟨f, rfl, passes_of_misshapen misshapen⟩

theorem goOn_not_isBroken : ¬ s.goOn.IsBroken := by
  unfold goOn
  cases s.stopped <;> exact nofun

theorem takeEvent_isBroken_iff (tidy : Tidy s.informer) {raw : Value} :
    (s.takeEvent raw).1.IsBroken ↔ ¬ Readable raw := by
  unfold takeEvent
  rcases apply_shape tidy raw with ⟨readable, ⟨e, hout⟩ | ⟨message, hout⟩⟩ | ⟨other, hout⟩
  · cases e with
    | none =>
      simp only [hout, readable, not_true_eq_false, iff_false]
      exact goOn_not_isBroken
    | some e =>
      simp only [hout, readable, not_true_eq_false, iff_false]
      exact nofun
  · simp [hout, fail_isBroken_iff, readable]
  · simp only [hout, fail_isBroken_iff, other, not_false_eq_true, iff_true]
    exact ⟨_, rfl, rfl⟩

theorem turn_not_isBroken (due : Bool) : ¬ (s.turn due).1.IsBroken := by
  unfold turn
  split
  · exact nofun
  · split <;> exact nofun

theorem not_chokes (no_listing : ∀ items version, input = .listed items version → s.phase = .listing → False)
    (no_event : ∀ raw, input = .received raw → s.phase = .watching → False)
    (no_call : ∀ e, input = .failed e → s.phase = .listing → False)
    (no_watch : ∀ e, input = .failed e → s.phase = .watching → False) : ¬ s.Chokes input := by
  intro chokes
  cases input with
  | listed items version => exact no_listing _ _ rfl chokes.1
  | received raw => exact no_event _ rfl chokes.1
  | failed e => exact chokes.1.elim (no_call _ rfl) (no_watch _ rfl)
  | stop | turn | closed | taken | rested => exact chokes

/-- An input breaks the stream exactly if it chokes it. -/
theorem step_isBroken_iff (tidy : Tidy s.informer) (whole : ¬ s.IsBroken) (input : StreamInput) :
    (s.step input).1.IsBroken ↔ s.Chokes input := by
  unfold step
  split
  case h_1 => exact iff_of_false whole id
  case h_2 => exact iff_of_false (turn_not_isBroken _) id
  case h_3 items version asked => exact (takeListing_isBroken_iff tidy).trans (and_iff_right asked).symm
  case h_4 e asked => exact fail_isBroken_iff.trans (and_iff_right (Or.inl asked)).symm
  case h_5 => exact iff_of_false (deliver_not_isBroken _) id
  case h_6 raw watching => exact (takeEvent_isBroken_iff tidy).trans (and_iff_right watching).symm
  case h_7 => exact iff_of_false (by rintro ⟨f, ⟨⟩⟩) id
  case h_8 e watching => exact fail_isBroken_iff.trans (and_iff_right (Or.inr watching)).symm
  case h_9 => exact iff_of_false goOn_not_isBroken id
  case h_10 => exact iff_of_false (by rintro ⟨f, ⟨⟩⟩) id
  case h_11 no_listing no_call _ no_event _ no_watch _ _ =>
    exact iff_of_false whole (not_chokes no_listing no_event no_call no_watch)

/-- A broken stream stays so and says nothing more. -/
theorem run_of_broken (h : s.IsBroken) (inputs : List StreamInput) :
    (s.run inputs).1.IsBroken ∧ (s.run inputs).2 = [] := by
  induction inputs generalizing s with
  | nil => exact ⟨h, rfl⟩
  | cons input rest ih =>
    have stepped : (s.step input).1.IsBroken ∧ (s.step input).2 = [] := by
      obtain ⟨f, hf⟩ := h
      cases input <;> simp [step, hf, IsBroken]
    obtain ⟨broken, silent⟩ := ih stepped.1
    rw [run_cons]
    exact ⟨broken, by rw [stepped.2, silent]; rfl⟩

/-- Some input choked the stream when it came. -/
def ChokedBy (s : EventStream) (inputs : List StreamInput) : Prop :=
  ∃ front input back, inputs = front ++ input :: back ∧ (s.run front).1.Chokes input

theorem chokedBy_cons {rest : List StreamInput} :
    s.ChokedBy (input :: rest) ↔ s.Chokes input ∨ (s.step input).1.ChokedBy rest := by
  constructor
  · rintro ⟨front, bad, back, split, chokes⟩
    cases front with
    | nil =>
      obtain ⟨rfl, -⟩ := List.cons.inj split
      exact Or.inl chokes
    | cons first front =>
      obtain ⟨rfl, rfl⟩ := List.cons.inj split
      exact Or.inr ⟨front, bad, back, rfl, chokes⟩
  · rintro (chokes | ⟨front, bad, back, rfl, chokes⟩)
    · exact ⟨[], input, rest, rfl, chokes⟩
    · exact ⟨input :: front, bad, back, rfl, chokes⟩

/-- The first input that chokes the stream breaks it for good, and without one it stays whole. -/
theorem run_isBroken_iff (h : Reachable resource s.informer) (whole : ¬ s.IsBroken) (inputs : List StreamInput) :
    (s.run inputs).1.IsBroken ↔ s.ChokedBy inputs := by
  induction inputs generalizing s with
  | nil => exact iff_of_false whole (by rintro ⟨front, bad, back, split, -⟩; simp at split)
  | cons input rest ih =>
    have stepped := step_isBroken_iff h.tidy whole input
    rw [run_cons, chokedBy_cons, ← stepped]
    by_cases broken : (s.step input).1.IsBroken
    · exact iff_of_true (run_of_broken broken rest).1 (Or.inl broken)
    · rw [ih (step_reachable h input) broken]
      exact (or_iff_right broken).symm

/-- A stream that is to list again does so at its next turn, unless it is over. -/
theorem Restarting.lists (h : s.Restarting) (whole : ¬ s.IsBroken) (going : s.stopped = false)
    (open_ : s.phase ≠ .ended) (due : Bool) :
    s.run [.rested, .turn due] = ({ s with phase := .listing }, [.list]) := by
  unfold Restarting at h
  split at h
  case h_1 hs => simp [run, step, turn, hs, h, going]
  case h_2 hs => simp [run, step, turn, hs, h, going]
  case h_3 hs => exact absurd hs open_
  case h_4 f hs => exact absurd ⟨f, hs⟩ whole
  case h_5 => exact h.elim

/-- A listing that can be used is compared with the cache and handed over to the last event. -/
theorem run_listable (tidy : Tidy s.informer) (asked : s.phase = .listing) {items version : Value}
    (listable : Listable items) :
    ∃ fresh added, keyed items = .ok fresh ∧ additions s.informer.cache fresh = .ok added ∧
      let events := added ++ removals s.informer.cache fresh
      let listed := s.run (.listed items version :: takings events)
      told listed.2 = events ∧ listed.1.informer.cache = fresh ∧ listed.1.phase = .watching := by
  rcases relist_shape tidy items version with ⟨-, fresh, added, hf, ha, used⟩ | ⟨other, -⟩
  · refine ⟨fresh, added, hf, ha, ?_⟩
    have cached : (s.informer.relist items version).1.cache = fresh := by rw [(relist_eq hf ha version).1]
    simp only [run_listed asked used]
    refine ⟨?_, cached, rfl⟩
    rw [told_append, told_logged, List.nil_append, told_append, told_events]
    exact List.append_nil _
  · exact absurd listable other

end EventStream

/-! ### Replies -/

/-- The body of a listing: it has a header, and every item in it has one. -/
def ListsObjects (body : Value) : Prop :=
  HasHeader body ∧ ∃ items, body.get "items" = .ok items ∧ Listable (items.orElse (.list []))

/-- The request succeeded, but the body is nested too deep or, though it is JSON, no listing of objects. -/
def UnusableListing (url : String) (reply : Response) : Prop :=
  ∃ bytes, Client.bodyOf url reply = .ok bytes ∧
    (Client.readBody bytes = .error (.fault .tooDeep) ∨
      ∃ body, Client.readBody bytes = .ok body ∧ ¬ ListsObjects body)

/-- The line is nested too deep or, though it is JSON, no event of a watch. -/
def UnusableLine (line : List UInt8) : Prop :=
  Client.readLine line = .error .tooDeep ∨ ∃ raw, Client.readLine line = .ok raw ∧ ¬ Readable raw

/-- Some line cannot be used, and every line before it holds a value. -/
inductive UnusableAmong : List (List UInt8) → Prop
  | here {line : List UInt8} {rest : List (List UInt8)} (bad : UnusableLine line) : UnusableAmong (line :: rest)
  | later {line : List UInt8} {rest : List (List UInt8)} {raw : Value} (read : Client.readLine line = .ok raw)
      (h : UnusableAmong rest) : UnusableAmong (line :: rest)

/-- The request succeeded, but a line of the watch cannot be used. -/
def UnusableWatch (url : String) (reply : Response) : Prop :=
  ∃ bytes, Client.bodyOf url reply = .ok bytes ∧ UnusableAmong (Client.linesFrom [] bytes)

theorem bodyOf_no_fault {url : String} {reply : Response} {e : ClientError} (h : Client.bodyOf url reply = .error e)
    (f : Fault) : e ≠ .fault f := by
  rintro rfl
  cases reply with
  | received status reason body =>
    simp only [Client.bodyOf] at h
    split at h <;> cases h
  | noConnection message => cases h
  | timedOut message => cases h

theorem readBody_error {bytes : List UInt8} {e : ClientError} (h : Client.readBody bytes = .error e) :
    e = .unreadable ∨ e = .fault .badValue ∨ e = .fault .tooDeep := by
  unfold Client.readBody at h
  split at h <;> cases h <;> simp

theorem readLine_error {line : List UInt8} {f : Fault} (h : Client.readLine line = .error f) :
    f = .undecodable ∨ f = .badValue ∨ f = .tooDeep := by
  simp only [Client.readLine] at h
  split at h
  · cases h
    exact Or.inl rfl
  · split at h <;> cases h <;> simp

theorem listingOf_cases (body : Value) :
    (∃ items version, Client.listingOf body = .ok (items, version) ∧ (Listable items ↔ ListsObjects body)) ∨
    (¬ ListsObjects body ∧ Client.listingOf body = .error .noOperation) := by
  unfold Client.listingOf
  rcases body.get?_cases with ⟨mapping, looked_up⟩ | ⟨other, fails⟩
  · obtain ⟨found, hf⟩ := looked_up "items"
    have hi : body.get "items" = .ok (found.getD .null) := by rw [Value.get, hf]; rfl
    obtain ⟨header, hh⟩ := Value.section?_of_get hi "metadata"
    rw [hi, ok_bind, hh, ok_bind]
    rcases header.get?_cases with ⟨headed, versioned⟩ | ⟨headless, fails⟩
    · obtain ⟨version, hv⟩ := versioned "resourceVersion"
      rw [hv, ok_bind]
      refine Or.inl ⟨_, _, rfl, ?_⟩
      simp [ListsObjects, HasHeader, hh, hi, headed]
    · refine Or.inr ⟨?_, by rw [fails]; rfl⟩
      rintro ⟨⟨_, h, headed⟩, -⟩
      cases hh.symm.trans h
      exact headless headed
  · have unread : body.get "items" = .error .noOperation := by rw [Value.get, fails]; rfl
    refine Or.inr ⟨?_, by rw [unread]; rfl⟩
    rintro ⟨-, _, h, -⟩
    cases unread.symm.trans h

/-- A reply is read as a listing that cannot be used, or fails to be read in a way that does not pass. -/
theorem readListing_unusable (url : String) (reply : Response) :
    (∃ items version, Client.readListing url reply = .ok (items, version) ∧ ¬ Listable items) ∨
      (∃ f, Client.readListing url reply = .error (.fault f) ∧ f.passes = false) ↔ UnusableListing url reply := by
  unfold Client.readListing UnusableListing
  cases hb : Client.bodyOf url reply with
  | error e =>
    have no_fault := bodyOf_no_fault hb
    simp [bind, Except.bind, no_fault]
  | ok bytes =>
    rw [ok_bind]
    cases hr : Client.readBody bytes with
    | error e =>
      rcases readBody_error hr with rfl | rfl | rfl <;> simp [bind, Except.bind, Fault.passes, hr]
    | ok body =>
      rw [ok_bind]
      rcases listingOf_cases body with ⟨items, version, hl, listable⟩ | ⟨other, hl⟩
      · rw [hl]
        simp [Except.mapError, listable, hr]
      · rw [hl]
        simp [Except.mapError, Fault.passes, other, hr]

theorem unusableAmong_cons {line : List UInt8} {rest : List (List UInt8)} : UnusableAmong (line :: rest) ↔
    UnusableLine line ∨ (∃ raw, Client.readLine line = .ok raw) ∧ UnusableAmong rest := by
  constructor
  · rintro (bad | ⟨read, h⟩)
    · exact Or.inl bad
    · exact Or.inr ⟨⟨_, read⟩, h⟩
  · rintro (bad | ⟨⟨raw, read⟩, h⟩)
    · exact .here bad
    · exact .later read h

theorem valuesOn_unusable (lines : List (List UInt8)) :
    (∃ raw ∈ (Client.valuesOn lines).1, ¬ Readable raw) ∨
      (∃ f, (Client.valuesOn lines).2 = some f ∧ f.passes = false) ↔ UnusableAmong lines := by
  induction lines with
  | nil => exact iff_of_false (by simp [Client.valuesOn]) nofun
  | cons line lines ih =>
    rw [unusableAmong_cons, ← ih, Client.valuesOn, UnusableLine]
    cases hl : Client.readLine line with
    | error f => rcases readLine_error hl with rfl | rfl | rfl <;> simp [Fault.passes]
    | ok raw => simp [or_assoc]

theorem readWatch_unusable (resource url : String) (reply : Response) :
    (∃ raw ∈ (Client.readWatch resource url reply).1, ¬ Readable raw) ∨
      (∃ f, (Client.readWatch resource url reply).2 = some (.fault f) ∧ f.passes = false) ↔
        UnusableWatch url reply := by
  unfold Client.readWatch UnusableWatch
  split
  · simp [Client.bodyOf]
  · cases hb : Client.bodyOf url reply with
    | error e =>
      have no_fault := bodyOf_no_fault hb
      simp [no_fault]
    | ok bytes => simp [← valuesOn_unusable]

namespace EventStream

variable {s : EventStream} {resource : String}

theorem callError_eq_fault {e : ClientError} {f : Fault} : SourceTask.callError e = .fault f ↔ e = .fault f := by
  cases e <;> simp [SourceTask.callError]

/-- Of the inputs that a reply to a listing request makes, only the first can choke the stream. -/
theorem chokes_listing_reply (t : SourceTask) (asked : t.stream.phase = .listing) (r : Request) (reply : Response) :
    (∃ input ∈ t.inputsOf r reply, t.stream.Chokes input) ↔ UnusableListing r.url reply := by
  rw [← readListing_unusable, SourceTask.inputsOf, asked]
  cases hr : Client.readListing r.url reply with
  | error e => simp [Chokes, asked, callError_eq_fault]
  | ok listing =>
    obtain ⟨items, version⟩ := listing
    simp [Chokes, asked, or_and_right, exists_or]

/-- Of the inputs that a reply to a watch request makes, only the events and the last can choke the stream. -/
theorem chokes_watch_reply (t : SourceTask) (watching : t.stream.phase = .watching) (r : Request) (reply : Response) :
    (∃ input ∈ t.inputsOf r reply, t.stream.Chokes input) ↔ UnusableWatch r.url reply := by
  rw [← readWatch_unusable t.plan.resource, SourceTask.inputsOf, watching]
  obtain ⟨raws, ending⟩ := Client.readWatch t.plan.resource r.url reply
  have among : (∃ input ∈ raws.flatMap fun raw => [.received raw, .taken], t.stream.Chokes input) ↔
      ∃ raw ∈ raws, ¬ Readable raw := by
    constructor
    · rintro ⟨input, mem, chokes⟩
      obtain ⟨raw, hr, made⟩ := List.mem_flatMap.mp mem
      rcases List.mem_pair.mp made with rfl | rfl
      · exact ⟨raw, hr, chokes.2⟩
      · exact chokes.elim
    · rintro ⟨raw, hr, bad⟩
      exact ⟨.received raw, List.mem_flatMap.mpr ⟨raw, hr, List.mem_cons_self⟩, watching, bad⟩
  simp only [List.mem_append, List.mem_cons, List.not_mem_nil, or_false, or_and_right, exists_or, exists_eq_left,
    among]
  cases ending with
  | none => simp [Chokes]
  | some e => simp [Chokes, watching, callError_eq_fault]

theorem opened_not_isBroken (resource : String) : ¬ (opened resource).IsBroken := by
  rintro ⟨f, hf⟩
  cases hf

/-- After a failure that does not choke the stream it lists again. -/
theorem lists_after_failure {inputs : List StreamInput} (signalless : .stop ∉ inputs) {input : StreamInput}
    (failure : ((opened resource).run inputs).1.EndsInFailure input)
    (bearable : ¬ ((opened resource).run inputs).1.Chokes input) (due : Bool) :
    let again := ((opened resource).run inputs).1.run [input, .rested, .turn due]
    calls again.2 = [.list] ∧ again.1.phase = .listing := by
  intro again
  have reached := run_reachable (s := opened resource) .fresh inputs
  have whole : ¬ ((opened resource).run inputs).1.IsBroken := by
    rintro ⟨f, hf⟩
    cases input <;> simp [EndsInFailure, hf] at failure
  have going : (((opened resource).run inputs).1.step input).1.stopped = false := by
    rw [Bool.eq_false_iff, ne_eq, step_stopped, run_stopped]
    rintro ((h | h) | rfl)
    · cases h
    · exact signalless h
    · exact failure
  have going_on := step_endsStopped (run_endsStopped (s := opened resource) nofun inputs) input
  obtain ⟨restarting, none⟩ := restarting_of_failure failure
  have listed := restarting.lists (mt (step_isBroken_iff reached.tidy whole input).mp bearable) going
    (fun ended => by simp [going_on ended] at going) due
  have ran : again = _ := run_cons _ input [.rested, .turn due]
  rw [ran, listed]
  exact ⟨by rw [calls_append, none]; rfl, rfl⟩

/-- A stream breaks down exactly when a listing, an event or a failure of the client chokes it, and then it is silent
for good. It is over only after the signal to stop; after any other failure it lists again, and every listing that it
can use is told of to the last event. A reply chokes it exactly if it is nested too deep, or is JSON of another shape
than expected; what is no JSON at all, a lost connection and a refusal do not. -/
theorem breaks_on_unusable_data (resource : String) (inputs : List StreamInput) :
    let s := ((opened resource).run inputs).1
    (s.IsBroken ↔ (opened resource).ChokedBy inputs) ∧
    (s.IsBroken → ∀ more, (s.run more).2 = []) ∧
    (s.phase = .ended → .stop ∈ inputs) ∧
    (.stop ∉ inputs → ∀ input due, s.EndsInFailure input → ¬ s.Chokes input →
      let again := s.run [input, .rested, .turn due]
      calls again.2 = [.list] ∧ again.1.phase = .listing) ∧
    (s.phase = .listing → ∀ items version, Listable items → ∃ fresh added, keyed items = .ok fresh ∧
      additions s.informer.cache fresh = .ok added ∧
      let events := added ++ removals s.informer.cache fresh
      let listed := s.run (.listed items version :: takings events)
      told listed.2 = events ∧ listed.1.informer.cache = fresh ∧ listed.1.phase = .watching) ∧
    ∀ (t : SourceTask) (r : Request) (reply : Response), t.stream = s →
      (s.phase = .listing → ((∃ input ∈ t.inputsOf r reply, s.Chokes input) ↔ UnusableListing r.url reply)) ∧
      (s.phase = .watching → ((∃ input ∈ t.inputsOf r reply, s.Chokes input) ↔ UnusableWatch r.url reply)) := by
  intro s
  have reached : Reachable resource s.informer := run_reachable (s := opened resource) .fresh inputs
  refine ⟨run_isBroken_iff .fresh (opened_not_isBroken resource) inputs,
    fun broken more => (run_of_broken broken more).2, stop_mem_of_ended,
    fun signalless input due failure bearable => lists_after_failure signalless failure bearable due,
    fun asked items version listable => run_listable reached.tidy asked listable, fun t r reply same => ?_⟩
  rw [← same]
  exact ⟨fun asked => chokes_listing_reply t asked r reply, fun watching => chokes_watch_reply t watching r reply⟩

/-- An ingress is listed, and then a watch brings a text. -/
def textAfterShop : List StreamInput :=
  [.turn false, .listed (.list [shop]) (.str "1"), .taken, .received (.str "x")]

theorem breaks_on_unusable_data_shop :
    let asked := ((opened "ingresses").run [.turn false]).1
    let watching := ((opened "ingresses").run (textAfterShop.take 3)).1
    let broken := ((opened "ingresses").run textAfterShop).1
    let lost : StreamInput := .failed (.failed "Connection refused")
    let task : SourceTask := { SourceTask.ofPlan ⟨.ingresses, "ingresses", "", 0⟩ with stream := watching }
    asked.phase = .listing ∧ asked.EndsInFailure lost ∧ ¬ asked.Chokes lost ∧
    calls (asked.run [lost, .rested, .turn false]).2 = [.list] ∧ Listable (.list [shop]) ∧
    told (asked.run (.listed (.list [shop]) (.str "1") :: takings [⟨.added, shop, none⟩])).2 =
      [⟨.added, shop, none⟩] ∧
    watching.phase = .watching ∧ UnusableWatch "/" (.received 200 "OK" [34, 120, 34]) ∧
    (∃ input ∈ task.inputsOf ⟨"/", [], none⟩ (.received 200 "OK" [34, 120, 34]), watching.Chokes input) ∧
    broken.IsBroken ∧ (opened "ingresses").ChokedBy textAfterShop ∧ (broken.run [.rested, .turn false]).2 = [] ∧
    .stop ∈ [StreamInput.stop, .turn false] := by
  intro asked watching broken lost task
  obtain ⟨-, -, -, again, listed, -⟩ := breaks_on_unusable_data "ingresses" [.turn false]
  obtain ⟨-, -, -, -, -, replies⟩ := breaks_on_unusable_data "ingresses" (textAfterShop.take 3)
  obtain ⟨broken_iff, silent, -⟩ := breaks_on_unusable_data "ingresses" textAfterShop
  obtain ⟨-, -, ended, -⟩ := breaks_on_unusable_data "ingresses" [.stop, .turn false]
  have failure : asked.EndsInFailure lost := Or.inl rfl
  have borne : ¬ asked.Chokes lost := by rintro ⟨-, f, ⟨⟩, -⟩
  have listable : Listable (.list [shop]) := ⟨[shop], rfl, fun obj ho => by
    cases List.mem_singleton.mp ho
    exact ⟨_, rfl, _, rfl⟩⟩
  obtain ⟨fresh, added, hf, ha, handed, -⟩ := listed rfl _ (.str "1") listable
  cases hf
  cases ha
  have unreadable : ¬ Readable (.str "x") := by
    rintro ⟨kind, obj, ⟨⟩, -⟩
  have unusable : UnusableWatch "/" (.received 200 "OK" [34, 120, 34]) :=
    ⟨[34, 120, 34], rfl, .here (Or.inr ⟨.str "x", rfl, unreadable⟩)⟩
  have ends : broken.IsBroken := ⟨.noOperation, rfl⟩
  exact ⟨rfl, failure, borne, (again (by simp) lost false failure borne).1, listable, handed, rfl, unusable,
    ((replies task _ _ rfl).2 rfl).mpr unusable, ends, broken_iff.mp ends, silent ends _, ended rfl⟩

/-- The text ends the stream, which was never told to stop: the next listing is not asked for. -/
theorem text_breaks_stream :
    .stop ∉ textAfterShop ∧ ((opened "ingresses").run textAfterShop).1.phase = .broken .noOperation ∧
    told ((opened "ingresses").run textAfterShop).2 = [⟨.added, shop, none⟩] ∧
    ∀ more, (((opened "ingresses").run textAfterShop).1.run more).2 = [] := by
  exact ⟨by simp [textAfterShop], rfl, rfl, fun more => (run_of_broken ⟨.noOperation, rfl⟩ more).2⟩

end EventStream

end ClusterMdns
