import ClusterMdns.Informer.Events
import ClusterMdns.Proofs.Informer.Replay

/-! The event stream of an informer, followed by a consumer that takes every event. Between a listing and the
end of its delivery the consumer lags behind the cache by exactly the events that are still to come; at every
call of the client nothing is left to come, so it knows what is cached. `step_moves` says this of one input,
`run_follows` of a run. -/

namespace ClusterMdns

open Document ClusterObject

/-! ### What a run is made of -/

namespace StreamInput

/-- The objects that an input asks the informer to keep: those listed, and one that a watch event adds or
modifies. -/
def objects : StreamInput → List Value
  | .listed items _ => items.elements.toOption.getD []
  | .received raw =>
    match raw.get "type", raw.section? "object" with
    | .ok kind, .ok obj => if kind.isText "ADDED" || kind.isText "MODIFIED" then [obj] else []
    | _, _ => []
  | _ => []

/-- A watch event is of a known type. -/
def KindKnown : StreamInput → Prop
  | .received raw => ∀ kind, raw.get "type" = .ok kind → ∃ s ∈ Informer.knownKinds, kind = .str s
  | _ => True

end StreamInput

namespace StreamOutput

def event? : StreamOutput → Option MembershipEvent
  | .event e => some e
  | _ => none

/-- A call of the client. -/
def IsCall : StreamOutput → Prop
  | .list | .watch _ => True
  | _ => False

end StreamOutput

/-- The events among outputs. -/
def told (outputs : List StreamOutput) : List MembershipEvent :=
  outputs.filterMap StreamOutput.event?

theorem told_append (xs ys : List StreamOutput) : told (xs ++ ys) = told xs ++ told ys :=
  List.filterMap_append

@[simp] theorem told_logged (lines : List LogLine) : told (EventStream.logged lines) = [] := by
  simp [told, EventStream.logged, StreamOutput.event?]

namespace EventStream

/-- The stream of an informer that has not asked for anything. -/
def opened (resource : String) : EventStream where
  informer := { resource }

/-- The events of a listing that are still to be delivered. -/
def pending (s : EventStream) : List MembershipEvent :=
  match s.phase with
  | .delivering rest => rest
  | _ => []

variable {offered : Value → Prop} {agree : Value → Value → Prop} {known : Known} {s next : EventStream}
  {out : List StreamOutput}

/-- The consumer knows what is cached, but for the pending events, which fit what it knows. -/
structure Following (offered : Value → Prop) (agree : Value → Value → Prop) (known : Known)
    (s : EventStream) : Prop where
  kept : Informer.Kept offered s.informer.cache
  faithful : Faithful agree known s.pending
  mirrors : Mirrors agree (known.replay s.pending) s.informer.cache

/-- Outputs whose events fit, after which the consumer still follows; at each call among them it knows what
is cached. -/
structure Moves (offered : Value → Prop) (agree : Value → Value → Prop) (known : Known)
    (next : EventStream) (out : List StreamOutput) : Prop where
  faithful : Faithful agree known (told out)
  following : Following offered agree (known.replay (told out)) next
  calls : ∀ front call back, out = front ++ call :: back → call.IsCall →
    Mirrors agree (known.replay (told front)) next.informer.cache

theorem Following.mirrors_of_idle (h : Following offered agree known s) (hp : s.pending = []) :
    Mirrors agree known s.informer.cache := by
  have mirrors := h.mirrors
  rw [hp] at mirrors
  exact mirrors

/-! ### One input -/

theorem moves_idle (h : Following offered agree known s) (hc : next.informer.cache = s.informer.cache)
    (hp : next.pending = s.pending) : Moves offered agree known next [] := by
  refine ⟨trivial, ⟨?_, ?_, ?_⟩, fun front call back split => ?_⟩
  · rw [hc]; exact h.kept
  · rw [hp]; exact h.faithful
  · rw [hp, hc]; exact h.mirrors
  · simp at split

/-- Outputs without events, when nothing is pending. -/
theorem moves_silent (kept : Informer.Kept offered next.informer.cache)
    (h : Mirrors agree known next.informer.cache) (hp : next.pending = []) (ho : told out = []) :
    Moves offered agree known next out := by
  refine ⟨by rw [ho]; trivial, ⟨kept, by rw [hp]; trivial, by rw [hp, ho]; exact h⟩, ?_⟩
  intro front call back split _
  rw [split, told_append] at ho
  rw [(List.append_eq_nil_iff.mp ho).1]
  exact h

/-- One event, which is no call. -/
theorem moves_event {e : MembershipEvent} (fits : Fits agree known e)
    (h : Following offered agree (known.tell e) next) : Moves offered agree known next [.event e] := by
  refine ⟨⟨fits, trivial⟩, h, fun front call back split hcall => ?_⟩
  have mem : call ∈ [StreamOutput.event e] := by
    rw [split]
    exact List.mem_append_right _ List.mem_cons_self
  rw [List.mem_singleton.mp mem] at hcall
  exact hcall.elim

theorem moves_line (l : LogLine) (h : Moves offered agree known next out) :
    Moves offered agree known next (.line l :: out) := by
  refine ⟨h.faithful, h.following, fun front call back split hcall => ?_⟩
  cases front with
  | nil =>
    obtain ⟨rfl, -⟩ := List.cons.inj split
    exact hcall.elim
  | cons o front =>
    obtain ⟨rfl, rest⟩ := List.cons.inj split
    exact h.calls front call back rest hcall

theorem moves_logged (lines : List LogLine) (h : Moves offered agree known next out) :
    Moves offered agree known next (logged lines ++ out) := by
  induction lines with
  | nil => exact h
  | cons l lines ih => exact moves_line l ih

@[simp] theorem fail_cache (e : CallError) (s : EventStream) :
    (s.fail e).1.informer.cache = s.informer.cache := by
  unfold fail
  split <;> rfl

theorem fail_pending (e : CallError) (s : EventStream) : (s.fail e).1.pending = [] := by
  unfold fail
  split <;> rfl

theorem fail_told (e : CallError) (s : EventStream) : told (s.fail e).2 = [] := by
  unfold fail
  split <;> rfl

theorem fail_moves (kept : Informer.Kept offered s.informer.cache)
    (h : Mirrors agree known s.informer.cache) (e : CallError) :
    Moves offered agree known (s.fail e).1 (s.fail e).2 := by
  refine moves_silent ?_ ?_ (fail_pending e s) (fail_told e s)
  · rw [fail_cache]; exact kept
  · rw [fail_cache]; exact h

theorem deliver_moves (kept : Informer.Kept offered s.informer.cache) {es : List MembershipEvent}
    (hf : Faithful agree known es) (hm : Mirrors agree (known.replay es) s.informer.cache) :
    Moves offered agree known (s.deliver es).1 (s.deliver es).2 := by
  cases es with
  | nil => exact moves_silent kept hm rfl rfl
  | cons e rest => exact moves_event hf.1 ⟨kept, hf.2, hm⟩

theorem takeListing_moves (law : Agreement offered agree) (h : Following offered agree known s)
    (hp : s.pending = []) {items version : Value}
    (ho : ∀ obj ∈ (StreamInput.listed items version).objects, offered obj) :
    Moves offered agree known (s.takeListing items version).1 (s.takeListing items version).2 := by
  have mirrors := h.mirrors_of_idle hp
  unfold takeListing
  rcases s.informer.relist_cases items version with ⟨f, hi, hout⟩ | ⟨fresh, added, hk, ha, hi, hout⟩
  · simp only [hi, hout]
    exact moves_logged _ (fail_moves h.kept mirrors _)
  · have listed : Informer.Kept offered fresh := Informer.keyed_kept hk fun objs he obj hm =>
      ho obj (by rw [StreamInput.objects, he]; exact hm)
    obtain ⟨faithful, after⟩ := Informer.relist_faithful law h.kept listed mirrors ha
    simp only [hi, hout]
    exact moves_logged _ (deliver_moves listed faithful after)

theorem goOn_pending (s : EventStream) : s.goOn.pending = [] := by
  unfold goOn pending
  cases s.stopped <;> rfl

theorem takeEvent_moves (law : Agreement offered agree) (h : Following offered agree known s)
    (hp : s.pending = []) {raw : Value} (hk : (StreamInput.received raw).KindKnown)
    (ho : ∀ obj ∈ (StreamInput.received raw).objects, offered obj) :
    Moves offered agree known (s.takeEvent raw).1 (s.takeEvent raw).2 := by
  have stored : ∀ kind obj, raw.get "type" = .ok kind → raw.section? "object" = .ok obj →
      kind = .str "ADDED" ∨ kind = .str "MODIFIED" → offered obj := by
    intro kind obj hkind hobj hs
    refine ho obj ?_
    rw [StreamInput.objects, hkind, hobj]
    rcases hs with rfl | rfl <;> exact List.mem_singleton_self obj
  obtain ⟨kept, faithful, after⟩ :=
    Informer.apply_faithful law h.kept (h.mirrors_of_idle hp) hk stored
  unfold takeEvent
  cases hout : (s.informer.apply raw).2.outcome with
  | error e =>
    rw [hout] at after
    cases e with
    | expired message =>
      simp only [hout]
      exact moves_logged _ (fail_moves kept after _)
    | fault f =>
      simp only [hout]
      exact moves_logged _ (fail_moves kept after _)
  | ok e =>
    rw [hout] at faithful after
    cases e with
    | none =>
      simp only [hout]
      exact moves_logged _ (moves_silent kept after (goOn_pending _) rfl)
    | some e =>
      simp only [hout]
      exact moves_logged _ (moves_event faithful.1 ⟨kept, trivial, after⟩)

/-- An input that watches a known type of event and offers what may be kept. -/
structure Proper (offered : Value → Prop) (input : StreamInput) : Prop where
  kind : input.KindKnown
  objects : ∀ obj ∈ input.objects, offered obj

theorem turn_moves (kept : Informer.Kept offered s.informer.cache)
    (h : Mirrors agree known s.informer.cache) (due : Bool) :
    Moves offered agree known (s.turn due).1 (s.turn due).2 := by
  unfold turn
  split
  · exact moves_silent kept h rfl rfl
  · split
    · exact moves_silent kept h rfl rfl
    · exact moves_silent kept h rfl rfl

/-- Events are pending only while a listing is delivered; every other phase starts from a mirrored cache. -/
theorem step_moves (law : Agreement offered agree) (h : Following offered agree known s)
    {input : StreamInput} (proper : Proper offered input) :
    Moves offered agree known (s.step input).1 (s.step input).2 := by
  unfold step
  split
  · exact moves_idle h rfl rfl
  · rename_i due hs
    have hp : s.pending = [] := by rw [pending, hs]
    exact turn_moves h.kept (h.mirrors_of_idle hp) due
  · rename_i items version hs
    have hp : s.pending = [] := by rw [pending, hs]
    exact takeListing_moves law h hp proper.objects
  · rename_i e hs
    have hp : s.pending = [] := by rw [pending, hs]
    exact fail_moves h.kept (h.mirrors_of_idle hp) e
  · rename_i rest hs
    have hp : s.pending = rest := by rw [pending, hs]
    exact deliver_moves h.kept (hp ▸ h.faithful) (hp ▸ h.mirrors)
  · rename_i raw hs
    have hp : s.pending = [] := by rw [pending, hs]
    exact takeEvent_moves law h hp proper.kind proper.objects
  · rename_i hs
    have hp : s.pending = [] := by rw [pending, hs]
    exact moves_idle h rfl hp.symm
  · rename_i e hs
    have hp : s.pending = [] := by rw [pending, hs]
    exact fail_moves h.kept (h.mirrors_of_idle hp) e
  · rename_i hs
    have hp : s.pending = [] := by rw [pending, hs]
    exact moves_idle h rfl ((goOn_pending s).trans hp.symm)
  · rename_i hs
    have hp : s.pending = [] := by rw [pending, hs]
    exact moves_idle h rfl hp.symm
  · exact moves_idle h rfl rfl

/-! ### Runs -/

theorem run_cons (s : EventStream) (input : StreamInput) (rest : List StreamInput) :
    s.run (input :: rest) =
      (((s.step input).1.run rest).1, (s.step input).2 ++ ((s.step input).1.run rest).2) := rfl

/-- Whatever the inputs are, the consumer follows and every event fits what it knew. -/
theorem run_follows (law : Agreement offered agree) (h : Following offered agree known s)
    {inputs : List StreamInput} (proper : ∀ input ∈ inputs, Proper offered input) :
    Faithful agree known (told (s.run inputs).2) ∧
      Following offered agree (known.replay (told (s.run inputs).2)) (s.run inputs).1 := by
  induction inputs generalizing s known with
  | nil => exact ⟨trivial, h⟩
  | cons input rest ih =>
    have first := step_moves law h (proper input List.mem_cons_self)
    obtain ⟨faithful, follows⟩ := ih first.following fun i hi => proper i (List.mem_cons_of_mem _ hi)
    rw [run_cons, told_append, Known.replay_append]
    exact ⟨faithful_append.mpr ⟨first.faithful, faithful⟩, follows⟩

/-- A consumer that knows nothing follows a stream that has not asked for anything. -/
theorem opened_follows (offered : Value → Prop) (agree : Value → Value → Prop) (resource : String) :
    Following offered agree Known.nothing (opened resource) :=
  ⟨Informer.Kept.nil, trivial, fun _ => .none⟩

/-- Every event of a run fits, and at each call of its last input the consumer knows what is cached. -/
theorem calls_follow (law : Agreement offered agree) (resource : String) {before : List StreamInput}
    {input : StreamInput} (proper : ∀ i ∈ before ++ [input], Proper offered i) :
    Faithful agree Known.nothing
      (told (((opened resource).run before).2 ++ (((opened resource).run before).1.step input).2)) ∧
    ∀ front call back, (((opened resource).run before).1.step input).2 = front ++ call :: back →
      call.IsCall → Mirrors agree (Known.nothing.replay (told (((opened resource).run before).2 ++ front)))
        (((opened resource).run before).1.step input).1.informer.cache := by
  obtain ⟨faithful, follows⟩ := run_follows law (opened_follows offered agree resource)
    fun i hi => proper i (List.mem_append_left _ hi)
  have moves := step_moves law follows (proper input (List.mem_append_right _ (List.mem_singleton_self _)))
  rw [told_append]
  refine ⟨faithful_append.mpr ⟨faithful, moves.faithful⟩, fun front call back split hcall => ?_⟩
  rw [told_append, Known.replay_append]
  exact moves.calls front call back split hcall

end EventStream

end ClusterMdns
