import ClusterMdns.Proofs.Pipeline.Confluence
import ClusterMdns.Proofs.Record.Addresses

/-! A call that the publisher refuses is the last one. A run makes the calls that its resources ask for, resource by
resource in the order in which they were taken; with the first refusal it has ended, with an error that carries the
call, and from then on nothing is taken and nothing is called. -/

namespace ClusterMdns

open Document

/-- All addresses are texts, and none of them is an address with a scope. -/
def Resource.ScopeFree (r : Resource) : Prop :=
  ∃ given : List String, r.addresses = given.map Value.str ∧ ∀ s ∈ given, ∀ a ∈ Address.read? s, a.scope? = none

theorem Resource.ScopeFree.marked {r : Resource} (h : r.ScopeFree) (mark : Action) : (r.withAction mark).ScopeFree :=
  h

/-- The calls that a resource asks for: one for each of its lines, and none for an update. -/
def RecordPolicy.calls (policy : RecordPolicy) (r : Resource) : List (Operation × String) :=
  match r.action.operation?, (policy.lines r).outcome with
  | some op, .ok lines => lines.map fun l => (op, l.text)
  | _, _ => []

theorem Resource.ScopeFree.lines {r : Resource} (h : r.ScopeFree) (policy : RecordPolicy) :
    ∃ lines, (policy.lines r).outcome = .ok lines := by
  obtain ⟨given, texts, free⟩ := h
  exact ⟨_, policy.lines_eq_ok_iff.mpr ⟨given, texts, fun s hs a ha _ => free s hs a ha, rfl⟩⟩

theorem RecordPolicy.operation_of_mem_calls {policy : RecordPolicy} {r : Resource} {call : Operation × String}
    (h : call ∈ policy.calls r) : r.action.operation? = some call.1 := by
  unfold calls at h
  split at h
  · rename_i op lines hop _
    obtain ⟨l, -, rfl⟩ := List.mem_map.mp h
    exact hop
  · cases h

namespace Publisher

variable {σ : Type} {p : Publisher σ}

/-- The publisher with all calls that were made of it, also those that it refused. -/
def recorded (p : Publisher σ) : Publisher (σ × List (Operation × String)) where
  call op line s := (((p.call op line s.1).1, s.2 ++ [(op, line)]), (p.call op line s.1).2)

/-- The calls are accepted one after the other. -/
inductive Accepts (p : Publisher σ) : σ → List (Operation × String) → σ → Prop where
  | nil (s : σ) : Accepts p s [] s
  | cons {op : Operation} {line : String} {rest : List (Operation × String)} {s t : σ}
      (first : (p.call op line s).2.outcome = .ok ()) (later : Accepts p (p.call op line s).1 rest t) :
      Accepts p s ((op, line) :: rest) t

theorem Accepts.append {xs ys : List (Operation × String)} {s t u : σ} (h : p.Accepts s xs t)
    (g : p.Accepts t ys u) : p.Accepts s (xs ++ ys) u := by
  induction h with
  | nil => exact g
  | cons first _ ih => exact .cons first (ih g)

/-- Of the calls that are asked for, all are made and accepted, or those before one that is made and refused. -/
inductive UpToRefusal (p : Publisher σ) (asked : List (Operation × String)) (s : σ × List (Operation × String))
    (done : (σ × List (Operation × String)) × Logged DispatchFailure Unit) : Prop where
  | all {t : σ} (accepted : p.Accepts s.1 asked t) (made : done.1 = (t, s.2 ++ asked))
      (outcome : done.2.outcome = .ok ())
  | refused {front back : List (Operation × String)} {op : Operation} {line cause : String} {t : σ}
      (parts : asked = front ++ (op, line) :: back) (accepted : p.Accepts s.1 front t)
      (refusal : (p.call op line t).2.outcome = .error cause)
      (made : done.1 = ((p.call op line t).1, s.2 ++ (front ++ [(op, line)])))
      (outcome : done.2.outcome = .error (.refused ⟨op, line, cause⟩))

namespace UpToRefusal

variable {asked later : List (Operation × String)} {s : σ × List (Operation × String)}
  {done next : (σ × List (Operation × String)) × Logged DispatchFailure Unit}

theorem congr (h : p.UpToRefusal asked s done) (state : next.1 = done.1)
    (outcome : next.2.outcome = done.2.outcome) : p.UpToRefusal asked s next := by
  cases h with
  | all accepted made ok => exact .all accepted (state.trans made) (outcome.trans ok)
  | refused parts accepted refusal made error =>
    exact .refused parts accepted refusal (state.trans made) (outcome.trans error)

/-- After calls that were all accepted the later ones follow. -/
theorem followed (h : p.UpToRefusal asked s done) (ok : done.2.outcome = .ok ())
    (g : p.UpToRefusal later done.1 next) : p.UpToRefusal (asked ++ later) s next := by
  cases h with
  | refused _ _ _ _ error => cases ok.symm.trans error
  | all accepted made _ =>
    rw [made] at g
    cases g with
    | all more all ok => exact .all (accepted.append more) (by rw [all, List.append_assoc]) ok
    | @refused front back op line cause t parts more refusal all error =>
      have split : asked ++ later = asked ++ front ++ (op, line) :: back := by rw [parts, List.append_assoc]
      exact .refused split (accepted.append more) refusal (by simp only [all, List.append_assoc]) error

/-- After a refusal the later ones are not made. -/
theorem unfollowed (h : p.UpToRefusal asked s done) {e : DispatchFailure} (error : done.2.outcome = .error e)
    (later : List (Operation × String)) : p.UpToRefusal (asked ++ later) s done := by
  cases h with
  | all _ _ ok => cases ok.symm.trans error
  | @refused front back op line cause t parts accepted refusal made outcome =>
    have split : asked ++ later = front ++ (op, line) :: (back ++ later) := by
      rw [parts, List.append_assoc, List.cons_append]
    exact .refused split accepted refusal made outcome

/-- Only calls that were asked for are made. -/
theorem made_prefix (h : p.UpToRefusal asked s done) : ∃ made, done.1.2 = s.2 ++ made ∧ made <+: asked := by
  cases h with
  | all _ made _ => exact ⟨asked, by rw [made], List.prefix_refl _⟩
  | @refused front back op line cause t parts _ _ made _ =>
    exact ⟨front ++ [(op, line)], by rw [made], back, (List.append_cons ..).symm.trans parts.symm⟩

end UpToRefusal

theorem callAll_upToRefusal (op : Operation) (lines : List String) (s : σ × List (Operation × String)) :
    p.UpToRefusal (lines.map (op, ·)) s (p.recorded.callAll op lines s) := by
  induction lines generalizing s with
  | nil => exact .all (.nil _) (by rw [List.map_nil, List.append_nil]; rfl) rfl
  | cons line rest ih =>
    cases hc : (p.call op line s.1).2.outcome with
    | error cause =>
      rw [callAll_of_refused (p := p.recorded) hc]
      exact .refused (List.nil_append _).symm (.nil _) hc rfl rfl
    | ok _ =>
      rw [callAll_of_accepted (p := p.recorded) hc]
      have first : p.UpToRefusal [(op, line)] s ((p.recorded.call op line s).1, .ok ()) :=
        .all (.cons hc (.nil _)) rfl rfl
      exact first.followed rfl ((ih _).congr rfl rfl)

variable {policy : RecordPolicy} {res : Resource}

theorem dispatch_upToRefusal (free : res.ScopeFree) (s : σ × List (Operation × String)) :
    p.UpToRefusal (policy.calls res) s (p.recorded.dispatch policy res s) := by
  cases hop : res.action.operation? with
  | none =>
    obtain ⟨same, ok⟩ := dispatch_of_none p.recorded policy hop s
    have no_calls : policy.calls res = [] := by rw [RecordPolicy.calls, hop]
    rw [no_calls]
    exact .all (.nil _) (by rw [same, List.append_nil]) ok
  | some op =>
    obtain ⟨lines, made⟩ := free.lines policy
    obtain ⟨state, outcome⟩ := dispatch_of_lines (p := p.recorded) hop made s
    have asked : policy.calls res = (lines.map RecordLine.text).map (op, ·) := by
      rw [RecordPolicy.calls, hop, made, List.map_map]
      rfl
    rw [asked]
    exact (callAll_upToRefusal op _ s).congr state outcome

/-- An update publishes only after all retractions were accepted. -/
theorem dispatchUpdate_upToRefusal {old new : Resource} (gone : old.ScopeFree) (made : new.ScopeFree)
    (s : σ × List (Operation × String)) :
    let retracted := p.recorded.dispatch policy (old.withAction .deleted) s
    let done := p.recorded.dispatchUpdate policy old new s
    p.UpToRefusal (policy.calls (old.withAction .deleted) ++ policy.calls (new.withAction .added)) s done ∧
      ∀ e, retracted.2.outcome = .error e →
        ∃ calls, done.1.2 = s.2 ++ calls ∧ ∀ call ∈ calls, call.1 = .unpublish := by
  intro retracted done
  have first : p.UpToRefusal (policy.calls (old.withAction .deleted)) s retracted :=
    dispatch_upToRefusal (gone.marked .deleted) s
  cases h : retracted.2.outcome with
  | ok _ =>
    obtain ⟨state, outcome⟩ := dispatchUpdate_of_ok h new
    have second : p.UpToRefusal (policy.calls (new.withAction .added)) retracted.1 _ :=
      dispatch_upToRefusal (made.marked .added) _
    exact ⟨first.followed h (second.congr state outcome), nofun⟩
  | error e =>
    obtain ⟨state, outcome⟩ := dispatchUpdate_of_error h new
    refine ⟨(first.unfollowed h _).congr state (outcome.trans h.symm), fun _ _ => ?_⟩
    obtain ⟨calls, all, front⟩ := first.made_prefix
    refine ⟨calls, (congrArg Prod.snd state).trans all, fun call hc => ?_⟩
    exact Option.some.inj (RecordPolicy.operation_of_mem_calls (front.subset hc)).symm

end Publisher

namespace Controller

variable {σ : Type} {p : Publisher σ} {policy : RecordPolicy}

/-! ### After the end -/

variable (p policy) in
/-- Once there is an outcome it stays, and nothing is taken or called any more. -/
theorem step_of_outcome {c : Controller σ} {o : Except DispatchFailure Unit} (h : c.outcome? = some o)
    (move : ControllerMove) : (c.step p policy move).taken = c.taken ∧
      (c.step p policy move).publisher = c.publisher ∧ (c.step p policy move).outcome? = some o := by
  rcases step_cases p policy c move with ⟨r, rest, taking, -⟩ | rests
  · rw [outcome?, taking] at h
    cases h
  · rcases rests.outcome with same | ⟨-, running, -⟩
    · exact ⟨rests.taken, rests.publisher, same.trans h⟩
    · cases running.symm.trans h

variable (p policy) in
theorem run_of_outcome {c : Controller σ} {o : Except DispatchFailure Unit} (h : c.outcome? = some o)
    (moves : List ControllerMove) : (c.run p policy moves).taken = c.taken ∧
      (c.run p policy moves).publisher = c.publisher ∧ (c.run p policy moves).outcome? = some o := by
  induction moves generalizing c with
  | nil => exact ⟨rfl, rfl, h⟩
  | cons move rest ih =>
    obtain ⟨taken, publisher, outcome⟩ := step_of_outcome p policy h move
    obtain ⟨laterTaken, laterPublisher, later⟩ := ih outcome
    exact ⟨laterTaken.trans taken, laterPublisher.trans publisher, later⟩

theorem outcome_of_run {c : Controller σ} {moves : List ControllerMove}
    (h : (c.run p policy moves).outcome? = none) : c.outcome? = none := by
  cases before : c.outcome? with
  | none => rfl
  | some o => cases h.symm.trans (run_of_outcome p policy before moves).2.2

/-! ### All moves -/

/-- All calls of the resources that were taken have been made, and the controller goes on; or the last resource has a
call that was refused, then this is the last call, the error carries it, and everything has stopped. -/
inductive Drained (p : Publisher σ) (policy : RecordPolicy) (s : σ)
    (c : Controller (σ × List (Operation × String))) : Prop where
  | going {t : σ} (accepted : p.Accepts s (c.taken.flatMap policy.calls) t)
      (made : c.publisher = (t, c.taken.flatMap policy.calls)) (outcome : c.outcome? = none)
      (stopped : c.stopped = false)
  | refused {before : List Resource} {last : Resource} {front back : List (Operation × String)} {op : Operation}
      {line cause : String} {t : σ} (taken : c.taken = before ++ [last])
      (parts : policy.calls last = front ++ (op, line) :: back)
      (accepted : p.Accepts s (before.flatMap policy.calls ++ front) t)
      (refusal : (p.call op line t).2.outcome = .error cause)
      (made : c.publisher = ((p.call op line t).1, before.flatMap policy.calls ++ (front ++ [(op, line)])))
      (outcome : c.outcome? = some (.error (.refused ⟨op, line, cause⟩))) (stopped : c.stopped = true)

namespace Drained

variable {s : σ} {c d : Controller (σ × List (Operation × String))}

theorem opened (p : Publisher σ) (policy : RecordPolicy) (sequences : List (List Resource)) (capacity : Option Nat)
    (s : σ) : Drained p policy s (opened sequences capacity (s, [])) :=
  .going (.nil s) rfl rfl rfl

theorem rests (h : Drained p policy s c) {move : ControllerMove} (other : move ≠ .stop) (rests : Rests move c d) :
    Drained p policy s d := by
  cases h with
  | going accepted made running unstopped =>
    have same : d.outcome? = c.outcome? := by
      rcases rests.outcome with same | ⟨stopped, -⟩
      · exact same
      · cases unstopped.symm.trans stopped
    rw [← rests.taken] at accepted made
    exact .going accepted (rests.publisher.trans made) (same.trans running)
      ((rests.unsignalled other).trans unstopped)
  | refused last parts accepted refusal made error stopped =>
    have same : d.outcome? = c.outcome? := by
      rcases rests.outcome with same | ⟨-, running, -⟩
      · exact same
      · cases running.symm.trans error
    exact .refused (rests.taken.trans last) parts accepted refusal (rests.publisher.trans made) (same.trans error)
      (rests.halted stopped)

theorem dispatched (h : Drained p policy s c) (running : c.outcome? = none) {r : Resource} (free : r.ScopeFree)
    (rest : Pipeline Resource) : Drained p policy s (c.dispatched p.recorded policy r rest) := by
  cases h with
  | refused _ _ _ _ _ error _ => cases running.symm.trans error
  | going accepted made _ unstopped =>
    have dispatched : p.UpToRefusal (policy.calls r) c.publisher _ := Publisher.dispatch_upToRefusal free _
    unfold Controller.dispatched
    generalize p.recorded.dispatch policy r c.publisher = done at dispatched ⊢
    have flat : (c.taken ++ [r]).flatMap policy.calls = c.taken.flatMap policy.calls ++ policy.calls r := by
      rw [List.flatMap_append, List.flatMap_singleton]
    rw [made] at dispatched
    cases dispatched with
    | all later state ok =>
      have whole := accepted.append later
      rw [← flat] at whole state
      simp only [ok]
      exact .going whole state rfl unstopped
    | refused parts later refusal state error =>
      simp only [error]
      exact .refused rfl parts (accepted.append later) refusal state rfl rfl

theorem step (h : Drained p policy s c) (free : ∀ r ∈ c.pipeline.items, r.ScopeFree) {move : ControllerMove}
    (other : move ≠ .stop) : Drained p policy s (c.step p.recorded policy move) := by
  rcases step_cases p.recorded policy c move with ⟨r, rest, taking, ht, next⟩ | rests
  · have front : r ∈ c.pipeline.items := by
      rw [Pipeline.items_of_take? ht]
      exact List.mem_cons_self
    exact next ▸ h.dispatched (by rw [outcome?, taking]) (free r front) rest
  · exact h.rests other rests

theorem run (h : Drained p policy s c) {sequences : List (List Resource)} {history : List (Nat × Resource)}
    (conserves : Conserves sequences history c) (free : ∀ rs ∈ sequences, ∀ r ∈ rs, r.ScopeFree)
    {moves : List ControllerMove} (unsignalled : .stop ∉ moves) :
    Drained p policy s (c.run p.recorded policy moves) := by
  induction moves generalizing c history with
  | nil => exact h
  | cons move rest ih =>
    have queued : ∀ r ∈ c.pipeline.items, r.ScopeFree := by
      intro r hr
      obtain ⟨rs, hrs, own⟩ := conserves.queued hr
      exact free rs hrs r own
    obtain ⟨first, later⟩ := List.ne_and_not_mem_of_not_mem_cons unsignalled
    exact ih (h.step queued first.symm) (conserves.step move) later

end Drained

/-! ### Until nothing is queued -/

/-- The controller looks at the signal and takes a resource, some times over. -/
def rounds (n : Nat) : List ControllerMove :=
  (List.replicate n [.check, .take]).flatten

theorem rounds_succ (n : Nat) : rounds (n + 1) = [.check, .take] ++ rounds n := by
  rw [rounds, List.replicate_succ, List.flatten_cons, rounds]

theorem stop_not_mem_rounds (n : Nat) : .stop ∉ rounds n := by
  intro h
  obtain ⟨round, hr, hs⟩ := List.mem_flatten.mp h
  rw [List.eq_of_mem_replicate hr] at hs
  simp at hs

/-- The caches are awaited no more. -/
structure Ready (c : Controller σ) : Prop where
  phase : c.phase = .looking ∨ c.phase = .taking
  running : c.stopped = false

theorem Ready.round {c : Controller σ} (ready : Ready c) :
    c.run p policy [.check, .take] = Controller.take p policy { c with phase := .taking } := by
  obtain ⟨phase, running⟩ := ready
  obtain ⟨feeds, pipeline, publisher, _, stopped, taken, lines⟩ := c
  dsimp only at phase running
  subst running
  rcases phase with rfl | rfl <;> rfl

theorem Ready.rounds {c : Controller σ} (ready : Ready c) {n : Nat} (enough : c.pipeline.items.length ≤ n)
    (unharmed : (c.run p policy (rounds n)).outcome? = none) :
    (c.run p policy (Controller.rounds n)).taken = c.taken ++ c.pipeline.items := by
  induction n generalizing c with
  | zero =>
    rw [List.eq_nil_of_length_eq_zero (Nat.le_zero.mp enough), List.append_nil]
    rfl
  | succ n ih =>
    rw [rounds_succ, run_append, ready.round] at unharmed ⊢
    unfold Controller.take at unharmed ⊢
    cases items : c.pipeline.items with
    | nil =>
      simp only [Pipeline.take?, items] at unharmed ⊢
      have again : Ready { c with phase := .looking } := ⟨Or.inl rfl, ready.running⟩
      rw [ih again (by simp [items]) unharmed, items]
    | cons r rest =>
      have short : rest.length ≤ n := by
        rw [items] at enough
        exact Nat.le_of_succ_le_succ enough
      simp only [Pipeline.take?, items] at unharmed ⊢
      generalize p.dispatch policy r c.publisher = done at unharmed ⊢
      cases ended : done.2.outcome with
      | error e =>
        rw [ended] at unharmed
        cases (outcome_settle e _).symm.trans (outcome_of_run unharmed)
      | ok _ =>
        rw [ended] at unharmed
        refine (ih ?_ ?_ unharmed).trans (List.append_assoc _ [r] rest)
        · exact ⟨Or.inl rfl, ready.running⟩
        · exact short

variable (p policy) in
theorem ready_of_sync {c : Controller σ} (unharmed : c.outcome? = none) (running : c.stopped = false) :
    let d := c.step p policy (.sync [] false)
    Ready d ∧ d.taken = c.taken ∧ d.pipeline = c.pipeline := by
  obtain ⟨feeds, pipeline, publisher, phase, stopped, taken, lines⟩ := c
  dsimp only at running
  subst running
  cases phase with
  | syncing => exact ⟨⟨Or.inl rfl, rfl⟩, rfl, rfl⟩
  | looking => exact ⟨⟨Or.inl rfl, rfl⟩, rfl, rfl⟩
  | taking => exact ⟨⟨Or.inr rfl, rfl⟩, rfl, rfl⟩
  | ended o => cases unharmed

/-- For any publisher and any schedule in which nobody else gives the signal to stop, with addresses that are texts
without scopes: the calls are those of the resources in the order in which they were put, up to the first that is
refused, and all of them if none is. With a refusal everything stops, and an update whose retraction is refused
publishes nothing. -/
theorem calls_up_to_refusal (p : Publisher σ) (policy : RecordPolicy) {sequences : List (List Resource)}
    (free : ∀ rs ∈ sequences, ∀ r ∈ rs, r.ScopeFree) (capacity : Option Nat) (s : σ) {moves : List ControllerMove}
    (unsignalled : .stop ∉ moves) :
    let first := opened sequences capacity (s, [])
    let c := first.run p.recorded policy moves
    let put := (first.enqueued p.recorded policy moves).map (·.2)
    (Drained p policy s c ∧ c.taken <+: put) ∧
    (∀ o more, c.outcome? = some o →
      let d := c.run p.recorded policy more
      d.taken = c.taken ∧ d.publisher = c.publisher ∧ d.outcome? = some o) ∧
    (∀ n, c.pipeline.items.length ≤ n →
      let d := c.run p.recorded policy (.sync [] false :: rounds n)
      Drained p policy s d ∧ (d.outcome? = none → d.taken = put)) ∧
    ∀ old new, old.ScopeFree → new.ScopeFree → ∀ s,
      let retracted := p.recorded.dispatch policy (old.withAction .deleted) s
      let done := p.recorded.dispatchUpdate policy old new s
      p.UpToRefusal (policy.calls (old.withAction .deleted) ++ policy.calls (new.withAction .added)) s done ∧
        ∀ e, retracted.2.outcome = .error e →
          ∃ calls, done.1.2 = s.2 ++ calls ∧ ∀ call ∈ calls, call.1 = .unpublish := by
  intro first c put
  have conserves := run_conserves p.recorded policy sequences capacity (s, []) moves
  have drained : Drained p policy s c :=
    (Drained.opened p policy sequences capacity s).run (opened_conserves sequences capacity (s, [])) free unsignalled
  have flow : c.taken ++ c.pipeline.items = put := conserves.flow
  refine ⟨⟨drained, _, flow⟩, fun o more h => run_of_outcome p.recorded policy h more, fun n enough => ?_,
    fun old new gone made s => Publisher.dispatchUpdate_upToRefusal gone made s⟩
  intro d
  have more : .stop ∉ .sync [] false :: rounds n := by simp [stop_not_mem_rounds]
  refine ⟨drained.run conserves free more, fun unharmed => ?_⟩
  have before := outcome_of_run unharmed
  cases drained with
  | refused _ _ _ _ _ error _ => cases before.symm.trans error
  | going _ _ _ running =>
    obtain ⟨ready, taken, pipeline⟩ := ready_of_sync p.recorded policy before running
    rw [← flow, ← taken, ← pipeline]
    exact ready.rounds (pipeline ▸ enough) unharmed

/-! ### A call in the middle of the second resource -/

/-- A publisher that counts its calls and refuses one of them. -/
def refusing (call : Nat) : Publisher Nat where
  call _ _ n := (n + 1, if n = call then .fail "out of reach" else .ok ())

/-- Two ingresses go to it one after the other, and there is time for more. -/
def refusedRun : List ControllerMove :=
  .sync [] false :: (roundOf 0 ++ roundOf 1 ++ [.check, .take])

theorem oneEach_free : ∀ rs ∈ oneEach, ∀ r ∈ rs, r.ScopeFree := by
  have free : ∀ name, (hostResource name .added).ScopeFree :=
    fun name => ⟨["192.0.2.1"], rfl, by decide +kernel⟩
  intro rs hrs r hr
  simp only [oneEach, List.mem_cons, List.not_mem_nil, or_false] at hrs
  rcases hrs with rfl | rfl
  · exact List.mem_singleton.mp hr ▸ free "shop"
  · exact List.mem_singleton.mp hr ▸ free "copy"

/-- After the six calls of the first ingress the second call of the other is refused. -/
theorem calls_up_to_refusal_copy :
    let c := (opened oneEach (some 1) (0, [])).run (refusing 7).recorded {} refusedRun
    Drained (refusing 7) {} 0 c ∧ c.publisher.2.length = 8 ∧
      c.outcome? = some (.error (.refused ⟨.publish, "copy-default.local. 120 IN A 192.0.2.1", "out of reach"⟩)) := by
  have unsignalled : .stop ∉ refusedRun := by simp [refusedRun, roundOf]
  obtain ⟨⟨drained, -⟩, -⟩ := calls_up_to_refusal (refusing 7) {} oneEach_free (some 1) 0 unsignalled
  refine ⟨drained, ?_, ?_⟩
  · decide +kernel
  · decide +kernel

end Controller

end ClusterMdns
