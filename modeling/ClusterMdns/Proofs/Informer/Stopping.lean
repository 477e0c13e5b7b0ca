import ClusterMdns.Proofs.Informer.Breakdown

/-! What an informer still does after the signal to stop. While no call is under way it does nothing more, and an open
watch tells of one event at most. Only a listing is not cut short: it is handed over as far as the consumer takes it,
and at its end a watch is opened all the same. In each case the stream comes to its end, if nothing chokes it. -/

namespace ClusterMdns

open Document Informer

namespace EventStream

variable {s : EventStream} {input : StreamInput} {inputs : List StreamInput}

/-- The input is one that the stream waits for. -/
def Awaits (s : EventStream) (input : StreamInput) : Prop :=
  match s.phase with
  | .turning => ∃ due, input = .turn due
  | .listing => (∃ items version, input = .listed items version) ∨ ∃ e, input = .failed e
  | .delivering _ | .handing => input = .taken
  | .watching => (∃ raw, input = .received raw) ∨ input = .closed ∨ ∃ e, input = .failed e
  | .resting => input = .rested
  | .ended | .broken _ => False

/-- A stopped stream passes over what it does not wait for. -/
theorem step_of_not_awaits (stopped : s.stopped = true) (h : ¬ s.Awaits input) : s.step input = (s, []) := by
  unfold Awaits at h
  unfold step
  split
  case h_1 =>
    cases s
    cases stopped
    rfl
  case h_11 => rfl
  all_goals
    rename_i hs
    simp [hs] at h

/-! ### What is told and called -/

/-- Nothing is told and nothing is called. -/
def Quiet (out : List StreamOutput) : Prop :=
  calls out = [] ∧ told out = []

/-- At most one event of a watch, as the informer makes it. -/
def OneEvent (i : Informer) (inputs : List StreamInput) (events : List MembershipEvent) : Prop :=
  events = [] ∨ ∃ raw e, .received raw ∈ inputs ∧ (i.apply raw).2.outcome = .ok (some e) ∧ events = [e]

/-- What is left of a listing: some of its events, or all of them and then a watch, of which one more may be told. -/
inductive Remainder (rest : List MembershipEvent) (i : Informer) (inputs : List StreamInput) (out : List StreamOutput) :
    Prop
  | part (uncalled : calls out = []) (events : told out <+: rest)
  | whole (more : List MembershipEvent) (watch : calls out = [.watch i.version]) (events : told out = rest ++ more)
      (one : OneEvent i inputs more)

/-- What a stopped stream does with the inputs to come, by where it stands. -/
def WindsDown (s : EventStream) (inputs : List StreamInput) (out : List StreamOutput) : Prop :=
  match s.phase with
  | .watching => calls out = [] ∧ OneEvent s.informer inputs (told out)
  | .delivering rest => Remainder rest s.informer inputs out
  | .listing => Quiet out ∨ ∃ items version es, .listed items version ∈ inputs ∧
      (s.informer.relist items version).2.outcome = .ok es ∧
      Remainder es (s.informer.relist items version).1 inputs out
  | _ => Quiet out

theorem Quiet.append {xs ys : List StreamOutput} (hx : Quiet xs) (hy : Quiet ys) : Quiet (xs ++ ys) :=
  ⟨by rw [calls_append, hx.1, hy.1]; rfl, by rw [told_append, hx.2, hy.2]; rfl⟩

theorem quiet_nil : Quiet [] :=
  ⟨rfl, rfl⟩

theorem quiet_logged (lines : List LogLine) : Quiet (logged lines) :=
  ⟨calls_logged lines, told_logged lines⟩

theorem quiet_fail (e : CallError) (s : EventStream) : Quiet (s.fail e).2 :=
  ⟨calls_fail e s, fail_told e s⟩

theorem OneEvent.mono {i : Informer} {events : List MembershipEvent} {more : List StreamInput}
    (h : OneEvent i inputs events) (sub : inputs ⊆ more) : OneEvent i more events :=
  h.imp_right fun ⟨raw, e, hr, applied, told⟩ => ⟨raw, e, sub hr, applied, told⟩

variable {rest : List MembershipEvent} {i : Informer} {xs out : List StreamOutput}

theorem Remainder.cons (h : Remainder rest i inputs out) : Remainder rest i (input :: inputs) out := by
  cases h with
  | part uncalled events => exact .part uncalled events
  | whole more watch events one => exact .whole more watch events (one.mono (List.subset_cons_self _ _))

/-- One more event is told of, and then what is left of the rest. -/
theorem Remainder.event (h : Remainder rest i inputs out) (e : MembershipEvent) :
    Remainder (e :: rest) i inputs (.event e :: out) := by
  cases h with
  | part uncalled events => exact .part uncalled (List.prefix_cons_inj e |>.mpr events)
  | whole more watch events one => exact .whole more watch (congrArg (e :: ·) events) one

/-- Quiet outputs in front change nothing. -/
theorem Remainder.after_quiet (quiet : Quiet xs) (h : Remainder rest i inputs out) :
    Remainder rest i inputs (xs ++ out) := by
  have called : calls (xs ++ out) = calls out := by rw [calls_append, quiet.1, List.nil_append]
  have events : told (xs ++ out) = told out := by rw [told_append, quiet.2, List.nil_append]
  cases h with
  | part uncalled part => exact .part (called ▸ uncalled) (events ▸ part)
  | whole more watch whole one => exact .whole more (called ▸ watch) (events ▸ whole) one

/-! ### Calm streams -/

/-- No call is under way, and no listing is being handed over. -/
def Calm (s : EventStream) : Prop :=
  match s.phase with
  | .listing | .delivering _ | .watching => False
  | _ => True

theorem fail_calm (e : CallError) (s : EventStream) : (s.fail e).1.Calm := by
  unfold fail
  split <;> trivial

theorem goOn_calm (h : s.stopped = true) : s.goOn.Calm := by
  unfold goOn
  rw [h]
  trivial

theorem calm_step (stopped : s.stopped = true) (calm : s.Calm) (input : StreamInput) :
    (s.step input).1.Calm ∧ Quiet (s.step input).2 := by
  unfold step
  split
  case h_1 => exact ⟨calm, quiet_nil⟩
  case h_2 =>
    rw [turn, if_pos stopped]
    exact ⟨trivial, quiet_nil⟩
  case h_3 | h_4 | h_5 | h_6 | h_7 | h_8 =>
    rename_i hs
    rw [Calm, hs] at calm
    exact calm.elim
  case h_9 => exact ⟨goOn_calm stopped, quiet_nil⟩
  case h_10 => exact ⟨trivial, quiet_nil⟩
  case h_11 => exact ⟨calm, quiet_nil⟩

theorem calm_run (stopped : s.stopped = true) (calm : s.Calm) (inputs : List StreamInput) :
    Quiet (s.run inputs).2 := by
  induction inputs generalizing s with
  | nil => exact quiet_nil
  | cons input rest ih =>
    obtain ⟨still, quiet⟩ := calm_step stopped calm input
    exact quiet.append (ih ((step_stopped s input).mpr (Or.inl stopped)) still)

/-! ### An open watch -/

theorem takeEvent_calm (stopped : s.stopped = true) (raw : Value) :
    (s.takeEvent raw).1.Calm ∧ calls (s.takeEvent raw).2 = [] ∧
      OneEvent s.informer [.received raw] (told (s.takeEvent raw).2) := by
  unfold takeEvent
  cases hout : (s.informer.apply raw).2.outcome with
  | ok e =>
    cases e with
    | none =>
      obtain ⟨uncalled, untold⟩ := (quiet_logged (s.informer.apply raw).2.lines).append quiet_nil
      simp only [hout]
      exact ⟨goOn_calm stopped, uncalled, Or.inl untold⟩
    | some e =>
      simp only [hout, calls_append, told_append, calls_logged, told_logged, List.nil_append]
      exact ⟨trivial, rfl, Or.inr ⟨raw, e, List.mem_singleton_self _, hout, rfl⟩⟩
  | error e =>
    cases e <;>
    · obtain ⟨uncalled, untold⟩ := (quiet_logged (s.informer.apply raw).2.lines).append (quiet_fail _ _)
      simp only [hout]
      exact ⟨fail_calm _ _, uncalled, Or.inl untold⟩

theorem watching_step (stopped : s.stopped = true) (watching : s.phase = .watching) (awaited : s.Awaits input) :
    (s.step input).1.Calm ∧ calls (s.step input).2 = [] ∧ OneEvent s.informer [input] (told (s.step input).2) := by
  rw [Awaits, watching] at awaited
  rcases awaited with ⟨raw, rfl⟩ | rfl | ⟨e, rfl⟩
  · simp only [step, watching]
    exact takeEvent_calm stopped raw
  · simp only [step, watching]
    exact ⟨trivial, rfl, Or.inl rfl⟩
  · simp only [step, watching]
    exact ⟨fail_calm e s, (quiet_fail e s).1, Or.inl (quiet_fail e s).2⟩

/-- The first input that the watch waits for leaves it calm, so at most one event is told. -/
theorem watching_run (stopped : s.stopped = true) (watching : s.phase = .watching) (inputs : List StreamInput) :
    calls (s.run inputs).2 = [] ∧ OneEvent s.informer inputs (told (s.run inputs).2) := by
  induction inputs with
  | nil => exact ⟨rfl, Or.inl rfl⟩
  | cons input inputs ih =>
    rw [run_cons]
    by_cases awaited : s.Awaits input
    · obtain ⟨calm, uncalled, one⟩ := watching_step stopped watching awaited
      obtain ⟨no_call, no_event⟩ := calm_run ((step_stopped s input).mpr (Or.inl stopped)) calm inputs
      rw [calls_append, told_append, uncalled, no_call, no_event]
      simp only [List.append_nil, true_and]
      exact one.mono (List.cons_subset_cons _ (List.nil_subset _))
    · rw [step_of_not_awaits stopped awaited]
      exact ⟨ih.1, ih.2.mono (List.subset_cons_self _ _)⟩

/-! ### A listing on its way -/

/-- What a listing still owes when its delivery begins. The induction is on the inputs, of which not every one takes
an event. -/
theorem deliver_run (stopped : s.stopped = true) (es : List MembershipEvent) (inputs : List StreamInput) :
    Remainder es s.informer inputs ((s.deliver es).2 ++ ((s.deliver es).1.run inputs).2) := by
  induction inputs generalizing s es with
  | nil =>
    cases es with
    | nil => exact .whole [] rfl rfl (Or.inl rfl)
    | cons e rest => exact .part rfl (List.prefix_append [e] rest)
  | cons input inputs ih =>
    cases es with
    | nil =>
      -- nothing is left to hand over, and nobody looks at the signal before the watch is opened
      obtain ⟨uncalled, one⟩ := watching_run (s := s.openWatch.1) stopped rfl (input :: inputs)
      have called : calls ((s.deliver []).2 ++ ((s.deliver []).1.run (input :: inputs)).2) =
          .watch s.informer.version :: calls (s.openWatch.1.run (input :: inputs)).2 := rfl
      exact .whole _ (called.trans (by rw [uncalled])) rfl one
    | cons e rest =>
      let handed : EventStream := { s with phase := .delivering rest }
      have still : handed.stopped = true := stopped
      by_cases awaited : handed.Awaits input
      · obtain rfl : input = .taken := awaited
        exact ((ih still rest).event e).cons
      · have passed : handed.run (input :: inputs) = handed.run inputs := by
          rw [run_cons, step_of_not_awaits still awaited]
          rfl
        have delivered : Remainder (e :: rest) s.informer inputs (.event e :: (handed.run inputs).2) :=
          ih stopped (e :: rest)
        rw [← passed] at delivered
        exact delivered.cons

theorem delivering_run (stopped : s.stopped = true) (handing : s.phase = .delivering rest)
    (inputs : List StreamInput) : Remainder rest s.informer inputs (s.run inputs).2 := by
  induction inputs with
  | nil => exact .part rfl (List.nil_prefix)
  | cons input inputs ih =>
    rw [run_cons]
    by_cases awaited : s.Awaits input
    · rw [Awaits, handing] at awaited
      subst awaited
      have stepped : s.step .taken = s.deliver rest := by simp only [step, handing]
      rw [stepped]
      exact (deliver_run stopped rest inputs).cons
    · rw [step_of_not_awaits stopped awaited]
      exact ih.cons

theorem takeListing_run (stopped : s.stopped = true) (items version : Value) (inputs : List StreamInput) :
    let out := (s.takeListing items version).2 ++ ((s.takeListing items version).1.run inputs).2
    Quiet out ∨ ∃ es, (s.informer.relist items version).2.outcome = .ok es ∧
      Remainder es (s.informer.relist items version).1 inputs out := by
  let relisted : EventStream := { s with informer := (s.informer.relist items version).1 }
  have still : relisted.stopped = true := stopped
  unfold takeListing
  cases hout : (s.informer.relist items version).2.outcome with
  | ok es =>
    simp only [hout, List.append_assoc]
    exact Or.inr ⟨es, rfl, (deliver_run still es inputs).after_quiet (quiet_logged _)⟩
  | error f =>
    simp only [hout]
    exact Or.inl (((quiet_logged _).append (quiet_fail _ relisted)).append
      (calm_run ((fail_stopped _ relisted).trans still) (fail_calm _ relisted) inputs))

theorem listing_run (stopped : s.stopped = true) (asked : s.phase = .listing) (inputs : List StreamInput) :
    Quiet (s.run inputs).2 ∨ ∃ items version es, .listed items version ∈ inputs ∧
      (s.informer.relist items version).2.outcome = .ok es ∧
      Remainder es (s.informer.relist items version).1 inputs (s.run inputs).2 := by
  induction inputs with
  | nil => exact Or.inl quiet_nil
  | cons input inputs ih =>
    rw [run_cons]
    by_cases awaited : s.Awaits input
    · rw [Awaits, asked] at awaited
      rcases awaited with ⟨items, version, rfl⟩ | ⟨e, rfl⟩
      · simp only [step, asked]
        rcases takeListing_run stopped items version inputs with quiet | ⟨es, used, left⟩
        · exact Or.inl quiet
        · exact Or.inr ⟨items, version, es, List.mem_cons_self, used, left.cons⟩
      · simp only [step, asked]
        exact Or.inl ((quiet_fail e s).append (calm_run ((fail_stopped e s).trans stopped) (fail_calm e s) inputs))
    · rw [step_of_not_awaits stopped awaited]
      rcases ih with quiet | ⟨items, version, es, listed, used, left⟩
      · exact Or.inl quiet
      · exact Or.inr ⟨items, version, es, List.mem_cons_of_mem _ listed, used, left.cons⟩

/-- By the phase in which the signal meets the stream. -/
theorem run_windsDown (stopped : s.stopped = true) (inputs : List StreamInput) :
    s.WindsDown inputs (s.run inputs).2 := by
  unfold WindsDown
  split
  case h_1 watching => exact watching_run stopped watching inputs
  case h_2 rest handing => exact delivering_run stopped handing inputs
  case h_3 asked => exact listing_run stopped asked inputs
  case h_4 no_watch no_delivery no_listing =>
    refine calm_run stopped ?_ inputs
    unfold Calm
    split
    · exact no_listing ‹_›
    · exact no_delivery _ ‹_›
    · exact no_watch ‹_›
    · trivial

/-! ### Coming to the end -/

/-- Whatever the stream is given of what it waits for, it comes to its end, as long as nothing chokes it. -/
inductive Concludes : EventStream → Prop
  | finished {s : EventStream} (h : s.phase = .ended) : Concludes s
  | further {s : EventStream} (ready : ∃ input, s.Awaits input ∧ ¬ s.Chokes input)
      (each : ∀ input, s.Awaits input → ¬ s.Chokes input → Concludes (s.step input).1) : Concludes s

theorem turning_concludes (stopped : s.stopped = true) (turning : s.phase = .turning) : s.Concludes := by
  refine .further ⟨.turn false, by simp [Awaits, turning], id⟩ fun input awaited _ => .finished ?_
  rw [Awaits, turning] at awaited
  obtain ⟨due, rfl⟩ := awaited
  simp [step, turning, turn, stopped]

/-- A calm stream takes one or two inputs more. -/
theorem calm_concludes (stopped : s.stopped = true) (calm : s.Calm) (whole : ¬ s.IsBroken) : s.Concludes := by
  cases hs : s.phase with
  | turning => exact turning_concludes stopped hs
  | resting =>
    refine .further ⟨.rested, by simp [Awaits, hs], id⟩ fun input awaited _ => ?_
    rw [Awaits, hs] at awaited
    subst awaited
    simp only [step, hs]
    exact turning_concludes stopped rfl
  | handing =>
    refine .further ⟨.taken, by simp [Awaits, hs], id⟩ fun input awaited _ => .finished ?_
    rw [Awaits, hs] at awaited
    subst awaited
    simp [step, hs, goOn, stopped]
  | ended => exact .finished hs
  | broken f => exact absurd ⟨f, hs⟩ whole
  | listing | delivering | watching =>
    rw [Calm, hs] at calm
    exact calm.elim

theorem watching_concludes (tidy : Tidy s.informer) (stopped : s.stopped = true) (watching : s.phase = .watching) :
    s.Concludes := by
  have whole : ¬ s.IsBroken := by simp [IsBroken, watching]
  refine .further ⟨.closed, by simp [Awaits, watching], id⟩ fun input awaited bearable => ?_
  exact calm_concludes ((step_stopped s input).mpr (Or.inl stopped)) (watching_step stopped watching awaited).1
    (mt (step_isBroken_iff tidy whole input).mp bearable)

theorem delivering_concludes (handing : s.phase = .delivering rest) (next : (s.deliver rest).1.Concludes) :
    s.Concludes := by
  refine .further ⟨.taken, by simp [Awaits, handing], id⟩ fun input awaited _ => ?_
  rw [Awaits, handing] at awaited
  subst awaited
  simpa only [step, handing] using next

theorem deliver_concludes (tidy : Tidy s.informer) (stopped : s.stopped = true) (es : List MembershipEvent) :
    (s.deliver es).1.Concludes := by
  induction es generalizing s with
  | nil => exact watching_concludes tidy stopped rfl
  | cons e rest ih => exact delivering_concludes rfl (ih tidy stopped)

theorem listing_concludes {resource : String} (h : Reachable resource s.informer) (stopped : s.stopped = true)
    (asked : s.phase = .listing) : s.Concludes := by
  have whole : ¬ s.IsBroken := by simp [IsBroken, asked]
  have ready : ∃ input, s.Awaits input ∧ ¬ s.Chokes input :=
    ⟨.failed (.failed ""), by simp [Awaits, asked], by simp [Chokes]⟩
  refine .further ready fun input awaited bearable => ?_
  have still := (step_stopped s input).mpr (Or.inl stopped)
  have unbroken := mt (step_isBroken_iff h.tidy whole input).mp bearable
  rw [Awaits, asked] at awaited
  rcases awaited with ⟨items, version, rfl⟩ | ⟨e, rfl⟩
  · let relisted : EventStream := { s with informer := (s.informer.relist items version).1 }
    have tidy : Tidy relisted.informer := (h.relisted items version).tidy
    simp only [step, asked, takeListing] at still unbroken ⊢
    cases hout : (s.informer.relist items version).2.outcome with
    | ok es => exact deliver_concludes tidy stopped es
    | error f =>
      simp only [hout] at still unbroken
      exact calm_concludes still (fail_calm _ relisted) unbroken
  · simp only [step, asked] at still unbroken ⊢
    exact calm_concludes still (fail_calm e s) unbroken

theorem stopped_concludes {resource : String} (h : Reachable resource s.informer) (stopped : s.stopped = true)
    (whole : ¬ s.IsBroken) : s.Concludes := by
  cases hs : s.phase with
  | listing => exact listing_concludes h stopped hs
  | delivering rest => exact delivering_concludes hs (deliver_concludes h.tidy stopped rest)
  | watching => exact watching_concludes h.tidy stopped hs
  | turning | resting | handing | ended | broken => exact calm_concludes stopped (by simp [Calm, hs]) whole

/-- After the signal to stop a stream asks for no listing, and for a watch only at the end of the listing on its way:
it tells of what is left of that listing as far as it is taken, and once all of it is taken it does open a watch, of
which one more event may follow. Otherwise it tells of one event of an open watch at most. It comes to its end if
nothing has choked it nor will. -/
theorem stop_winds_down (resource : String) (before after : List StreamInput) :
    let s := ((opened resource).run (before ++ [.stop])).1
    s.WindsDown after (s.run after).2 ∧
    (∀ rest, s.phase = .delivering rest →
      calls (s.run (.taken :: takings rest)).2 = [.watch s.informer.version]) ∧
    (s.phase = .listing → ∀ items version es, (s.informer.relist items version).2.outcome = .ok es →
      calls (s.run (.listed items version :: takings es)).2 = [.watch version]) ∧
    (¬ s.IsBroken → s.Concludes) := by
  intro s
  have stopped : s.stopped = true := (run_stopped _ _).mpr (Or.inr (by simp))
  refine ⟨run_windsDown stopped after, fun rest handing => ?_, fun asked items version es used => ?_,
    stopped_concludes (run_reachable (s := opened resource) .fresh _) stopped⟩
  · rw [run_taken handing, calls_append, calls_events]
    rfl
  · obtain ⟨fresh, added, hf, ha, hi, -⟩ := (s.informer.relist_cases items version).resolve_left
      (by rintro ⟨f, -, hout⟩; cases used.symm.trans hout)
    rw [run_listed asked used, calls_append, calls_logged, calls_append, calls_events, hi]
    rfl

/-- Two ingresses are listed. The signal comes while the listing is on its way, or when the first is handed over. -/
theorem stop_winds_down_shop :
    let waiting := ((opened "ingresses").run ([.turn false] ++ [.stop])).1
    let handing := ((opened "ingresses").run ([.turn false, .listed (.list [shop, copy]) (.str "2")] ++ [.stop])).1
    waiting.phase = .listing ∧
    (waiting.informer.relist (.list [shop]) (.str "1")).2.outcome = .ok [⟨.added, shop, none⟩] ∧
    calls (waiting.run [.listed (.list [shop]) (.str "1"), .taken]).2 = [.watch (.str "1")] ∧
    ¬ waiting.IsBroken ∧ waiting.Concludes ∧
    handing.phase = .delivering [⟨.added, copy, none⟩] ∧ handing.WindsDown [.taken] (handing.run [.taken]).2 ∧
    calls (handing.run [.taken, .taken]).2 = [.watch (.str "2")] := by
  intro waiting handing
  obtain ⟨-, -, listed, concludes⟩ := stop_winds_down "ingresses" [.turn false] []
  obtain ⟨winds, taken, -, -⟩ :=
    stop_winds_down "ingresses" [.turn false, .listed (.list [shop, copy]) (.str "2")] [.taken]
  have whole : ¬ waiting.IsBroken := by
    rintro ⟨f, hf⟩
    cases hf
  exact ⟨rfl, rfl, listed rfl _ _ [⟨.added, shop, none⟩] rfl, whole, concludes whole, rfl, winds, taken _ rfl⟩

/-- The consumer stops the stream when it gets the only event of a listing; asked for more, the stream opens a watch
and tells of its event. -/
theorem watch_opened_after_stop :
    let before : List StreamInput := [.turn false, .listed (.list [shop]) (.str "1")]
    let s := ((opened "ingresses").run (before ++ [.stop])).1
    told ((opened "ingresses").run (before ++ [.stop])).2 = [⟨.added, shop, none⟩] ∧ s.phase = .delivering [] ∧
    calls (s.run [.taken]).2 = [.watch (.str "1")] ∧
    told (s.run [.taken, .received (.dict [(.str "type", .str "ADDED"), (.str "object", copy)])]).2 =
      [⟨.added, copy, none⟩] :=
  ⟨rfl, rfl, rfl, rfl⟩

end EventStream

end ClusterMdns
