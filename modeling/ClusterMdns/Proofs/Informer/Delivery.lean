import ClusterMdns.Proofs.Informer.Calls

/-! How a listing is handed over, and what ends a stream. A consumer that goes on taking gets the events of a listing
to the last one, and then a watch is opened, whether or not the signal to stop has come meanwhile. The signal is never
taken back, and a stream is over only after it. -/

namespace ClusterMdns

open Document

theorem told_events (es : List MembershipEvent) : told (es.map .event) = es := by
  rw [told, List.filterMap_map]
  exact List.filterMap_some

theorem calls_events (es : List MembershipEvent) : calls (es.map .event) = [] := by
  rw [calls, List.filterMap_map]
  exact List.filterMap_none es

namespace EventStream

variable {s : EventStream}

/-! ### To the end of a listing -/

/-- As many events are taken as there are left. -/
def takings (es : List MembershipEvent) : List StreamInput :=
  List.replicate es.length .taken

theorem run_deliver (es : List MembershipEvent) (s : EventStream) :
    ((s.deliver es).1.run (takings es)).1 = s.openWatch.1 ∧
    (s.deliver es).2 ++ ((s.deliver es).1.run (takings es)).2 = es.map .event ++ s.openWatch.2 := by
  induction es generalizing s with
  | nil => exact ⟨rfl, rfl⟩
  | cons e rest ih =>
    let handed : EventStream := { s with phase := .delivering rest }
    have next : handed.step .taken = handed.deliver rest := rfl
    have ran : (s.deliver (e :: rest)).1.run (takings (e :: rest)) =
        (((handed.deliver rest).1.run (takings rest)).1,
          (handed.deliver rest).2 ++ ((handed.deliver rest).1.run (takings rest)).2) := by
      rw [← next]
      exact run_cons handed .taken (takings rest)
    obtain ⟨opened, outputs⟩ := ih handed
    rw [ran, opened, outputs]
    exact ⟨rfl, rfl⟩

/-- What is left of a listing is handed over, and then a watch is opened. -/
theorem run_taken {rest : List MembershipEvent} (h : s.phase = .delivering rest) :
    s.run (.taken :: takings rest) = (s.openWatch.1, rest.map .event ++ s.openWatch.2) := by
  obtain ⟨opened, outputs⟩ := run_deliver rest s
  have stepped : s.step .taken = s.deliver rest := by simp only [step, h]
  rw [run_cons, stepped, opened, outputs]

/-- A listing that can be used is handed over as a whole, and then a watch is opened from its version. -/
theorem run_listed {items version : Value} {es : List MembershipEvent} (h : s.phase = .listing)
    (used : (s.informer.relist items version).2.outcome = .ok es) :
    s.run (.listed items version :: takings es) =
      ({ s with informer := (s.informer.relist items version).1 }.openWatch.1,
        logged (s.informer.relist items version).2.lines ++
          (es.map .event ++ { s with informer := (s.informer.relist items version).1 }.openWatch.2)) := by
  let relisted : EventStream := { s with informer := (s.informer.relist items version).1 }
  have stepped : s.step (.listed items version) =
      ((relisted.deliver es).1, logged (s.informer.relist items version).2.lines ++ (relisted.deliver es).2) := by
    simp only [step, h, takeListing, used, relisted]
  obtain ⟨opened, outputs⟩ := run_deliver es relisted
  rw [run_cons, stepped, List.append_assoc, opened, outputs]

/-! ### The signal to stop -/

@[simp] theorem fail_stopped (e : CallError) (s : EventStream) : (s.fail e).1.stopped = s.stopped := by
  unfold fail
  split <;> rfl

@[simp] theorem deliver_stopped (es : List MembershipEvent) (s : EventStream) :
    (s.deliver es).1.stopped = s.stopped := by
  cases es <;> rfl

@[simp] theorem turn_stopped (due : Bool) (s : EventStream) : (s.turn due).1.stopped = s.stopped := by
  unfold turn
  split
  · rfl
  · split <;> rfl

@[simp] theorem takeListing_stopped (items version : Value) (s : EventStream) :
    (s.takeListing items version).1.stopped = s.stopped := by
  simp only [takeListing]
  split
  · exact deliver_stopped _ _
  · exact fail_stopped _ _

@[simp] theorem takeEvent_stopped (raw : Value) (s : EventStream) : (s.takeEvent raw).1.stopped = s.stopped := by
  simp only [takeEvent]
  split
  · rfl
  · rfl
  · exact fail_stopped _ _
  · exact fail_stopped _ _

theorem step_stopped (s : EventStream) (input : StreamInput) :
    (s.step input).1.stopped = true ↔ s.stopped = true ∨ input = .stop := by
  unfold step
  split
  case h_1 => simp
  case h_11 not_stop _ _ _ _ _ _ _ _ _ => exact (or_iff_left not_stop).symm
  all_goals simp [goOn]

/-- The signal to stop is there once it has come, and not before. -/
theorem run_stopped (s : EventStream) (inputs : List StreamInput) :
    (s.run inputs).1.stopped = true ↔ s.stopped = true ∨ .stop ∈ inputs := by
  induction inputs generalizing s with
  | nil => simp [run]
  | cons input rest ih => rw [run_cons, ih, step_stopped, List.mem_cons, or_assoc, eq_comm (a := input)]

/-- The stream is over only after the signal to stop. -/
def EndsStopped (s : EventStream) : Prop :=
  s.phase = .ended → s.stopped = true

theorem fail_endsStopped (e : CallError) (s : EventStream) : (s.fail e).1.EndsStopped := by
  unfold fail
  split <;> exact nofun

theorem deliver_endsStopped (es : List MembershipEvent) (s : EventStream) : (s.deliver es).1.EndsStopped := by
  cases es <;> exact nofun

theorem goOn_endsStopped (s : EventStream) : s.goOn.EndsStopped := by
  unfold goOn EndsStopped
  cases s.stopped
  · exact nofun
  · exact fun _ => rfl

theorem step_endsStopped (h : s.EndsStopped) (input : StreamInput) : (s.step input).1.EndsStopped := by
  unfold step
  split
  case h_1 => exact fun _ => rfl
  case h_2 due _ =>
    unfold turn
    split
    · exact fun _ => ‹s.stopped = true›
    · split <;> rintro ⟨⟩
  case h_3 items version _ =>
    simp only [takeListing]
    split
    · exact deliver_endsStopped _ _
    · exact fail_endsStopped _ _
  case h_4 | h_8 => exact fail_endsStopped _ _
  case h_5 => exact deliver_endsStopped _ _
  case h_6 =>
    simp only [takeEvent]
    split
    · exact goOn_endsStopped _
    · rintro ⟨⟩
    · exact fail_endsStopped _ _
    · exact fail_endsStopped _ _
  case h_7 | h_10 => rintro ⟨⟩
  case h_9 => exact goOn_endsStopped s
  case h_11 => exact h

theorem run_endsStopped (h : s.EndsStopped) (inputs : List StreamInput) : (s.run inputs).1.EndsStopped := by
  induction inputs generalizing s with
  | nil => exact h
  | cons input rest ih => exact ih (step_endsStopped h input)

/-- A stream that has been opened is over only after the signal to stop. -/
theorem stop_mem_of_ended {resource : String} {inputs : List StreamInput}
    (h : ((opened resource).run inputs).1.phase = .ended) : .stop ∈ inputs := by
  have stopped := run_endsStopped (s := opened resource) nofun inputs h
  exact ((run_stopped _ _).mp stopped).resolve_left nofun

end EventStream

end ClusterMdns
