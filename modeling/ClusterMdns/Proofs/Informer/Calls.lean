import ClusterMdns.Proofs.Informer.Mirror

/-! The calls that an informer makes of its client, over any run. The first is a listing, and so is the first
after a call that failed. A watch starts from the version that the last listing brought, or from the last that
an event brought since. -/

namespace ClusterMdns

open Document ClusterObject

/-! ### Calls -/

def StreamOutput.call? : StreamOutput → Option StreamOutput
  | .list => some .list
  | .watch version => some (.watch version)
  | _ => none

/-- The calls among outputs. -/
def calls (outputs : List StreamOutput) : List StreamOutput :=
  outputs.filterMap StreamOutput.call?

/-- If a call is made at all, the first is a listing. -/
def ListsFirst (outputs : List StreamOutput) : Prop :=
  ∀ call ∈ (calls outputs).head?, call = .list

theorem calls_append (xs ys : List StreamOutput) : calls (xs ++ ys) = calls xs ++ calls ys :=
  List.filterMap_append

@[simp] theorem calls_logged (lines : List LogLine) : calls (EventStream.logged lines) = [] := by
  simp [calls, EventStream.logged, StreamOutput.call?]

theorem watch_mem_calls {outputs : List StreamOutput} {version : Value} :
    .watch version ∈ outputs ↔ .watch version ∈ calls outputs := by
  simp only [calls, List.mem_filterMap]
  constructor
  · intro h
    exact ⟨_, h, rfl⟩
  · rintro ⟨o, ho, hc⟩
    cases o with
    | watch v => cases hc; exact ho
    | list => cases hc
    | event e => cases hc
    | line l => cases hc

namespace EventStream

variable {s : EventStream}

/-! ### After a failure -/

/-- The input ends the call under way in failure: the call fails, its listing cannot be used, or the watch
brings an error event or one that cannot be used. -/
def EndsInFailure (s : EventStream) : StreamInput → Prop
  | .failed _ => s.phase = .listing ∨ s.phase = .watching
  | .listed items version =>
    s.phase = .listing ∧ ∃ f, (s.informer.relist items version).2.outcome = .error f
  | .received raw =>
    s.phase = .watching ∧ (raw.get "type" = .ok (.str "ERROR") ∨
      ∃ f, (s.informer.apply raw).2.outcome = .error (.fault f))
  | _ => False

/-- No call is under way, and the next to come, if one comes, is a listing. -/
def Restarting (s : EventStream) : Prop :=
  match s.phase with
  | .turning | .resting => s.mustList = true
  | .ended | .broken _ => True
  | _ => False

theorem fail_restarting (e : CallError) (s : EventStream) : (s.fail e).1.Restarting := by
  unfold fail
  split <;> first | exact rfl | trivial

@[simp] theorem calls_fail (e : CallError) (s : EventStream) : calls (s.fail e).2 = [] := by
  unfold fail
  split <;> rfl

/-- A stream that is to list again calls nothing else before. -/
theorem restarting_step (h : s.Restarting) (input : StreamInput) :
    ((s.step input).1.Restarting ∧ calls (s.step input).2 = []) ∨
      ((s.step input).1.phase = .listing ∧ calls (s.step input).2 = [.list]) := by
  unfold Restarting at h
  unfold step
  split
  -- no call is under way, so nothing comes of one
  case h_3 | h_4 | h_5 | h_6 | h_7 | h_8 | h_9 =>
    rename_i hs
    rw [hs] at h
    exact h.elim
  case h_1 => exact Or.inl ⟨h, rfl⟩
  case h_2 due hs =>
    rw [hs] at h
    have must : s.mustList = true := h
    unfold turn
    split
    · exact Or.inl ⟨trivial, rfl⟩
    · rw [must, Bool.true_or, if_pos rfl]
      exact Or.inr ⟨rfl, rfl⟩
  case h_10 hs =>
    rw [hs] at h
    exact Or.inl ⟨h, rfl⟩
  case h_11 => exact Or.inl ⟨h, rfl⟩

theorem listsFirst_run (h : s.Restarting) (inputs : List StreamInput) : ListsFirst (s.run inputs).2 := by
  induction inputs generalizing s with
  | nil => exact nofun
  | cons input rest ih =>
    rw [run_cons, ListsFirst, calls_append]
    rcases restarting_step h input with ⟨next, none⟩ | ⟨-, list⟩
    · rw [none, List.nil_append]
      exact ih next
    · rw [list]
      exact fun call hc => (Option.some.inj hc).symm

theorem opened_restarting (resource : String) : (opened resource).Restarting := rfl

/-- An error event is refused. -/
theorem apply_error {raw : Value} (h : raw.get "type" = .ok (.str "ERROR")) (i : Informer) :
    ∃ e, (i.apply raw).2.outcome = .error e := by
  obtain ⟨obj, ho⟩ := Value.section?_of_get h "object"
  rw [Informer.apply_eq h ho, if_pos (Value.isText_iff.mpr rfl)]
  exact Informer.readError_fails _ _

theorem takeListing_of_error {items version : Value} {f : Fault}
    (h : (s.informer.relist items version).2.outcome = .error f) :
    (s.takeListing items version).1.Restarting ∧ calls (s.takeListing items version).2 = [] := by
  unfold takeListing
  simp only [h, calls_append, calls_logged, calls_fail]
  exact ⟨fail_restarting _ _, rfl⟩

theorem takeEvent_of_error {raw : Value} {e : Informer.WatchError} (h : (s.informer.apply raw).2.outcome = .error e) :
    (s.takeEvent raw).1.Restarting ∧ calls (s.takeEvent raw).2 = [] := by
  unfold takeEvent
  cases e <;> simp only [h, calls_append, calls_logged, calls_fail] <;> exact ⟨fail_restarting _ _, rfl⟩

/-- After a failure the stream is to list again, unless it has ended. -/
theorem restarting_of_failure {input : StreamInput} (h : s.EndsInFailure input) :
    (s.step input).1.Restarting ∧ calls (s.step input).2 = [] := by
  cases input with
  | failed e =>
    have stepped : s.step (.failed e) = s.fail e := by
      rcases h with hs | hs <;> simp only [step, hs]
    rw [stepped]
    exact ⟨fail_restarting e s, calls_fail e s⟩
  | listed items version =>
    obtain ⟨hs, f, hf⟩ := h
    simp only [step, hs]
    exact takeListing_of_error hf
  | received raw =>
    obtain ⟨hs, herr | ⟨f, hf⟩⟩ := h
    · obtain ⟨e, he⟩ := apply_error herr s.informer
      simp only [step, hs]
      exact takeEvent_of_error he
    · simp only [step, hs]
      exact takeEvent_of_error hf
  | stop | turn | closed | taken | rested => exact h.elim

/-! ### Where a watch starts -/

/-- What a run takes from its client: the version of a listing, or an event of a watch. -/
inductive Taken where
  | listing (version : Value)
  | event (raw : Value)

/-- What an input brings where the stream stands: a listing that can be used, or an event of the open watch. -/
def taken (s : EventStream) (input : StreamInput) : List Taken :=
  match input, s.phase with
  | .listed items version, .listing =>
    match (s.informer.relist items version).2.outcome with
    | .ok _ => [.listing version]
    | .error _ => []
  | .received raw, .watching => [.event raw]
  | _, _ => []

/-- All that a run takes, in order. -/
def history (s : EventStream) : List StreamInput → List Taken
  | [] => []
  | input :: rest => s.taken input ++ (s.step input).1.history rest

/-- The version that a watch event brings, if it is no error and brings one. -/
def eventVersion? (raw : Value) : Option Value :=
  match raw.get "type", (raw.section? "object").bind revision with
  | .ok kind, .ok version => if !kind.isText "ERROR" && version.truthy then some version else none
  | _, _ => none

/-- The version up to which a history goes: that of its last listing, or the last that an event brought
since. -/
def UpTo (history : List Taken) (version : Value) : Prop :=
  ∃ (earlier : List Taken) (listed : Value) (later : List Value),
    history = earlier ++ .listing listed :: later.map Taken.event ∧
    version = ((later.filterMap eventVersion?).getLast?).getD listed

theorem history_append (s : EventStream) (xs ys : List StreamInput) :
    s.history (xs ++ ys) = s.history xs ++ (s.run xs).1.history ys := by
  induction xs generalizing s with
  | nil => rfl
  | cons x xs ih => simp only [List.cons_append, history, ih, List.append_assoc, run_cons]

theorem taken_eq_nil {input : StreamInput}
    (hl : ∀ items version, input = .listed items version → s.phase = .listing → False)
    (hw : ∀ raw, input = .received raw → s.phase = .watching → False) : s.taken input = [] := by
  unfold taken
  split
  · rename_i hs; exact (hl _ _ rfl hs).elim
  · rename_i hs; exact (hw _ rfl hs).elim
  · rfl

theorem upTo_listing (before : List Taken) (version : Value) : UpTo (before ++ [.listing version]) version :=
  ⟨before, version, [], rfl, rfl⟩

theorem UpTo.event {before : List Taken} {version : Value} (h : UpTo before version) (raw : Value) :
    UpTo (before ++ [.event raw]) ((eventVersion? raw).getD version) := by
  obtain ⟨earlier, listed, later, rfl, rfl⟩ := h
  refine ⟨earlier, listed, later ++ [raw], by simp, ?_⟩
  cases hv : eventVersion? raw <;> simp [hv]

/-- A watch event that is not refused leaves the version that it brings. -/
theorem apply_version {i : Informer} {raw : Value} {e : Option MembershipEvent}
    (h : (i.apply raw).2.outcome = .ok e) :
    (i.apply raw).1.version = (eventVersion? raw).getD i.version := by
  rcases i.apply_cases raw with ⟨f, -, hout⟩ | ⟨kind, obj, hk, ho, happ⟩
  · cases h.symm.trans hout
  -- every kind of event notes the version of its object before anything else
  have noted : ∀ {v : Value}, kind ≠ .str "ERROR" → revision obj = .ok v →
      (i.noteVersion v).version = (eventVersion? raw).getD i.version := by
    intro v hne hv
    have known : kind.isText "ERROR" = false := Bool.eq_false_iff.mpr (mt Value.isText_iff.mp hne)
    have version : eventVersion? raw = if v.truthy then some v else none := by
      simp [eventVersion?, hk, ho, Except.bind, hv, known]
    rw [version, Informer.noteVersion]
    split <;> rfl
  rw [h] at happ
  generalize (i.apply raw).1 = next at happ ⊢
  cases happ with
  | noted hb hv => exact noted (by simp [hb]) hv
  | removed hd hv hn => exact noted (by simp [hd]) hv
  | stored hs hv hn he => exact noted (by rcases hs with hs | hs <;> simp [hs]) hv
  | hidden hs hv hn => exact noted (hs "ERROR" (by simp [Informer.knownKinds])) hv

/-- The stream is to list before it watches again, or it has the version up to which the history goes. -/
def Tracks (history : List Taken) (s : EventStream) : Prop :=
  s.Restarting ∨ s.phase = .listing ∨ UpTo history s.informer.version

/-- What an input leaves, with the calls that it makes: a watch starts where the history ends. -/
structure Advances (history : List Taken) (next : EventStream) (out : List StreamOutput) : Prop where
  tracks : Tracks history next
  watches : ∀ version, .watch version ∈ calls out → UpTo history version

variable {past : List Taken} {next : EventStream} {out : List StreamOutput}

theorem advances_silent (h : Tracks past next) (none : calls out = []) : Advances past next out :=
  ⟨h, fun version hv => by rw [none] at hv; cases hv⟩

theorem openWatch_advances (h : UpTo past s.informer.version) : Advances past s.openWatch.1 s.openWatch.2 := by
  refine ⟨Or.inr (Or.inr h), fun version hv => ?_⟩
  cases List.mem_singleton.mp hv
  exact h

theorem deliver_advances (h : UpTo past s.informer.version) (es : List MembershipEvent) :
    Advances past (s.deliver es).1 (s.deliver es).2 := by
  cases es with
  | nil => exact openWatch_advances h
  | cons e rest => exact advances_silent (Or.inr (Or.inr h)) rfl

theorem Advances.logged (h : Advances past next out) (lines : List LogLine) :
    Advances past next (logged lines ++ out) := by
  refine ⟨h.tracks, fun version hv => ?_⟩
  rw [calls_append, calls_logged, List.nil_append] at hv
  exact h.watches version hv

theorem takeListing_advances {items version : Value} (hs : s.phase = .listing) :
    Advances (past ++ s.taken (.listed items version)) (s.takeListing items version).1
      (s.takeListing items version).2 := by
  unfold taken
  rw [hs]
  rcases s.informer.relist_cases items version with ⟨f, -, hout⟩ | ⟨fresh, added, -, -, hi, hout⟩
  · obtain ⟨next, none⟩ := takeListing_of_error hout
    exact advances_silent (Or.inl next) none
  · simp only [takeListing, hi, hout]
    exact (deliver_advances (upTo_listing past version) _).logged _

theorem takeEvent_advances (h : UpTo past s.informer.version) (hs : s.phase = .watching) (raw : Value) :
    Advances (past ++ s.taken (.received raw)) (s.takeEvent raw).1 (s.takeEvent raw).2 := by
  unfold taken
  rw [hs]
  cases hout : (s.informer.apply raw).2.outcome with
  | error e =>
    obtain ⟨next, none⟩ := takeEvent_of_error hout
    exact advances_silent (Or.inl next) none
  | ok e =>
    have after := apply_version hout ▸ h.event raw
    cases e with
    | none =>
      simp only [takeEvent, hout]
      exact (advances_silent (Or.inr (Or.inr after)) rfl).logged _
    | some e =>
      simp only [takeEvent, hout]
      exact (advances_silent (Or.inr (Or.inr after)) rfl).logged _

theorem turn_advances (h : s.Restarting ∨ UpTo past s.informer.version) (hs : s.phase = .turning) (due : Bool) :
    Advances past (s.turn due).1 (s.turn due).2 := by
  unfold turn
  split
  · exact advances_silent (Or.inl trivial) rfl
  · split
    · exact ⟨Or.inr (Or.inl rfl), fun version hv => by cases List.mem_singleton.mp hv⟩
    · rename_i must
      refine openWatch_advances (h.resolve_left fun restarting => must ?_)
      unfold Restarting at restarting
      rw [hs] at restarting
      exact Bool.or_eq_true_iff.mpr (Or.inl restarting)

/-- While a listing is delivered or a watch is open, the version is known. -/
theorem Tracks.upTo (h : Tracks past s) (hr : ¬ s.Restarting) (hl : s.phase ≠ .listing) :
    UpTo past s.informer.version :=
  (h.resolve_left hr).resolve_left hl

theorem step_advances (h : Tracks past s) (input : StreamInput) :
    Advances (past ++ s.taken input) (s.step input).1 (s.step input).2 := by
  -- most inputs bring nothing from the client
  have quiet : ∀ {next : EventStream} {out : List StreamOutput}, s.taken input = [] →
      Advances past next out → Advances (past ++ s.taken input) next out := by
    intro next out none advances
    rw [none, List.append_nil]
    exact advances
  unfold step
  split
  · exact quiet rfl (advances_silent h rfl)
  · rename_i due hs
    exact quiet rfl (turn_advances (h.imp_right fun h => h.resolve_left (by simp [hs])) hs due)
  · rename_i items version hs
    exact takeListing_advances hs
  · rename_i e hs
    exact quiet rfl (advances_silent (Or.inl (fail_restarting e s)) (calls_fail e s))
  · rename_i rest hs
    exact quiet rfl (deliver_advances (h.upTo (by simp [Restarting, hs]) (by simp [hs])) rest)
  · rename_i raw hs
    exact takeEvent_advances (h.upTo (by simp [Restarting, hs]) (by simp [hs])) hs raw
  · rename_i hs
    have upTo := h.upTo (by simp [Restarting, hs]) (by simp [hs])
    exact quiet rfl (advances_silent (Or.inr (Or.inr upTo)) rfl)
  · rename_i e hs
    exact quiet rfl (advances_silent (Or.inl (fail_restarting e s)) (calls_fail e s))
  · rename_i hs
    have upTo := h.upTo (by simp [Restarting, hs]) (by simp [hs])
    exact quiet rfl (advances_silent (Or.inr (Or.inr upTo)) rfl)
  · rename_i hs
    have tracks : Tracks past { s with phase := .turning } := by
      refine h.imp (fun restarting => ?_) fun h => Or.inr (h.resolve_left (by simp [hs]))
      unfold Restarting at restarting
      rw [hs] at restarting
      exact restarting
    exact quiet rfl (advances_silent tracks rfl)
  · exact quiet (taken_eq_nil ‹_› ‹_›) (advances_silent h rfl)

theorem run_tracks (h : Tracks past s) (inputs : List StreamInput) :
    Tracks (past ++ s.history inputs) (s.run inputs).1 := by
  induction inputs generalizing s past with
  | nil =>
    rw [history, List.append_nil]
    exact h
  | cons input rest ih =>
    rw [history, ← List.append_assoc]
    exact ih (step_advances h input).tracks

/-! ### The order of calls -/

/-- Over any run the first call lists, and so does the first after any failure; a watch starts from the version
of the last listing, or from the last that an event of the watches since has brought. -/
theorem calls_in_order (resource : String) (before : List StreamInput) (input : StreamInput)
    (after : List StreamInput) :
    let run := (opened resource).run before
    ListsFirst run.2 ∧
    (run.1.EndsInFailure input → ListsFirst (run.1.run (input :: after)).2) ∧
    ∀ version, .watch version ∈ (run.1.step input).2 →
      UpTo ((opened resource).history (before ++ [input])) version := by
  intro run
  refine ⟨listsFirst_run (opened_restarting resource) before, fun failure => ?_, fun version hv => ?_⟩
  · obtain ⟨restarting, none⟩ := restarting_of_failure failure
    rw [run_cons, ListsFirst, calls_append, none, List.nil_append]
    exact listsFirst_run restarting after
  · have start : Tracks [] (opened resource) := Or.inl (opened_restarting resource)
    have tracks : Tracks ((opened resource).history before) run.1 := run_tracks start before
    have advances := step_advances tracks input
    rw [history_append, history, history, List.append_nil]
    exact advances.watches version (watch_mem_calls.mp hv)

/-- A watch that expires is followed by a listing, and one that was closed starts again from the version of the
ingress that has moved. -/
theorem calls_in_order_moving :
    let listed := (opened "ingresses").run (moving.take 4)
    let run := (opened "ingresses").run moving
    listed.1.EndsInFailure (.failed (.expired "too old")) ∧
    calls (listed.1.run [.failed (.expired "too old"), .turn false]).2 = [.list] ∧
    ListsFirst (listed.1.run [.failed (.expired "too old"), .turn false]).2 ∧
    .watch (.str "3") ∈ (run.1.step (.turn false)).2 ∧
    UpTo ((opened "ingresses").history (moving ++ [.turn false])) (.str "3") := by
  intro listed run
  have failure : listed.1.EndsInFailure (.failed (.expired "too old")) := Or.inr rfl
  have watch : .watch (.str "3") ∈ (run.1.step (.turn false)).2 := List.mem_singleton.mpr rfl
  obtain ⟨-, lists, -⟩ :=
    calls_in_order "ingresses" (moving.take 4) (.failed (.expired "too old")) [.turn false]
  obtain ⟨-, -, upTo⟩ := calls_in_order "ingresses" moving (.turn false) []
  exact ⟨failure, rfl, lists failure, watch, upTo (.str "3") watch⟩

end EventStream

end ClusterMdns
