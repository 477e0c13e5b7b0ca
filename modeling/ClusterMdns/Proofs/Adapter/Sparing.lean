import ClusterMdns.Proofs.Adapter.Contribution

/-! Objects of which no resources can be made. They contribute nothing, and what is put for all others is as if
they had never been told of. A log line names each of them by its key; a run ends at the first that has none. -/

namespace ClusterMdns

open Document ClusterObject

namespace Adapter

variable {a : Adapter} {e : MembershipEvent}

/-! ### Events without failing objects -/

/-- The event without those of its objects of which no resources can be made. An update that loses its new object
is a deletion of the old one. -/
def spared (a : Adapter) (e : MembershipEvent) : Option MembershipEvent :=
  match e.action with
  | .added | .deleted => if a.fails e.obj then none else some e
  | .updated =>
    let old := e.old.filter fun obj => !a.fails obj
    if a.fails e.obj then old.map fun old => { action := .deleted, obj := old }
    else some { e with old }

/-- What is left of an event retracts and publishes what the event does, its failing objects apart. -/
theorem objects_spared (a : Adapter) (e : MembershipEvent) :
    (a.spared e).bind (·.retracted?) = e.retracted?.filter (fun obj => !a.fails obj) ∧
      (a.spared e).bind (·.published?) = e.published?.filter (fun obj => !a.fails obj) := by
  obtain ⟨action, obj, old⟩ := e
  unfold spared MembershipEvent.retracted? MembershipEvent.published?
  cases action with
  | added => cases hf : a.fails obj <;> simp [hf, Option.filter_some]
  | deleted => cases hf : a.fails obj <;> simp [hf, Option.filter_some]
  | updated =>
    cases hf : a.fails obj with
    | false => simp [hf, Option.filter_some]
    | true => cases old.filter (fun obj => !a.fails obj) <;> simp [hf, Option.filter_some]

theorem snapshots_filter (a : Adapter) (obj : Option Value) :
    (obj.filter fun obj => !a.fails obj).elim [] a.snapshots = obj.elim [] a.snapshots := by
  cases obj with
  | none => rfl
  | some obj => cases hf : a.fails obj <;> simp [hf, Option.filter_some, snapshots_of_fails]

/-- What an event puts is what it puts without its failing objects. -/
theorem handled_spared (a : Adapter) (e : MembershipEvent) :
    a.handled e = (a.spared e).elim [] a.handled := by
  obtain ⟨retracted, published⟩ := a.objects_spared e
  rw [handled, ← a.snapshots_filter e.retracted?, ← a.snapshots_filter e.published?, ← retracted, ← published]
  cases a.spared e <;> rfl

theorem excused_of_spared {d : MembershipEvent} (h : a.spared e = some d) : a.ExcusedIn d := by
  obtain ⟨retracted, published⟩ := a.objects_spared e
  rw [h, Option.bind_some] at retracted published
  have kept : ∀ {objs : Option Value} {obj : Value}, obj ∈ objs.filter (fun obj => !a.fails obj) →
      a.Excused obj := by
    intro objs obj ho hf
    simp [hf] at ho
  exact ⟨fun obj ho => kept (retracted ▸ ho), fun obj ho => kept (published ▸ ho)⟩

/-! ### One event that cannot be handled -/

/-- What an event puts for the object that it retracts. -/
def retractions (a : Adapter) (e : MembershipEvent) : List Resource :=
  (e.retracted?.elim [] a.snapshots).map (·.withAction .deleted)

theorem unexcused_iff {obj : Value} : ¬ a.Excused obj ↔ a.fails obj = true ∧ ∃ f, key obj = .error f := by
  unfold Excused
  cases key obj <;> simp

theorem contribution_of_unexcused {obj : Value} (h : ¬ a.Excused obj) (action mark : Action) :
    ∃ f, (a.contribution obj action mark).outcome = .error f := by
  obtain ⟨hf, f, hn⟩ := unexcused_iff.mp h
  obtain ⟨ht, none_made⟩ := Bool.and_eq_true_iff.mp hf
  refine ⟨f, ?_⟩
  unfold contribution
  simp only [ht, if_true, Logged.outcome_bind, Logged.outcome_recover, build_outcome a obj action]
  cases hb : (a.build obj .added).outcome with
  | error g => simp only [Except.map, hn, Logged.outcome_lift]; rfl
  | ok rs => rw [hb] at none_made; cases none_made

/-- The handling of an event ends at the first of its objects that has no resources and no key. Only what the
event retracts can have been put before. -/
theorem putAll_of_unexcused (h : ¬ a.ExcusedIn e) :
    ∃ f, (putAll false (a.batches e)).2 = .error f ∧
      (putAll false (a.batches e)).1.resources = a.retractions e := by
  obtain ⟨action, obj, old⟩ := e
  cases action with
  | added =>
    have unexcused : ¬ a.Excused obj := fun fine =>
      h ⟨fun _ ho => absurd ho (Option.not_mem_none _), fun _ ho => Option.some.inj ho ▸ fine⟩
    obtain ⟨f, fault⟩ := contribution_of_unexcused unexcused .added .added
    exact ⟨f, by simp [batches, putAll, fault, retractions, MembershipEvent.retracted?]⟩
  | deleted =>
    have unexcused : ¬ a.Excused obj := fun fine =>
      h ⟨fun _ ho => Option.some.inj ho ▸ fine, fun _ ho => absurd ho (Option.not_mem_none _)⟩
    obtain ⟨f, fault⟩ := contribution_of_unexcused unexcused .deleted .deleted
    refine ⟨f, ?_⟩
    simp [batches, putAll, fault, retractions, MembershipEvent.retracted?,
      snapshots_of_fails (unexcused_iff.mp unexcused).1]
  | updated =>
    by_cases gone : ∀ before ∈ old, a.Excused before
    · have unexcused : ¬ a.Excused obj := fun fine => h ⟨gone, fun _ ho => Option.some.inj ho ▸ fine⟩
      obtain ⟨f, fault⟩ := contribution_of_unexcused unexcused .updated .added
      have first := contribution_of_old old gone
      exact ⟨f, by simp [batches, putAll, first, fault, retractions, MembershipEvent.retracted?]⟩
    · push Not at gone
      obtain ⟨before, rfl, unexcused⟩ := gone
      obtain ⟨f, fault⟩ := contribution_of_unexcused unexcused .updated .deleted
      refine ⟨f, ?_⟩
      simp [batches, putAll, fault, retractions, MembershipEvent.retracted?,
        snapshots_of_fails (unexcused_iff.mp unexcused).1]

/-! ### Runs -/

/-- Events that can be handled are handled, and what comes after them goes on. -/
theorem handleAll_append {front : List MembershipEvent} (h : ∀ e ∈ front, a.ExcusedIn e)
    (opening : List LogLine) (ds : List Delivery) :
    ∃ opening', (a.handleAll opening (front.map (.event false) ++ ds)).outcome =
        (a.handleAll opening' ds).outcome ∧
      (a.handleAll opening (front.map (.event false) ++ ds)).steps.map (·.resources) =
        front.map a.handled ++ (a.handleAll opening' ds).steps.map (·.resources) ∧
      (a.handleAll opening (front.map (.event false) ++ ds)).last = (a.handleAll opening' ds).last := by
  induction front generalizing opening with
  | nil => exact ⟨opening, rfl, rfl, rfl⟩
  | cons e front ih =>
    obtain ⟨first, later⟩ := List.forall_mem_cons.mp h
    obtain ⟨done, put⟩ := putAll_of_excused first
    obtain ⟨opening', outcome, steps, last⟩ := ih later []
    refine ⟨opening', ?_⟩
    simp only [List.map_cons, List.cons_append, handleAll, done, Bool.false_eq_true, if_false, put, outcome,
      steps, last, and_self]

/-- A run over events that can all be handled comes to its end and puts for each what it means. -/
theorem run_of_excused {es : List MembershipEvent} (h : ∀ e ∈ es, a.ExcusedIn e) (source : String) :
    (a.run source (es.map (.event false))).outcome = .ok () ∧
      (a.run source (es.map (.event false))).steps.map (·.resources) = es.map a.handled ∧
      (a.run source (es.map (.event false))).last.resources = [] := by
  obtain ⟨opening, outcome, steps, last⟩ := handleAll_append h [a.openingLine source] []
  rw [List.append_nil] at outcome steps last
  refine ⟨outcome, steps.trans (List.append_nil _), ?_⟩
  rw [run, last]
  rfl

/-- A run over events ends at the first that cannot be handled. -/
theorem run_of_unexcused {front : List MembershipEvent} (h : ∀ d ∈ front, a.ExcusedIn d) (he : ¬ a.ExcusedIn e)
    (back : List MembershipEvent) (source : String) :
    ∃ f, (a.run source ((front ++ e :: back).map (.event false))).outcome = .error (.fault f) ∧
      (a.run source ((front ++ e :: back).map (.event false))).steps.map (·.resources) =
        front.map a.handled ∧
      (a.run source ((front ++ e :: back).map (.event false))).last.resources = a.retractions e := by
  obtain ⟨opening, outcome, steps, last⟩ :=
    handleAll_append h [a.openingLine source] ((e :: back).map (.event false))
  obtain ⟨f, fault, put⟩ := putAll_of_unexcused he
  rw [← List.map_append] at outcome steps last
  have ends : a.handleAll opening ((e :: back).map (.event false)) =
      ⟨[], ⟨a.retractions e, opening ++ (putAll false (a.batches e)).1.lines⟩, .error (.fault f)⟩ := by
    simp only [List.map_cons, handleAll, fault, put]
  rw [ends] at outcome steps last
  exact ⟨f, outcome, steps.trans (List.append_nil _), congrArg Step.resources last⟩

/-- The events that are left without failing objects. -/
def sparedAll (a : Adapter) (es : List MembershipEvent) : List MembershipEvent :=
  es.filterMap a.spared

theorem excused_of_sparedAll {es : List MembershipEvent} : ∀ d ∈ a.sparedAll es, a.ExcusedIn d := by
  intro d hd
  obtain ⟨e, -, he⟩ := List.mem_filterMap.mp hd
  exact excused_of_spared he

theorem resources_of_excused {es : List MembershipEvent} (h : ∀ e ∈ es, a.ExcusedIn e) (source : String) :
    (a.run source (es.map (.event false))).resources = es.flatMap a.handled := by
  obtain ⟨-, steps, last⟩ := run_of_excused h source
  rw [Run.resources, last, List.append_nil, List.flatMap_def, steps, List.flatMap_def]

theorem handled_sparedAll (a : Adapter) (es : List MembershipEvent) :
    (a.sparedAll es).flatMap a.handled = es.flatMap a.handled := by
  induction es with
  | nil => rfl
  | cons e es ih =>
    rw [List.flatMap_cons, a.handled_spared e, ← ih, sparedAll, List.filterMap_cons]
    cases a.spared e <;> rfl

/-- All events can be handled, or there is a first that cannot. -/
theorem excused_or_split (a : Adapter) (es : List MembershipEvent) :
    (∀ e ∈ es, a.ExcusedIn e) ∨
      ∃ front e back, es = front ++ e :: back ∧ (∀ d ∈ front, a.ExcusedIn d) ∧ ¬ a.ExcusedIn e := by
  induction es with
  | nil => exact Or.inl (by simp)
  | cons e es ih =>
    by_cases he : a.ExcusedIn e
    · rcases ih with all | ⟨front, d, back, rfl, fine, hd⟩
      · exact Or.inl (List.forall_mem_cons.mpr ⟨he, all⟩)
      · exact Or.inr ⟨e :: front, d, back, rfl, List.forall_mem_cons.mpr ⟨he, fine⟩, hd⟩
    · exact Or.inr ⟨[], e, es, rfl, by simp, he⟩

theorem run_ok_iff (a : Adapter) (source : String) (es : List MembershipEvent) :
    (a.run source (es.map (.event false))).outcome = .ok () ↔ ∀ e ∈ es, a.ExcusedIn e := by
  refine ⟨fun done => ?_, fun fine => (run_of_excused fine source).1⟩
  rcases a.excused_or_split es with all | ⟨front, e, back, rfl, fine, he⟩
  · exact all
  · obtain ⟨f, failed, -⟩ := run_of_unexcused fine he back source
    rw [failed] at done
    cases done

/-- A run comes to its end exactly if every object of which no resources can be made has a key. Then it puts for
each event what its other objects contribute, which is what a run over the events without the failing objects
puts; that one always comes to its end. Else it ends at the first event with such an object, having put what the
events before it mean and what this one retracts. -/
theorem run_despite_failures (a : Adapter) (source : String) (es : List MembershipEvent) :
    let run := a.run source (es.map (.event false))
    let sparing := a.run source ((a.sparedAll es).map (.event false))
    (run.outcome = .ok () ↔ ∀ e ∈ es, a.ExcusedIn e) ∧
    (run.outcome = .ok () → run.resources = sparing.resources ∧
      run.steps.map (·.resources) = es.map a.handled ∧ run.last.resources = []) ∧
    sparing.outcome = .ok () ∧ sparing.steps.map (·.resources) = (a.sparedAll es).map a.handled ∧
    (∀ e, a.handled e = (a.spared e).elim [] a.handled) ∧
    ∀ front e back, es = front ++ e :: back → (∀ d ∈ front, a.ExcusedIn d) → ¬ a.ExcusedIn e →
      ∃ f, run.outcome = .error (.fault f) ∧ run.steps.map (·.resources) = front.map a.handled ∧
        run.last.resources = a.retractions e := by
  intro run sparing
  have spared : ∀ d ∈ a.sparedAll es, a.ExcusedIn d := excused_of_sparedAll
  obtain ⟨done, each, -⟩ := run_of_excused spared source
  refine ⟨a.run_ok_iff source es, fun ok => ?_, done, each, a.handled_spared, ?_⟩
  · have fine := (a.run_ok_iff source es).mp ok
    obtain ⟨-, steps, last⟩ := run_of_excused fine source
    have same : run.resources = sparing.resources := by
      rw [resources_of_excused fine, resources_of_excused spared, a.handled_sparedAll]
    exact ⟨same, steps, last⟩
  · rintro front e back rfl fine he
    exact run_of_unexcused fine he back source

/-! ### Services that cannot be read -/

/-- A service behind a load balancer, with any metadata and any specification. -/
def serviceOver (header spec : Value) : Value :=
  .dict [(.str "metadata", header), (.str "spec", spec),
    (.str "status", .dict [(.str "loadBalancer", .dict [(.str "ingress",
      .list [.dict [(.str "ip", .str "192.0.2.7")]])])])]

def headerOf (name : String) : Value :=
  .dict [(.str "namespace", .str "default"), (.str "name", .str name)]

def loadBalancing : Value := .dict [(.str "type", .str "LoadBalancer")]

/-- A service whose specification is none does not keep a run from coming to its end. -/
theorem run_despite_failures_broken :
    let broken := serviceOver (headerOf "db") (.list [.int 1])
    let web := serviceOver (headerOf "web") loadBalancing
    let es : List MembershipEvent := [⟨.added, broken, none⟩, ⟨.updated, web, some broken⟩]
    let run := (services false).run "static" (es.map (.event false))
    (services false).fails broken = true ∧ (∀ e ∈ es, (services false).ExcusedIn e) ∧
    (services false).sparedAll es = [⟨.updated, web, none⟩] ∧ run.outcome = .ok () ∧
    run.steps.map (·.resources) =
      [[], [⟨.service, .added, ["web"], .str "default", [.str "192.0.2.7"], false⟩]] := by
  intro broken web es run
  have keyed : ∀ name spec, (services false).Excused (serviceOver (headerOf name) spec) :=
    fun name spec _ => ⟨_, rfl⟩
  have excused : ∀ e ∈ es, (services false).ExcusedIn e := by
    refine List.forall_mem_cons.mpr ⟨⟨nofun, ?_⟩, List.forall_mem_singleton.mpr ⟨?_, ?_⟩⟩
    all_goals
      rintro obj ⟨⟩
      exact keyed _ _
  obtain ⟨ends, puts, -⟩ := run_despite_failures (services false) "static" es
  have done := ends.mpr excused
  exact ⟨rfl, excused, rfl, done, (puts done).2.1⟩

/-- A service whose metadata is none ends a run, and with it what later services would have put. -/
theorem unnamed_service_ends_run :
    let unnamed := serviceOver (.list [.str "web"]) loadBalancing
    let web := serviceOver (headerOf "web") loadBalancing
    let es : List MembershipEvent := [⟨.added, unnamed, none⟩, ⟨.added, web, none⟩]
    let run := (services false).run "static" (es.map (.event false))
    let sparing := (services false).run "static" (((services false).sparedAll es).map (.event false))
    (services false).fails unnamed = true ∧ (services false).sparedAll es = [⟨.added, web, none⟩] ∧
    run.outcome = .error (.fault .noOperation) ∧ run.resources = [] ∧ sparing.outcome = .ok () ∧
    sparing.resources = [⟨.service, .added, ["web"], .str "default", [.str "192.0.2.7"], false⟩] := by
  intro unnamed web es run sparing
  exact ⟨rfl, rfl, rfl, rfl, rfl, rfl⟩

end Adapter

end ClusterMdns
