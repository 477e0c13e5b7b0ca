import ClusterMdns.Adapter.Run
import ClusterMdns.Proofs.Informer.Replay

/-! What an object contributes to the pipeline. The resources made of it are the same whatever happened to it,
apart from their mark, and making them fails for no object that has a key. So a deletion retracts what an
addition of the same object published. -/

namespace ClusterMdns

open Document ClusterObject

namespace Adapter

/-! ### Marks -/

theorem buildService_outcome (publishInternal : Bool) (obj : Value) (action : Action) :
    (buildService publishInternal obj action).outcome =
      (buildService publishInternal obj .added).outcome.map (List.map (·.withAction action)) := by
  unfold buildService
  simp only [Logged.outcome_bind, map_bind]
  refine congrArg _ (funext fun header => congrArg _ (funext fun addresses => ?_))
  split
  · rfl
  · simp only [Logged.outcome_bind, map_bind]
    rfl

theorem buildRule_outcome (header : Value) (addresses : List Value) (action : Action) (rule : Value) :
    (buildRule header addresses action rule).outcome =
      (buildRule header addresses .added rule).outcome.map (List.map (·.withAction action)) := by
  unfold buildRule
  simp only [Logged.outcome_bind, map_bind]
  refine congrArg _ (funext fun host => ?_)
  split
  · split
    · simp only [Logged.outcome_bind, map_bind]
      rfl
    · rfl
  · rfl

theorem buildRules_outcome (header : Value) (addresses : List Value) (action : Action)
    (rules : List Value) :
    (buildRules header addresses action rules).outcome =
      (buildRules header addresses .added rules).outcome.map (List.map (·.withAction action)) := by
  induction rules with
  | nil => rfl
  | cons rule rest ih =>
    simp only [buildRules, Logged.outcome_bind, buildRule_outcome header addresses action, ih]
    cases (buildRule header addresses .added rule).outcome with
    | error f => rfl
    | ok here =>
      cases (buildRules header addresses .added rest).outcome with
      | error f => rfl
      | ok more => simp [bind, Except.bind, Except.map]

theorem buildIngress_outcome (obj : Value) (action : Action) :
    (buildIngress obj action).outcome =
      (buildIngress obj .added).outcome.map (List.map (·.withAction action)) := by
  unfold buildIngress
  simp only [Logged.outcome_bind, map_bind]
  refine congrArg _ (funext fun addresses => ?_)
  split
  · rfl
  · simp only [Logged.outcome_bind, map_bind, buildRules_outcome _ _ action]

/-- What happened to an object only marks the resources that are made of it. -/
theorem build_outcome (a : Adapter) (obj : Value) (action : Action) :
    (a.build obj action).outcome = (a.build obj .added).outcome.map (List.map (·.withAction action)) := by
  cases a with
  | services publishInternal => exact buildService_outcome publishInternal obj action
  | ingresses => exact buildIngress_outcome obj action

/-! ### Contributions -/

/-- The resources that an object contributes, marked as added: those made of it that can be published. -/
def snapshots (a : Adapter) (obj : Value) : List Resource :=
  if obj.truthy then ((a.build obj .added).outcome.toOption.getD []).filter Resource.publishable
  else []

/-- What counts as nothing contributes nothing. -/
theorem snapshots_of_not_truthy (a : Adapter) {obj : Value} (h : obj.truthy = false) :
    a.snapshots obj = [] :=
  if_neg (by simp [h])

theorem filter_map_withAction (action mark : Action) (rs : List Resource) :
    ((rs.map (·.withAction action)).filter Resource.publishable).map (·.withAction mark) =
      (rs.filter Resource.publishable).map (·.withAction mark) := by
  rw [List.filter_map, List.map_map]
  rfl

/-- No resources can be made of the object. -/
def fails (a : Adapter) (obj : Value) : Bool :=
  obj.truthy && (a.build obj .added).outcome.toOption.isNone

/-- If no resources can be made of the object, then at least it has a key to be named by. -/
def Excused (a : Adapter) (obj : Value) : Prop :=
  a.fails obj = true → ∃ name, key obj = .ok name

theorem snapshots_of_fails {a : Adapter} {obj : Value} (h : a.fails obj = true) : a.snapshots obj = [] := by
  obtain ⟨-, none_made⟩ := Bool.and_eq_true_iff.mp h
  rw [snapshots, Option.isNone_iff_eq_none.mp none_made]
  exact ite_self _

/-- An object contributes the same whatever happened to it, and nothing goes wrong, unless nothing can be made of
it and it cannot be named. -/
theorem contribution_of_excused {a : Adapter} {obj : Value} (h : a.Excused obj) (action mark : Action) :
    (a.contribution obj action mark).outcome = .ok ((a.snapshots obj).map (·.withAction mark)) := by
  unfold contribution snapshots
  cases ht : obj.truthy with
  | false => rfl
  | true =>
    simp only [if_true, Logged.outcome_bind, Logged.outcome_recover, build_outcome a obj action]
    cases hb : (a.build obj .added).outcome with
    | error f =>
      obtain ⟨name, hn⟩ := h (by rw [fails, ht, hb]; rfl)
      simp only [Except.map, hn, Logged.outcome_lift]
      rfl
    | ok rs => exact congrArg Except.ok (filter_map_withAction action mark rs)

/-- An old object that is missing contributes nothing. -/
theorem contribution_of_old {a : Adapter} (old : Option Value) (h : ∀ obj ∈ old, a.Excused obj) :
    (a.contribution (old.getD .null) .updated .deleted).outcome =
      .ok ((old.elim [] a.snapshots).map (·.withAction .deleted)) := by
  cases old with
  | none => rfl
  | some before => exact contribution_of_excused (h before rfl) .updated .deleted

/-! ### Events -/

/-- The resources that an event puts on the pipeline. -/
def handled (a : Adapter) (e : MembershipEvent) : List Resource :=
  (e.retracted?.elim [] a.snapshots).map (·.withAction .deleted) ++
    (e.published?.elim [] a.snapshots).map (·.withAction .added)

/-- Every object of the event that has no resources can be named. -/
def ExcusedIn (a : Adapter) (e : MembershipEvent) : Prop :=
  (∀ obj ∈ e.retracted?, a.Excused obj) ∧ ∀ obj ∈ e.published?, a.Excused obj

theorem putAll_of_excused {a : Adapter} {e : MembershipEvent} (h : a.ExcusedIn e) :
    (putAll false (a.batches e)).2 = .ok () ∧ (putAll false (a.batches e)).1.resources = a.handled e := by
  obtain ⟨action, obj, old⟩ := e
  obtain ⟨gone, made⟩ := h
  cases action with
  | added =>
    have made := contribution_of_excused (made obj rfl) .added .added
    simp [batches, putAll, made, handled, MembershipEvent.published?, MembershipEvent.retracted?]
  | deleted =>
    have gone := contribution_of_excused (gone obj rfl) .deleted .deleted
    simp [batches, putAll, gone, handled, MembershipEvent.published?, MembershipEvent.retracted?]
  | updated =>
    have made := contribution_of_excused (made obj rfl) .updated .added
    have gone := contribution_of_old old gone
    simp [batches, putAll, gone, made, handled, MembershipEvent.published?, MembershipEvent.retracted?]

theorem putAll_of_fits (a : Adapter) {agree : Value → Value → Prop} {known : Known} {e : MembershipEvent}
    (h : Fits agree known e) :
    (putAll false (a.batches e)).2 = .ok () ∧ (putAll false (a.batches e)).1.resources = a.handled e := by
  obtain ⟨name, hn⟩ := h.key
  refine putAll_of_excused ⟨fun obj ho _ => ⟨name, ?_⟩, fun obj ho _ => ⟨name, ?_⟩⟩
  · exact (h.key_of_retracted ho).trans hn
  · cases h <;> cases ho <;> exact hn

/-- An adapter that is told of changes as they fit puts everything that they mean on the pipeline, in their
order. -/
theorem run_resources (a : Adapter) (source : String) {agree : Value → Value → Prop} {known : Known}
    {es : List MembershipEvent} (h : Faithful agree known es) :
    (a.run source (es.map (Delivery.event false))).resources = es.flatMap a.handled := by
  unfold run
  generalize [a.openingLine source] = opening
  induction es generalizing known opening with
  | nil => rfl
  | cons e es ih =>
    obtain ⟨hout, hres⟩ := a.putAll_of_fits h.1
    have later := ih h.2 []
    rw [List.flatMap_cons, ← later, ← hres]
    simp only [List.map_cons, handleAll, hout, Run.resources, Bool.false_eq_true, if_false,
      List.flatMap_cons, List.append_assoc]

end Adapter

end ClusterMdns
