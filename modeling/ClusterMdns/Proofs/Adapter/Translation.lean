import ClusterMdns.Proofs.Adapter.Sparing

/-! What the events mean that an adapter is told of, and that a run puts just that: all of it up to the signal to
stop, and nothing from there on. The objects are those that an informer lets through, so that each of them can
be named and no run fails. -/

namespace ClusterMdns

open Document ClusterObject

/-! ### Objects that an informer lets through -/

/-- A mapping whose metadata is missing, counts as nothing, or is a mapping. -/
def ClusterObject.Headed (obj : Value) : Prop :=
  ∃ fields, obj = .dict fields ∧ ∀ header, lookup (.str "metadata") fields = some header →
    header.truthy = false ∨ ∃ entries, header = .dict entries

/-- All objects of the event are let through; the old one may be missing. -/
structure MembershipEvent.Headed (e : MembershipEvent) : Prop where
  obj : ClusterObject.Headed e.obj
  old : ∀ before ∈ e.old, ClusterObject.Headed before

theorem ClusterObject.Headed.metadata {obj : Value} (h : Headed obj) :
    ∃ entries, ClusterObject.metadata obj = .ok (.dict entries) := by
  obtain ⟨fields, rfl, headed⟩ := h
  have found : ClusterObject.metadata (.dict fields) =
      .ok (((lookup (.str "metadata") fields).getD .null).orElse (.dict [])) := rfl
  rw [found]
  cases hl : lookup (.str "metadata") fields with
  | none => exact ⟨[], rfl⟩
  | some header =>
    rw [Option.getD_some]
    cases ht : header.truthy with
    | false => exact ⟨[], congrArg Except.ok (Value.orElse_of_not_truthy ht _)⟩
    | true =>
      obtain ⟨entries, rfl⟩ := (headed header hl).resolve_left (by simp [ht])
      exact ⟨entries, congrArg Except.ok (Value.orElse_of_truthy ht _)⟩

theorem ClusterObject.Headed.key {obj : Value} (h : Headed obj) : ∃ name, ClusterObject.key obj = .ok name := by
  obtain ⟨entries, hm⟩ := h.metadata
  unfold ClusterObject.key
  rw [hm]
  exact ⟨_, rfl⟩

/-- Of what an event retracts and publishes, everything is let through. -/
theorem MembershipEvent.Headed.parts {e : MembershipEvent} (h : e.Headed) :
    (∀ obj ∈ e.retracted?, ClusterObject.Headed obj) ∧ ∀ obj ∈ e.published?, ClusterObject.Headed obj := by
  obtain ⟨action, obj, old⟩ := e
  have own : ∀ x ∈ some obj, ClusterObject.Headed x := fun x hx => Option.some.inj hx ▸ h.obj
  cases action with
  | added => exact ⟨nofun, own⟩
  | updated => exact ⟨h.old, own⟩
  | deleted => exact ⟨own, nofun⟩

namespace Adapter

variable {a : Adapter} {e : MembershipEvent}

theorem excusedIn_of_headed (h : e.Headed) : a.ExcusedIn e :=
  ⟨fun obj ho _ => (h.parts.1 obj ho).key, fun obj ho _ => (h.parts.2 obj ho).key⟩

/-! ### What an event means -/

/-- The resources made of an object, with this mark, that can be published. An object of which none can be made
has none. -/
def publications (a : Adapter) (obj : Value) (mark : Action) : List Resource :=
  ((a.build obj mark).outcome.toOption.getD []).filter Resource.publishable

/-- An addition means the resources of its object, to be added; a deletion means them to be deleted. An update
first means those of the old object to be deleted, if it is known, and then those of the new one to be added. -/
def translation (a : Adapter) (e : MembershipEvent) : List Resource :=
  match e.action with
  | .added => a.publications e.obj .added
  | .deleted => a.publications e.obj .deleted
  | .updated => e.old.elim [] (a.publications · .deleted) ++ a.publications e.obj .added

/-- Apart from its mark, what is retracted of an object is what an addition of it puts. -/
theorem publications_marked (a : Adapter) (obj : Value) (mark : Action) :
    a.publications obj mark = (a.publications obj .added).map (·.withAction mark) := by
  unfold publications
  rw [build_outcome a obj mark]
  cases (a.build obj .added).outcome with
  | error f => rfl
  | ok rs => exact List.filter_map

theorem build_empty (a : Adapter) (mark : Action) : (a.build (.dict []) mark).outcome = .ok [] := by
  cases a with
  | services publishInternal => cases publishInternal <;> rfl
  | ingresses => rfl

theorem snapshots_of_headed {obj : Value} (h : Headed obj) : a.snapshots obj = a.publications obj .added := by
  obtain ⟨fields, rfl, -⟩ := h
  cases fields with
  | nil =>
    -- what is empty counts as nothing, and nothing would be made of it
    rw [snapshots_of_not_truthy a rfl, publications, build_empty]
    rfl
  | cons field rest => rfl

theorem marked_of_headed {objs : Option Value} (h : ∀ obj ∈ objs, Headed obj) (mark : Action) :
    (objs.elim [] a.snapshots).map (·.withAction mark) = objs.elim [] (a.publications · mark) := by
  cases objs with
  | none => rfl
  | some obj =>
    simp only [Option.elim_some]
    rw [a.publications_marked obj mark, snapshots_of_headed (h obj rfl)]

theorem handled_of_headed (h : e.Headed) : a.handled e = a.translation e := by
  obtain ⟨retracted, published⟩ := h.parts
  rw [handled, marked_of_headed retracted, marked_of_headed published]
  obtain ⟨action, obj, old⟩ := e
  cases action with
  | added => exact List.nil_append _
  | deleted => exact List.append_nil _
  | updated => rfl

/-! ### The signal to stop -/

/-- Once the signal was given, batches are made as before, and none of them is put. -/
theorem putAll_stopped (batches : List (Logged Fault (List Resource))) :
    (putAll true batches).2 = (putAll false batches).2 ∧ (putAll true batches).1.resources = [] := by
  induction batches with
  | nil => exact ⟨rfl, rfl⟩
  | cons batch rest ih =>
    unfold putAll
    cases batch.outcome with
    | error f => exact ⟨rfl, rfl⟩
    | ok rs => exact ih

/-- The event at the signal is the last that is handled, whatever would come later. -/
theorem handleAll_stopped (h : a.ExcusedIn e) (opening : List LogLine) (later : List Delivery) :
    (a.handleAll opening (.event true e :: later)).outcome = .ok () ∧
      (a.handleAll opening (.event true e :: later)).steps = [] ∧
      (a.handleAll opening (.event true e :: later)).last.resources = [] := by
  obtain ⟨same, nothing⟩ := putAll_stopped (a.batches e)
  rw [(putAll_of_excused h).1] at same
  unfold handleAll
  simp only [same, if_true]
  exact ⟨trivial, trivial, nothing⟩

/-- Events one after another. The signal to stop comes just before the event of this number, or never if there
is none. -/
def toldUntil (stop : Nat) (es : List MembershipEvent) : List Delivery :=
  (es.take stop).map (.event false) ++ (es.drop stop).map (.event true)

theorem handleAll_toldUntil {es : List MembershipEvent} (h : ∀ e ∈ es, a.ExcusedIn e) (stop : Nat)
    (opening : List LogLine) :
    (a.handleAll opening (toldUntil stop es)).outcome = .ok () ∧
      (a.handleAll opening (toldUntil stop es)).steps.map (·.resources) = (es.take stop).map a.handled ∧
      (a.handleAll opening (toldUntil stop es)).last.resources = [] := by
  have front : ∀ e ∈ es.take stop, a.ExcusedIn e := fun e he => h e (List.mem_of_mem_take he)
  obtain ⟨opening', outcome, steps, last⟩ := handleAll_append front opening ((es.drop stop).map (.event true))
  rw [toldUntil, outcome, steps, last]
  cases hd : es.drop stop with
  | nil => exact ⟨rfl, List.append_nil _, rfl⟩
  | cons e back =>
    have fine : a.ExcusedIn e := h e (List.mem_of_mem_drop (hd ▸ List.mem_cons_self))
    obtain ⟨ends, none_asked, nothing⟩ := handleAll_stopped fine opening' (back.map (.event true))
    rw [List.map_cons, ends, none_asked, nothing]
    exact ⟨rfl, List.append_nil _, rfl⟩

/-- A run over events whose objects an informer lets through comes to its end. What it puts is what the events
before the signal to stop mean, event by event; for the event at the signal and for those after it nothing is
put. And what is retracted of an object is, apart from the mark, what an addition of it puts. -/
theorem run_translates (a : Adapter) (source : String) {es : List MembershipEvent} (headed : ∀ e ∈ es, e.Headed)
    (stop : Nat) :
    let run := a.run source (toldUntil stop es)
    run.outcome = .ok () ∧
    run.resources = (es.take stop).flatMap a.translation ∧
    run.steps.map (·.resources) = (es.take stop).map a.translation ∧ run.last.resources = [] ∧
    ∀ obj mark, a.publications obj mark = (a.publications obj .added).map (·.withAction mark) := by
  intro run
  obtain ⟨done, steps, last⟩ := handleAll_toldUntil (fun e he => excusedIn_of_headed (headed e he)) stop
    [a.openingLine source]
  have meant : (es.take stop).map a.handled = (es.take stop).map a.translation :=
    List.map_congr_left fun e he => handled_of_headed (headed e (List.mem_of_mem_take he))
  have puts : run.steps.map (·.resources) = (es.take stop).map a.translation := steps.trans meant
  refine ⟨done, ?_, puts, last, a.publications_marked⟩
  rw [Run.resources, show run.last.resources = [] from last, List.append_nil, List.flatMap_def, puts,
    List.flatMap_def]

/-! ### A service that comes and goes -/

/-- A service is added, loses its specification, gets it back, and is deleted; the addition after that comes
with the signal to stop. -/
theorem run_translates_web :
    let web := serviceOver (headerOf "web") loadBalancing
    let broken := serviceOver (headerOf "web") (.list [.int 1])
    let unnamed := Value.dict [(.str "metadata", .null), (.str "spec", loadBalancing)]
    let es : List MembershipEvent := [⟨.added, web, none⟩, ⟨.updated, broken, some web⟩,
      ⟨.updated, web, some unnamed⟩, ⟨.deleted, web, none⟩, ⟨.added, web, none⟩]
    let run := (services false).run "static" (toldUntil 4 es)
    let resource := fun mark : Action =>
      (⟨.service, mark, ["web"], .str "default", [.str "192.0.2.7"], false⟩ : Resource)
    (∀ e ∈ es, e.Headed) ∧ run.outcome = .ok () ∧
    run.steps.map (·.resources) = [[resource .added], [resource .deleted], [resource .added],
      [resource .deleted]] ∧ run.last.resources = [] := by
  intro web broken unnamed es run resource
  have named : ∀ name spec, ClusterObject.Headed (serviceOver (headerOf name) spec) := by
    refine fun name spec => ⟨_, rfl, fun header hl => Or.inr ?_⟩
    exact ⟨_, (Option.some.inj hl).symm⟩
  have nameless : ClusterObject.Headed unnamed := by
    refine ⟨_, rfl, fun header hl => Or.inl ?_⟩
    rw [← Option.some.inj hl]
    rfl
  have headed : ∀ e ∈ es, e.Headed := by
    simp only [es, List.forall_mem_cons, List.not_mem_nil, false_implies, implies_true, and_true]
    refine ⟨⟨named _ _, nofun⟩, ⟨named _ _, ?_⟩, ⟨named _ _, ?_⟩, ⟨named _ _, nofun⟩, ⟨named _ _, nofun⟩⟩
    · rintro before ⟨⟩
      exact named _ _
    · rintro before ⟨⟩
      exact nameless
  obtain ⟨done, -, steps, last, -⟩ := run_translates (services false) "static" headed 4
  exact ⟨headed, done, steps, last⟩

end Adapter

end ClusterMdns
