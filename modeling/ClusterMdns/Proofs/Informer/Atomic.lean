import ClusterMdns.Proofs.Informer.Calls
import ClusterMdns.Proofs.Informer.Unknown

/-! The steps of an informer, write by write. A watch event notes its version before its object has been looked at
any further, and it puts the object into the cache before it is compared with the one that was there; whatever is
written stays when a later read fails. No read fails after a write: an object with a version has a key, and so has
every object in the cache of an informer that can be reached. -/

namespace ClusterMdns

open Document ClusterObject

namespace Informer

/-! ### Steps that write as they go -/

/-- Reads something, and writes nothing. -/
def reading {ε α : Type} : Except ε α → EStateM ε Informer α
  | .ok a => pure a
  | .error e => throw e

/-- How a step ended, and the informer that it left. -/
def ended {ε α : Type} (next : Informer) : Except ε α → EStateM.Result ε Informer α
  | .ok a => .ok a next
  | .error e => .error e next

/-- The informer that a step left. -/
def left {ε α : Type} : EStateM.Result ε Informer α → Informer
  | .ok _ next => next
  | .error _ next => next

/-- A watch event about an object. It notes the version before it reads the key, and it stores the object before it
compares it with the one that was there. -/
def changeInPlace (kind obj : Value) : EStateM WatchError Informer (Option MembershipEvent) := do
  let version ← reading ((revision obj).mapError .fault)
  modify (noteVersion version)
  if kind.isText "BOOKMARK" then pure none
  else
    let name ← reading ((key obj).mapError .fault)
    if kind.isText "DELETED" then
      let (next, e) := (← get).remove name obj
      set next
      pure (some e)
    else
      let old := (← get).cache.find? name
      modify (store name obj)
      if kind.isText "ADDED" || kind.isText "MODIFIED" then
        reading ((change old obj).mapError .fault)
      else pure none

/-- A watch event. -/
def applyInPlace (raw : Value) : EStateM WatchError Informer (Option MembershipEvent) := do
  let kind ← reading ((raw.get "type").mapError .fault)
  let obj ← reading ((raw.section? "object").mapError .fault)
  if kind.isText "ERROR" then reading (readError (← get).resource obj).outcome
  else changeInPlace kind obj

section
variable {ε : Type} (unusable : Fault → ε)

/-- A listing, or whatever the client raises instead. `unusable` is how a value is refused. -/
def relistInPlace (answer : Except ε (Value × Value)) : EStateM ε Informer (List MembershipEvent) := do
  let (items, version) ← reading answer
  let fresh ← reading ((keyed items).mapError unusable)
  let cache := (← get).cache
  let added ← reading ((additions cache fresh).mapError unusable)
  let gone := removals cache fresh
  modify fun i => { i with cache := fresh }
  modify fun i => { i with version := version }
  modify fun i => { i with synced := true }
  pure (added ++ gone)

/-- The states of an informer that writes as it goes, after any steps, failed ones among them. -/
inductive ReachedInPlace (resource : String) : Informer → Prop
  | fresh : ReachedInPlace resource { resource }
  | relisted {i : Informer} (answer : Except ε (Value × Value)) (h : ReachedInPlace resource i) :
      ReachedInPlace resource (left ((relistInPlace unusable answer).run i))
  | applied {i : Informer} (raw : Value) (h : ReachedInPlace resource i) :
      ReachedInPlace resource (left ((applyInPlace raw).run i))

end

section
variable {ε α β : Type}

@[simp] theorem reading_ok_bind (a : α) (f : α → EStateM ε Informer β) : (reading (.ok a) >>= f) = f a := rfl

@[simp] theorem run_get_bind (i : Informer) (f : Informer → EStateM ε Informer β) :
    (get >>= f).run i = (f i).run i := rfl

@[simp] theorem run_reading (i : Informer) (x : Except ε α) : (reading x).run i = ended i x := by
  cases x <;> rfl

@[simp] theorem left_ended (i : Informer) (x : Except ε α) : left (ended i x) = i := by
  cases x <;> rfl

theorem eq_of_ended {next last : Informer} {outcome : Except ε α} {e : ε}
    (h : ended next outcome = .error e last) : outcome = .error e ∧ last = next := by
  cases outcome with
  | ok a => cases h
  | error f =>
    cases h
    exact ⟨rfl, rfl⟩

end

/-! ### Whole steps that fail -/

variable {i : Informer} {raw kind obj : Value}

theorem apply_of_error {e : WatchError} (h : (i.apply raw).2.outcome = .error e) : (i.apply raw).1 = i := by
  rcases apply_cases raw i with ⟨_, hi, -⟩ | ⟨kind, obj, -, -, happ⟩
  · exact hi
  · rw [h] at happ
    generalize (i.apply raw).1 = next at happ ⊢
    cases happ with
    | refused => rfl

theorem relist_of_error {items version : Value} {f : Fault} (h : (i.relist items version).2.outcome = .error f) :
    (i.relist items version).1 = i := by
  rcases relist_cases items version i with ⟨_, hi, -⟩ | ⟨_, _, -, -, -, ho⟩
  · exact hi
  · cases h.symm.trans ho

/-! ### No read fails after a write -/

/-- The version of the object is written only if nothing that follows fails. -/
theorem changeInPlace_eq (tidy : Tidy i) (readable : ∀ v, revision obj = .ok v → ∃ name, key obj = .ok name) :
    (changeInPlace kind obj).run i = match i.applyChange kind obj with
      | .error f => .error (.fault f) i
      | .ok (next, done) => ended next done.outcome := by
  unfold changeInPlace applyChange
  cases hv : revision obj with
  | error f => rfl
  | ok v =>
    obtain ⟨name, hn⟩ := readable v hv
    obtain ⟨e, he⟩ := change_ok tidy hn
    simp only [Except.mapError, reading_ok_bind, ok_bind, hn, noteVersion_cache, he]
    split
    · rfl
    · split
      · rfl
      · split
        · change EStateM.run (reading _) _ = _
          rw [noteVersion_cache, he]
          rfl
        · rfl

theorem applyInPlace_eq (tidy : Tidy i) (raw : Value) :
    (applyInPlace raw).run i = ended (i.apply raw).1 (i.apply raw).2.outcome := by
  unfold applyInPlace
  cases hk : raw.get "type" with
  | error f =>
    unfold apply
    rw [hk]
    rfl
  | ok kind =>
    obtain ⟨obj, ho⟩ := Value.section?_of_get hk "object"
    rw [apply_eq hk ho, ho]
    simp only [Except.mapError, reading_ok_bind]
    split
    · exact run_reading i _
    · rw [changeInPlace_eq tidy fun v hv => key_of_revision ho hv]
      cases i.applyChange kind obj <;> rfl

/-- An object whose header is a text never comes into the cache. There it would make an event fail that has
written. -/
example :
    let i : Informer := { resource := "ingresses", cache := [("default/shop", .dict [(.str "metadata", .str "x")])] }
    (applyInPlace (.dict [(.str "type", .str "ADDED"), (.str "object", shop)])).run i =
      .error (.fault .noOperation) { i with cache := [("default/shop", shop)], version := .str "1" } := rfl

section
variable {ε : Type} (unusable : Fault → ε)

theorem relistInPlace_eq (items version : Value) (i : Informer) :
    (relistInPlace unusable (.ok (items, version))).run i =
      ended (i.relist items version).1 ((i.relist items version).2.outcome.mapError unusable) := by
  unfold relistInPlace relist
  simp only [reading_ok_bind]
  cases hf : keyed items with
  | error f => rfl
  | ok fresh =>
    simp only [Except.mapError, reading_ok_bind, run_get_bind, ok_bind]
    cases ha : additions i.cache fresh with
    | error f => rfl
    | ok added => rfl

/-- Steps that write as they go lead where whole steps do. -/
theorem ReachedInPlace.reachable {resource : String} (h : ReachedInPlace unusable resource i) :
    Reachable resource i := by
  induction h with
  | fresh => exact .fresh
  | @relisted i answer _ ih =>
    cases answer with
    | error e => exact ih
    | ok listing =>
      rw [relistInPlace_eq, left_ended]
      exact ih.relisted _ _
  | applied raw _ ih =>
    rw [applyInPlace_eq ih.tidy, left_ended]
    exact ih.applied raw

end

end Informer

namespace EventStream

variable {s : EventStream} {input : StreamInput}

@[simp] theorem fail_informer (e : CallError) (s : EventStream) : (s.fail e).1.informer = s.informer := by
  unfold fail
  split <;> rfl

/-- An input that ends a call in failure leaves the informer as it was and tells of nothing. -/
theorem step_of_failure (h : s.EndsInFailure input) :
    (s.step input).1.informer = s.informer ∧ told (s.step input).2 = [] := by
  cases input with
  | failed e =>
    have stepped : s.step (.failed e) = s.fail e := by
      rcases h with hs | hs <;> simp only [step, hs]
    rw [stepped]
    exact ⟨fail_informer e s, fail_told e s⟩
  | listed items version =>
    obtain ⟨hs, f, hf⟩ := h
    simp only [step, hs, takeListing, hf, told_append, told_logged, fail_told, fail_informer]
    exact ⟨Informer.relist_of_error hf, rfl⟩
  | received raw =>
    obtain ⟨hs, failed⟩ := h
    have refused : ∃ e, (s.informer.apply raw).2.outcome = .error e :=
      failed.elim (apply_error · s.informer) fun unusable => unusable.elim fun f hf => ⟨.fault f, hf⟩
    obtain ⟨e, he⟩ := refused
    cases e <;>
    · simp only [step, hs, takeEvent, he, told_append, told_logged, fail_told, fail_informer]
      exact ⟨Informer.apply_of_error he, rfl⟩
  | stop | turn | closed | taken | rested => exact h.elim

end EventStream

/-- A step that fails leaves the informer as it was, though it writes as it goes, whatever was delivered to it and
whatever steps and failures came before; and nothing of it is told of. Such steps are the whole steps of an
informer. -/
theorem Informer.failed_steps_leave_no_trace {ε : Type} (unusable : Fault → ε) {resource : String} {i : Informer}
    (reached : ReachedInPlace unusable resource i) :
    (∀ raw e next, (applyInPlace raw).run i = .error e next → next = i) ∧
    (∀ answer e next, (relistInPlace unusable answer).run i = .error e next → next = i) ∧
    (∀ raw, (applyInPlace raw).run i = ended (i.apply raw).1 (i.apply raw).2.outcome) ∧
    (∀ items version, (relistInPlace unusable (.ok (items, version))).run i =
      ended (i.relist items version).1 ((i.relist items version).2.outcome.mapError unusable)) ∧
    ∀ before input, let run := (EventStream.opened resource).run before
      run.1.EndsInFailure input →
        (run.1.step input).1.informer = run.1.informer ∧ told (run.1.step input).2 = [] := by
  have tidy := reached.reachable.tidy
  refine ⟨fun raw e next failed => ?_, fun answer e next failed => ?_, applyInPlace_eq tidy,
    fun items version => relistInPlace_eq unusable items version i, fun _ _ => EventStream.step_of_failure⟩
  · rw [applyInPlace_eq tidy] at failed
    obtain ⟨refused, rfl⟩ := eq_of_ended failed
    exact apply_of_error refused
  · cases answer with
    | error raised =>
      cases failed
      rfl
    | ok listing =>
      rw [relistInPlace_eq] at failed
      obtain ⟨refused, rfl⟩ := eq_of_ended failed
      cases hf : (i.relist listing.1 listing.2).2.outcome with
      | ok es =>
        rw [hf] at refused
        cases refused
      | error f => exact relist_of_error hf

/-- A listing brings an ingress. Then an event and a listing bring objects whose header is a text. -/
theorem Informer.failed_steps_leave_no_trace_shop :
    let listed := (relistInPlace CallError.fault (.ok (.list [shop], .str "1"))).run { resource := "ingresses" }
    let bad : Value := .dict [(.str "metadata", .str "shop")]
    let raw : Value := .dict [(.str "type", .str "MODIFIED"), (.str "object", bad)]
    let waiting := (EventStream.opened "ingresses").run (moving.take 4)
    ReachedInPlace CallError.fault "ingresses" (left listed) ∧
    (left listed).cache = [("default/shop", shop)] ∧
    (applyInPlace raw).run (left listed) = .error (.fault .noOperation) (left listed) ∧
    (relistInPlace CallError.fault (.ok (.list [copy, bad], .str "2"))).run (left listed) =
      .error (.fault .noOperation) (left listed) ∧
    waiting.1.EndsInFailure (.received raw) ∧
    (waiting.1.step (.received raw)).1.informer = waiting.1.informer := by
  intro listed bad raw waiting
  have reached : ReachedInPlace CallError.fault "ingresses" (left listed) := .relisted _ .fresh
  obtain ⟨applied, relisted, -, -, streamed⟩ := failed_steps_leave_no_trace CallError.fault reached
  have failing : waiting.1.EndsInFailure (.received raw) := ⟨rfl, Or.inr ⟨.noOperation, rfl⟩⟩
  have fails : ∃ next, (applyInPlace raw).run (left listed) = .error (.fault .noOperation) next := ⟨_, rfl⟩
  have refuses : ∃ next, (relistInPlace CallError.fault (.ok (.list [copy, bad], .str "2"))).run (left listed) =
    .error (.fault .noOperation) next := ⟨_, rfl⟩
  obtain ⟨next, hn⟩ := fails
  obtain ⟨other, ho⟩ := refuses
  rw [applied raw _ next hn] at hn
  rw [relisted _ _ other ho] at ho
  exact ⟨reached, rfl, hn, ho, failing, (streamed _ _ failing).1⟩

end ClusterMdns
