import ClusterMdns.Proofs.Informer.Replay

/-! Watch events one after another, and what each kind of them does. An event of a known key is never refused
because of the cache: every cached object has a version that can be read. -/

namespace ClusterMdns

open Document ClusterObject

/-- The object of a watch event that has a version has a key. -/
theorem key_of_revision {raw obj v : Value} (ho : raw.section? "object" = .ok obj)
    (hv : revision obj = .ok v) : ∃ name, key obj = .ok name := by
  obtain ⟨w, -, hw⟩ := map_eq_ok.mp ho
  cases ht : w.truthy with
  | false =>
    rw [Value.orElse_of_not_truthy ht] at hw
    subst hw
    exact ⟨_, rfl⟩
  | true =>
    rw [Value.orElse_of_truthy ht] at hw
    subst hw
    obtain ⟨header, hm, hv⟩ := bind_eq_ok.mp hv
    obtain ⟨version, hv, -⟩ := bind_eq_ok.mp hv
    rw [Value.orElse_of_truthy ht] at hm
    obtain ⟨space, hs⟩ := Value.get?_of_get? hv "namespace"
    obtain ⟨name, hn⟩ := Value.get?_of_get? hv "name"
    unfold key
    rw [show metadata w = .ok header from hm]
    simp only [ok_bind, hs, hn, Except.map]
    exact ⟨_, rfl⟩

namespace Informer

variable {offered : Value → Prop} {i : Informer} {raw obj v : Value} {name : String}

/-! ### One event -/

theorem apply_bookmark (hk : raw.get "type" = .ok (.str "BOOKMARK")) (ho : raw.section? "object" = .ok obj)
    (hv : revision obj = .ok v) (i : Informer) : i.apply raw = (i.noteVersion v, .ok none) := by
  rw [apply_eq hk ho, applyChange, hv]
  rfl

theorem apply_deleted (hk : raw.get "type" = .ok (.str "DELETED")) (ho : raw.section? "object" = .ok obj)
    (hv : revision obj = .ok v) (hn : key obj = .ok name) (i : Informer) :
    i.apply raw = (((i.noteVersion v).remove name obj).1, .ok (some (i.remove name obj).2)) := by
  rw [apply_eq hk ho, applyChange, hv, ok_bind, hn]
  simp [Value.isText, remove]

/-- An object that is added or modified takes the place of what is cached under its key. -/
theorem apply_changed (kept : Kept offered i.cache)
    (hk : raw.get "type" = .ok (.str "ADDED") ∨ raw.get "type" = .ok (.str "MODIFIED"))
    (ho : raw.section? "object" = .ok obj) (hv : revision obj = .ok v) (hn : key obj = .ok name) :
    ∃ e, change (i.cache.find? name) obj = .ok e ∧ i.apply raw = ((i.noteVersion v).store name obj, .ok e) := by
  obtain ⟨e, he⟩ := change_ok kept hn
  refine ⟨e, he, ?_⟩
  rcases hk with hk | hk <;>
  · rw [apply_eq hk ho, applyChange, hv, ok_bind, hn]
    simp [Value.isText, he]

/-- An event whose object has no version that can be read is refused. -/
theorem apply_unreadable {kind : Value} (hk : raw.get "type" = .ok kind) (hne : kind.isText "ERROR" = false)
    (ho : raw.section? "object" = .ok obj) {f : Fault} (hv : revision obj = .error f) (i : Informer) :
    i.apply raw = (i, .fail (.fault f)) := by
  rw [apply_eq hk ho, hne, applyChange, hv]
  rfl

/-- Every informer refuses the event, or it is of some type, and about an object with a version and a key. -/
theorem refused_or_read (raw : Value) :
    (∀ i : Informer, (i.apply raw).1 = i ∧ ∃ e, (i.apply raw).2.outcome = .error e) ∨
    ∃ kind obj v name, raw.get "type" = .ok kind ∧ kind ≠ .str "ERROR" ∧ raw.section? "object" = .ok obj ∧
      revision obj = .ok v ∧ key obj = .ok name := by
  cases hk : raw.get "type" with
  | error f =>
    refine Or.inl fun i => ?_
    unfold apply
    rw [hk]
    exact ⟨rfl, _, rfl⟩
  | ok kind =>
    obtain ⟨obj, ho⟩ := Value.section?_of_get hk "object"
    by_cases hne : kind.isText "ERROR" = true
    · refine Or.inl fun i => ?_
      rw [apply_eq hk ho, if_pos hne]
      exact ⟨rfl, readError_fails i.resource obj⟩
    cases hv : revision obj with
    | error f =>
      refine Or.inl fun i => ?_
      rw [apply_unreadable hk (Bool.eq_false_iff.mpr hne) ho hv]
      exact ⟨rfl, _, rfl⟩
    | ok v =>
      obtain ⟨name, hn⟩ := key_of_revision ho hv
      exact Or.inr ⟨kind, obj, v, name, rfl, mt Value.isText_iff.mpr hne, ho, hv, hn⟩

/-! ### Unknown types -/

/-- A watch event of none of the known types; it may have no type at all. -/
def isUnknown (raw : Value) : Bool :=
  match raw.get "type" with
  | .ok kind => !knownKinds.any kind.isText
  | .error _ => false

theorem isUnknown_iff : isUnknown raw = true ↔
    ∃ kind, raw.get "type" = .ok kind ∧ ∀ s ∈ knownKinds, kind ≠ .str s := by
  unfold isUnknown
  split
  · rename_i kind hk
    simp [hk, ← Value.isText_iff]
  · rename_i hk
    simp [hk]

theorem isUnknown_eq_false_iff : isUnknown raw = false ↔
    ∀ kind, raw.get "type" = .ok kind → ∃ s ∈ knownKinds, kind = .str s := by
  rw [← Bool.not_eq_true, isUnknown_iff]
  push Not
  rfl

/-- An event of an unknown type puts its object into the cache as a known one does, and says nothing. -/
theorem apply_unknown (hu : isUnknown raw = true) (ho : raw.section? "object" = .ok obj)
    (hv : revision obj = .ok v) (hn : key obj = .ok name) (i : Informer) :
    (i.apply raw).1 = (i.noteVersion v).store name obj ∧ (i.apply raw).2.outcome = .ok none := by
  obtain ⟨kind, hk, other⟩ := isUnknown_iff.mp hu
  have plain : ∀ s ∈ knownKinds, kind.isText s = false :=
    fun s hs => Bool.eq_false_iff.mpr (mt Value.isText_iff.mp (other s hs))
  simp only [knownKinds, List.forall_mem_cons] at plain
  obtain ⟨ha, hm, hd, hb, he, -⟩ := plain
  rw [apply_eq hk ho, applyChange, hv, ok_bind, hn]
  simp only [ha, hm, hd, hb, he, Bool.or_self, Bool.false_eq_true, if_false, ok_bind]
  exact ⟨rfl, rfl⟩

/-! ### Sequences -/

/-- Watch events one after another, each whatever became of those before, with what came of each. -/
def applyAll : List Value → Informer → Informer × List (Except WatchError (Option MembershipEvent))
  | [], i => (i, [])
  | raw :: rest, i =>
    let (next, done) := i.apply raw
    let (last, later) := applyAll rest next
    (last, done.outcome :: later)

/-- What a sequence of steps says to the consumer. -/
def yielded (outcomes : List (Except WatchError (Option MembershipEvent))) : List MembershipEvent :=
  outcomes.flatMap said

theorem applyAll_cons (raw : Value) (rest : List Value) (i : Informer) :
    i.applyAll (raw :: rest) = (((i.apply raw).1.applyAll rest).1,
      (i.apply raw).2.outcome :: ((i.apply raw).1.applyAll rest).2) := rfl

end Informer

end ClusterMdns
