import ClusterMdns.Proofs.Informer.Stream

/-! Replaying the events of an informer gives its cache back, as far as keys and versions go, whenever the
client is called; and each event is right about the change that it tells of. Versions are texts or absent:
nothing else is certain to equal itself. -/

namespace ClusterMdns

open Document ClusterObject

/-- The version of an object is a text, or it has none. -/
def Versioned (obj : Value) : Prop :=
  ∀ v, revision obj = .ok v → ∃ s, v = .str s

/-- Both objects have a version that is a text, and it is the same. -/
def SameRevision (a b : Value) : Prop :=
  ∃ s, revision a = .ok (.str s) ∧ revision b = .ok (.str s)

/-- An event is right about its key: an addition is of an unknown one, and an update knows the version that
was known and brings another. -/
def Accurate (known : Known) (e : MembershipEvent) : Prop :=
  ∃ name, key e.obj = .ok name ∧
    match e.action with
    | .added => known name = none
    | .updated => ∃ old held v w, e.old = some old ∧ key old = .ok name ∧ known name = some held ∧
        revision held = .ok v ∧ revision old = .ok v ∧ revision e.obj = .ok w ∧ v ≠ w
    | .deleted => True

theorem same_str (s t : String) : (Value.str s).same (.str t) = decide (s = t) := by
  simp only [Value.same, Scalar.same, Scalar.number?]
  by_cases h : s = t <;> simp [h]

theorem sameRevision_agreement : Agreement Versioned SameRevision where
  refl versioned hn := by
    obtain ⟨v, hv⟩ := revision_of_key hn
    obtain ⟨s, rfl⟩ := versioned v hv
    exact ⟨s, hv, hv⟩
  carry hold hobj _ _ hv hw same agree := by
    obtain ⟨s, hheld, hs⟩ := agree
    obtain ⟨t, rfl⟩ := hobj _ hw
    cases hv.symm.trans hs
    rw [same_str, decide_eq_true_eq] at same
    subst same
    exact ⟨s, hheld, hw⟩

theorem accurate_of_fits {known : Known} {e : MembershipEvent} (h : Fits SameRevision known e) :
    Accurate known e := by
  cases h with
  | added hn hk => exact ⟨_, hn, hk⟩
  | updated hn ho hk ha hv hw hd =>
    obtain ⟨s, hheld, hs⟩ := ha
    cases hv.symm.trans hs
    refine ⟨_, hn, _, _, _, _, rfl, ho, hk, hheld, hv, hw, fun heq => ?_⟩
    rw [← heq, same_str, decide_eq_false_iff_not] at hd
    exact hd rfl
  | deleted hn _ => exact ⟨_, hn, trivial⟩

/-- Over any run, each event is right when it comes, and at every call of the client the consumer has the
keys of the cache, each with the cached version. -/
theorem replay_mirrors_cache (resource : String) (before : List StreamInput) (input : StreamInput)
    (kinds : ∀ i ∈ before ++ [input], i.KindKnown)
    (versions : ∀ i ∈ before ++ [input], ∀ obj ∈ i.objects, Versioned obj) :
    let run := (EventStream.opened resource).run before
    let last := run.1.step input
    (∀ front e back, told (run.2 ++ last.2) = front ++ e :: back →
      Accurate (Known.nothing.replay front) e) ∧
    ∀ front call back, last.2 = front ++ call :: back → call.IsCall → ∀ name,
      Option.Rel SameRevision (Known.nothing.replay (told (run.2 ++ front)) name)
        (last.1.informer.cache.find? name) := by
  intro run last
  obtain ⟨faithful, mirrors⟩ := EventStream.calls_follow sameRevision_agreement resource
    fun i hi => ⟨kinds i hi, versions i hi⟩
  exact ⟨fun front e back split => accurate_of_fits (faithful.fits split), mirrors⟩

/-! ### Two ingresses of one host, one of which moves to another -/

/-- An ingress of one host under one address. -/
def ingressOf (name version host address : String) : Value :=
  .dict [
    (.str "metadata", .dict [(.str "namespace", .str "default"), (.str "name", .str name),
      (.str "resourceVersion", .str version)]),
    (.str "spec", .dict [(.str "rules", .list [.dict [(.str "host", .str host)]])]),
    (.str "status", .dict [(.str "loadBalancer", .dict [(.str "ingress",
      .list [.dict [(.str "ip", .str address)]])])])]

def shop : Value := ingressOf "shop" "1" "shop.local" "192.0.2.1"

def copy : Value := ingressOf "copy" "2" "shop.local" "192.0.2.1"

def movedCopy : Value := ingressOf "copy" "3" "copy.local" "192.0.2.1"

theorem key_shop : key shop = .ok "default/shop" := rfl

theorem key_copy : key copy = .ok "default/copy" := rfl

theorem key_movedCopy : key movedCopy = .ok "default/copy" := rfl

theorem key_shop_ne : key shop ≠ key copy ∧ key shop ≠ key movedCopy := by
  rw [key_shop, key_copy, key_movedCopy]
  decide

/-- Both are listed, and then a watch tells that the copy has moved. -/
def moving : List StreamInput :=
  [.turn false, .listed (.list [shop, copy]) (.str "2"), .taken, .taken,
    .received (.dict [(.str "type", .str "MODIFIED"), (.str "object", movedCopy)]), .taken, .closed]

theorem moving_kinds : ∀ i ∈ moving ++ [.turn false], i.KindKnown := by
  simp [moving, StreamInput.KindKnown, Informer.knownKinds, Value.get, Value.get?, Value.opened, lookup,
    Scalar.same, Scalar.number?, Except.map]

theorem moving_objects :
    (moving ++ [StreamInput.turn false]).flatMap StreamInput.objects = [shop, copy, movedCopy] :=
  rfl

theorem replay_mirrors_cache_moving :
    (∀ i ∈ moving ++ [.turn false], i.KindKnown) ∧
    (∀ i ∈ moving ++ [.turn false], ∀ obj ∈ i.objects, Versioned obj) ∧
    Accurate (Known.nothing.replay [⟨.added, shop, none⟩, ⟨.added, copy, none⟩])
      ⟨.updated, movedCopy, some copy⟩ ∧
    Option.Rel SameRevision
      (Known.nothing.replay (told (((EventStream.opened "ingresses").run moving).2 ++ [])) "default/copy")
      ((((EventStream.opened "ingresses").run moving).1.step (.turn false)).1.informer.cache.find?
        "default/copy") := by
  have versions : ∀ i ∈ moving ++ [.turn false], ∀ obj ∈ i.objects, Versioned obj := by
    intro i hi obj ho v hv
    have kept := List.mem_flatMap.mpr ⟨i, hi, ho⟩
    rw [moving_objects] at kept
    simp only [List.mem_cons, List.not_mem_nil, or_false] at kept
    rcases kept with rfl | rfl | rfl <;> cases hv <;> exact ⟨_, rfl⟩
  obtain ⟨accurate, mirrors⟩ := replay_mirrors_cache "ingresses" moving (.turn false) moving_kinds versions
  exact ⟨moving_kinds, versions, accurate _ _ [] rfl, mirrors [] _ [] rfl trivial _⟩

end ClusterMdns
