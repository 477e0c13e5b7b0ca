import ClusterMdns.Proofs.Adapter.Advertised
import Mathlib.Data.List.Forall2

/-! Addresses inside the cluster. An adapter that does not publish internal services never looks at them: if they
are changed in any of the objects that it is told of, it puts and logs the same. With what is put in any case
this is the whole of what reaches the pipeline. -/

namespace ClusterMdns

open Document ClusterObject

/-! ### Objects with other addresses inside the cluster -/

/-- Two mappings have the same entries under all text keys but some. -/
def AgreeBeside (keys : List String) (es fs : List (Scalar × Value)) : Prop :=
  ∀ key, key ∉ keys → lookup (.str key) es = lookup (.str key) fs

theorem AgreeBeside.replaced {keys : List String} {key : String} (hk : key ∈ keys)
    (front back : List (Scalar × Value)) (v w : Value) :
    AgreeBeside keys (front ++ (.str key, v) :: back) (front ++ (.str key, w) :: back) := by
  intro other ho
  have apart : (Scalar.str key).same (.str other) = false :=
    beq_eq_false_iff_ne.mpr fun same => ho (Scalar.str.inj same ▸ hk)
  induction front with
  | nil => simp only [List.nil_append, lookup, apart, Bool.false_eq_true, if_false]
  | cons e front ih => simp only [List.cons_append, lookup, ih]

/-- Two objects that differ at most in the cluster addresses of their specifications. -/
inductive Readdressed : Value → Value → Prop
  | same (obj : Value) : Readdressed obj obj
  | moved {es fs ss ts : List (Scalar × Value)} (beside : AgreeBeside ["spec"] es fs)
      (left : (Value.dict es).section? "spec" = .ok (.dict ss))
      (right : (Value.dict fs).section? "spec" = .ok (.dict ts))
      (inside : AgreeBeside ["clusterIP", "clusterIPs"] ss ts) : Readdressed (.dict es) (.dict fs)

/-- Two deliveries that differ at most in the cluster addresses of their objects. -/
inductive Delivery.Readdressed : Delivery → Delivery → Prop
  | event (stopped : Bool) (action : Action) {obj obj' : Value} {old old' : Option Value}
      (now : ClusterMdns.Readdressed obj obj') (before : Option.Rel ClusterMdns.Readdressed old old') :
      Delivery.Readdressed (.event stopped ⟨action, obj, old⟩) (.event stopped ⟨action, obj', old'⟩)
  | failure (cause : String) : Delivery.Readdressed (.failure cause) (.failure cause)

namespace Readdressed

variable {obj other : Value}

theorem symm (h : Readdressed obj other) : Readdressed other obj := by
  cases h with
  | same => exact .same _
  | moved beside left right inside =>
    exact .moved (fun key hk => (beside key hk).symm) right left fun key hk => (inside key hk).symm

theorem section?_eq (h : Readdressed obj other) {key : String} (hk : key ≠ "spec") :
    obj.section? key = other.section? key := by
  cases h with
  | same => rfl
  | moved beside _ _ _ =>
    have found := beside key (by simpa using hk)
    simp only [Value.section?, Value.get, Value.get?, Value.opened, found]

/-- What is asked of the specification, the cluster addresses apart, is answered alike. -/
theorem spec_eq (h : Readdressed obj other) (key : String) (hk : key ∉ ["clusterIP", "clusterIPs"]) :
    (do (← obj.section? "spec").get key) = (do (← other.section? "spec").get key) := by
  cases h with
  | same => rfl
  | moved _ left right inside =>
    have found := inside key hk
    simp only [left, right, ok_bind, Value.get, Value.get?, Value.opened, found]

theorem metadata_eq (h : Readdressed obj other) : metadata obj = metadata other :=
  h.section?_eq (by decide)

theorem key_eq (h : Readdressed obj other) : key obj = key other := by
  unfold key
  rw [h.metadata_eq]

theorem loadBalancerAddresses_eq (h : Readdressed obj other) :
    loadBalancerAddresses obj = loadBalancerAddresses other := by
  unfold loadBalancerAddresses
  rw [h.section?_eq (by decide)]

end Readdressed

namespace Adapter

variable {a : Adapter} {obj other : Value}

/-! ### Alike resources -/

theorem serviceAddresses_readdressed (h : Readdressed obj other) :
    serviceAddresses false obj = serviceAddresses false other := by
  have kinds := h.spec_eq "type" (by decide)
  -- only the type is asked of the specification, so it may be read together with it
  have regrouped : ∀ v : Value, serviceAddresses false v = (do
      let kind ← (do (← v.section? "spec").get "type")
      let kind := kind.orElse (.str "ClusterIP")
      if kind.isText "LoadBalancer" then loadBalancerAddresses v else pure []) := by
    intro v
    unfold serviceAddresses
    simp only [bind_assoc, Bool.false_eq_true, if_false, ite_self]
  rw [regrouped, regrouped, kinds, h.loadBalancerAddresses_eq]

theorem validNames_readdressed (h : Readdressed obj other) (wanted : List String) :
    validNames obj wanted = validNames other wanted := by
  induction wanted with
  | nil => rfl
  | cons name rest ih => simp only [validNames, h.key_eq, ih]

theorem buildService_readdressed (h : Readdressed obj other) (action : Action) :
    buildService false obj action = buildService false other action := by
  unfold buildService
  simp only [h.metadata_eq, serviceAddresses_readdressed h, validNames_readdressed h]

theorem buildIngress_readdressed (h : Readdressed obj other) (action : Action) :
    buildIngress obj action = buildIngress other action := by
  have rules := h.spec_eq "rules" (by decide)
  have regrouped : ∀ v : Value, buildIngress v action = (do
      let addresses ← loadBalancerAddresses v
      if addresses.isEmpty then pure []
      else
        let header ← metadata v
        let rules ← (do (← v.section? "spec").get "rules" : Except Fault Value)
        buildRules header addresses action (← (rules.orElse (.list [])).elements)) := by
    intro v
    unfold buildIngress
    simp only [Logged.lift_bind_lift, bind_assoc]
  rw [regrouped, regrouped, h.loadBalancerAddresses_eq, h.metadata_eq, rules]

/-- An adapter that does not publish internal services makes the same of both objects. -/
theorem build_readdressed (ha : a ≠ .services true) (h : Readdressed obj other) (action : Action) :
    a.build obj action = a.build other action := by
  cases a with
  | services publishInternal =>
    cases publishInternal with
    | true => exact absurd rfl ha
    | false => exact buildService_readdressed h action
  | ingresses => exact buildIngress_readdressed h action

/-- Nothing is made of an empty mapping, and so nothing of one that has only cluster addresses. -/
theorem contribution_of_empty (ha : a ≠ .services true) (h : Readdressed (.dict []) obj)
    (action mark : Action) : a.contribution obj action mark = pure [] := by
  have empty : a.build (.dict []) action = pure [] := by
    cases a with
    | services publishInternal =>
      cases publishInternal with
      | true => exact absurd rfl ha
      | false => rfl
    | ingresses => rfl
  unfold contribution
  rw [← build_readdressed ha h, empty]
  exact ite_self _

theorem contribution_readdressed (ha : a ≠ .services true) (h : Readdressed obj other)
    (action mark : Action) : a.contribution obj action mark = a.contribution other action mark := by
  cases h with
  | same => rfl
  | @moved es fs ss ts beside left right inside =>
    have h : Readdressed (.dict es) (.dict fs) := .moved beside left right inside
    cases es with
    | nil => rw [contribution_of_empty ha h, contribution_of_empty ha (.same _)]
    | cons e es =>
      cases fs with
      | nil => rw [contribution_of_empty ha h.symm, contribution_of_empty ha (.same _)]
      | cons f fs =>
        unfold contribution
        simp only [build_readdressed ha h, h.key_eq]
        rfl

/-! ### Alike runs -/

theorem batches_readdressed (ha : a ≠ .services true) (action : Action) {old before : Option Value}
    (now : Readdressed obj other) (was : Option.Rel Readdressed old before) :
    a.batches ⟨action, obj, old⟩ = a.batches ⟨action, other, before⟩ := by
  have gone : Readdressed (old.getD .null) (before.getD .null) := by
    cases was with
    | some h => exact h
    | none => exact .same _
  cases action <;> simp only [batches, contribution_readdressed ha now, contribution_readdressed ha gone]

theorem handleAll_readdressed (ha : a ≠ .services true) {ds es : List Delivery}
    (h : List.Forall₂ Delivery.Readdressed ds es) (opening : List LogLine) :
    a.handleAll opening ds = a.handleAll opening es := by
  induction h generalizing opening with
  | nil => rfl
  | cons first _ ih =>
    cases first with
    | failure cause => rfl
    | event stopped action now before => simp only [handleAll, batches_readdressed ha action now before, ih]

/-- Whatever is delivered and however the run ends, each resource that it puts can be advertised, and is made of
an object that an event asks to be added or deleted. Unless internal services are published, a load balancer of
that object has all its addresses, and the run stays the same, in what it puts and what it logs, when the
cluster addresses of any of the objects are changed. -/
theorem run_puts_advertisable (a : Adapter) (source : String) (ds : List Delivery) :
    (∀ r ∈ (a.run source ds).resources, Advertisable r ∧
      ∃ stopped e obj, Delivery.event stopped e ∈ ds ∧ Asks e r.action obj ∧
        (a ≠ .services true → ∀ ip ∈ r.addresses, BalancedAt obj ip)) ∧
    (a ≠ .services true → ∀ es, List.Forall₂ Delivery.Readdressed ds es →
      a.run source es = a.run source ds) := by
  refine ⟨fun r hr => ?_, fun ha es h => (handleAll_readdressed ha h _).symm⟩
  obtain ⟨advertisable, stopped, e, obj, hd, asks, sound⟩ := run_sound hr
  exact ⟨advertisable, stopped, e, obj, hd, asks, sound.balanced⟩

/-! ### A service that moves inside the cluster -/

/-- A load-balanced service with an address inside the cluster. -/
def webAt (inside : String) : Value :=
  .dict [
    (.str "metadata", .dict [(.str "namespace", .str "default"), (.str "name", .str "web")]),
    (.str "spec", .dict [(.str "type", .str "LoadBalancer"), (.str "clusterIP", .str inside)]),
    (.str "status", .dict [(.str "loadBalancer", .dict [(.str "ingress",
      .list [.dict [(.str "ip", .str "192.0.2.7")]])])])]

theorem readdressed_webAt (inside other : String) : Readdressed (webAt inside) (webAt other) :=
  .moved (.replaced (by decide) [_] [_] _ _) rfl rfl (.replaced (by decide) [_] [] _ _)

/-- Only what the load balancer has is put, and it is put all the same when the service gets another address
inside the cluster. -/
theorem run_puts_advertisable_web :
    let told (inside : String) : List Delivery := [.event false ⟨.deleted, webAt inside, none⟩]
    let r : Resource := ⟨.service, .deleted, ["web"], .str "default", [.str "192.0.2.7"], false⟩
    r ∈ ((services false).run "static" (told "10.96.0.10")).resources ∧
    services false ≠ services true ∧
    List.Forall₂ Delivery.Readdressed (told "10.96.0.10") (told "10.96.0.11") ∧
    Advertisable r ∧ BalancedAt (webAt "10.96.0.10") (.str "192.0.2.7") ∧
    (services false).run "static" (told "10.96.0.11") = (services false).run "static" (told "10.96.0.10") := by
  intro told r
  have put : r ∈ ((services false).run "static" (told "10.96.0.10")).resources := by
    rw [show ((services false).run "static" (told "10.96.0.10")).resources = [r] from rfl]
    exact List.mem_singleton_self r
  have hidden : services false ≠ services true := by decide
  have moved : List.Forall₂ Delivery.Readdressed (told "10.96.0.10") (told "10.96.0.11") :=
    .cons (.event false .deleted (readdressed_webAt _ _) .none) .nil
  obtain ⟨sound, same⟩ := run_puts_advertisable (services false) "static" (told "10.96.0.10")
  obtain ⟨advertisable, stopped, e, obj, delivered, asks, balanced⟩ := sound r put
  cases List.mem_singleton.mp delivered
  rcases asks with ⟨marked, -⟩ | ⟨-, gone⟩
  · cases marked
  · cases gone
    exact ⟨put, hidden, moved, advertisable, balanced hidden _ (List.mem_singleton_self _), same hidden _ moved⟩

end Adapter

end ClusterMdns
