import ClusterMdns.Proofs.Adapter.Contribution
import ClusterMdns.Proofs.Hostname

/-! What an adapter puts on the pipeline, whatever its source delivers and however its run ends. Every resource
is marked as added or deleted, has valid names only, and has an address. Unless internal services are published,
all addresses are those of a load balancer of the object, and the addresses that the object has inside the
cluster make no difference to the run. -/

namespace ClusterMdns

open Document ClusterObject

/-! ### Addresses of load balancers -/

/-- A load balancer of the object has the address, in an entry that its status lists. -/
def ClusterObject.BalancedAt (obj ip : Value) : Prop :=
  ∃ status balancer ingress entries fields, obj.get? "status" = .ok (some status) ∧
    status.get? "loadBalancer" = .ok (some balancer) ∧ balancer.get? "ingress" = .ok (some ingress) ∧
    ingress.elements = .ok entries ∧ .dict fields ∈ entries ∧ lookup (.str "ip") fields = some ip

/-- A section in which something is found is there. -/
theorem Document.Value.get?_of_section? {v part found : Value} {key field : String}
    (hs : v.section? key = .ok part) (hf : part.get? field = .ok (some found)) :
    v.get? key = .ok (some part) := by
  obtain ⟨_, hg, hs⟩ := map_eq_ok.mp hs
  obtain ⟨held, hk, rfl⟩ := map_eq_ok.mp hg
  cases ht : (held.getD .null).truthy with
  | false =>
    rw [Value.orElse_of_not_truthy ht] at hs
    subst hs
    cases hf
  | true =>
    rw [Value.orElse_of_truthy ht] at hs
    subst hs
    cases held with
    | none => cases ht
    | some w => exact hk

theorem Document.Value.get?_of_get {v found : Value} {key : String} (h : v.get key = .ok found)
    (ht : found.truthy = true) : v.get? key = .ok (some found) := by
  obtain ⟨held, hk, rfl⟩ := map_eq_ok.mp h
  cases held with
  | none => cases ht
  | some w => exact hk

namespace Adapter

theorem entryAddress?_eq_some {entry ip : Value} (h : entryAddress? entry = some ip) :
    ip.truthy = true ∧ ∃ fields, entry = .dict fields ∧ lookup (.str "ip") fields = some ip := by
  unfold entryAddress? at h
  split at h
  · split at h
    · split at h
      · rename_i hip ht
        cases h
        exact ⟨ht, _, rfl, hip⟩
      · cases h
    · cases h
  · cases h

theorem balancedAt_of_mem {obj ip : Value} {ips : List Value} (h : loadBalancerAddresses obj = .ok ips)
    (hip : ip ∈ ips) : ip.truthy = true ∧ BalancedAt obj ip := by
  obtain ⟨status, hstatus, h⟩ := bind_eq_ok.mp h
  obtain ⟨balancer, hbalancer, h⟩ := bind_eq_ok.mp h
  obtain ⟨ingress, hingress, h⟩ := bind_eq_ok.mp h
  obtain ⟨entries, hentries, h⟩ := bind_eq_ok.mp h
  cases h
  obtain ⟨entry, hentry, hip⟩ := List.mem_filterMap.mp hip
  obtain ⟨ht, fields, rfl, hf⟩ := entryAddress?_eq_some hip
  cases hi : ingress.truthy with
  | false =>
    rw [Value.orElse_of_not_truthy hi] at hentries
    cases hentries
    cases hentry
  | true =>
    rw [Value.orElse_of_truthy hi] at hentries
    have found := Value.get?_of_get hingress hi
    have above := Value.get?_of_section? hbalancer found
    exact ⟨ht, status, balancer, ingress, entries, fields, Value.get?_of_section? hstatus above, above, found,
      hentries, hentry, hf⟩

/-! ### What is made of an object -/

/-- Every name of a resource is valid and every address counts as something; if the adapter does not publish
internal services, a load balancer of the object has them all. -/
structure Sound (a : Adapter) (obj : Value) (r : Resource) : Prop where
  names : ∀ name ∈ r.names, Hostname.validate name = .ok name
  addresses : ∀ ip ∈ r.addresses, ip.truthy = true
  balanced : a ≠ .services true → ∀ ip ∈ r.addresses, BalancedAt obj ip

theorem serviceAddresses_sound {publishInternal : Bool} {obj : Value} {ips : List Value}
    (h : serviceAddresses publishInternal obj = .ok ips) {ip : Value} (hip : ip ∈ ips) :
    ip.truthy = true ∧ (publishInternal = false → BalancedAt obj ip) := by
  obtain ⟨spec, -, h⟩ := bind_eq_ok.mp h
  obtain ⟨kind, -, h⟩ := bind_eq_ok.mp h
  dsimp only at h
  split at h
  · obtain ⟨ht, balanced⟩ := balancedAt_of_mem h hip
    exact ⟨ht, fun _ => balanced⟩
  split at h
  · split at h
    · rename_i published
      obtain ⟨many, -, h⟩ := bind_eq_ok.mp h
      obtain ⟨one, -, h⟩ := bind_eq_ok.mp h
      obtain ⟨addresses, -, h⟩ := bind_eq_ok.mp h
      cases h
      obtain ⟨-, keep⟩ := List.mem_filter.mp hip
      exact ⟨(Bool.and_eq_true_iff.mp keep).1, fun hidden => absurd published (by simp [hidden])⟩
    · cases h
      cases hip
  · cases h
    cases hip

theorem validNames_valid {obj : Value} {wanted names : List String}
    (h : (validNames obj wanted).outcome = .ok names) : ∀ name ∈ names, Hostname.validate name = .ok name := by
  induction wanted generalizing names with
  | nil =>
    cases h
    simp
  | cons name rest ih =>
    unfold validNames at h
    split at h
    · exact ih h
    split at h
    · rename_i hv
      rw [Logged.outcome_bind] at h
      obtain ⟨more, hm, h⟩ := bind_eq_ok.mp h
      cases h
      exact List.forall_mem_cons.mpr ⟨Hostname.validate_self hv, ih hm⟩
    · rw [Logged.outcome_bind] at h
      obtain ⟨_, -, h⟩ := bind_eq_ok.mp h
      rw [Logged.outcome_bind] at h
      obtain ⟨_, -, h⟩ := bind_eq_ok.mp h
      exact ih h

theorem buildService_sound {publishInternal : Bool} {obj : Value} {action : Action} {rs : List Resource}
    (h : (buildService publishInternal obj action).outcome = .ok rs) :
    ∀ r ∈ rs, Sound (.services publishInternal) obj r := by
  unfold buildService at h
  rw [Logged.outcome_bind] at h
  obtain ⟨header, -, h⟩ := bind_eq_ok.mp h
  rw [Logged.outcome_bind] at h
  obtain ⟨addresses, ha, h⟩ := bind_eq_ok.mp h
  split at h
  · cases h
    simp
  simp only [Logged.outcome_bind, bind_eq_ok, Logged.outcome_pure] at h
  obtain ⟨annotations, -, wanted, -, names, hn, space, -, bare, -, bare, -, h⟩ := h
  cases h
  refine List.forall_mem_singleton.mpr ⟨validNames_valid hn, fun ip hip => ?_, fun hidden ip hip => ?_⟩
  · exact (serviceAddresses_sound ha hip).1
  · refine (serviceAddresses_sound ha hip).2 (Bool.eq_false_iff.mpr fun published => hidden ?_)
    rw [published]

theorem buildRule_sound {obj header : Value} {addresses : List Value}
    (ha : loadBalancerAddresses obj = .ok addresses) {action : Action} {rule : Value} {rs : List Resource}
    (h : (buildRule header addresses action rule).outcome = .ok rs) : ∀ r ∈ rs, Sound .ingresses obj r := by
  unfold buildRule at h
  rw [Logged.outcome_bind] at h
  obtain ⟨host, -, h⟩ := bind_eq_ok.mp h
  split at h
  · split at h
    · rename_i name hv
      simp only [Logged.outcome_bind, bind_eq_ok, Logged.outcome_pure] at h
      obtain ⟨space, -, h⟩ := h
      cases h
      refine List.forall_mem_singleton.mpr ⟨?_, fun ip hip => ?_, fun _ ip hip => ?_⟩
      · exact List.forall_mem_singleton.mpr (Hostname.validate_ofLocalHost hv)
      · exact (balancedAt_of_mem ha hip).1
      · exact (balancedAt_of_mem ha hip).2
    · cases h
      simp
  · cases h
    simp

theorem buildRules_sound {obj header : Value} {addresses : List Value}
    (ha : loadBalancerAddresses obj = .ok addresses) {action : Action} {rules : List Value}
    {rs : List Resource} (h : (buildRules header addresses action rules).outcome = .ok rs) :
    ∀ r ∈ rs, Sound .ingresses obj r := by
  induction rules generalizing rs with
  | nil =>
    cases h
    simp
  | cons rule rest ih =>
    simp only [buildRules, Logged.outcome_bind, bind_eq_ok, Logged.outcome_pure] at h
    obtain ⟨here, hh, more, hm, h⟩ := h
    cases h
    exact List.forall_mem_append.mpr ⟨buildRule_sound ha hh, ih hm⟩

theorem buildIngress_sound {obj : Value} {action : Action} {rs : List Resource}
    (h : (buildIngress obj action).outcome = .ok rs) : ∀ r ∈ rs, Sound .ingresses obj r := by
  unfold buildIngress at h
  rw [Logged.outcome_bind] at h
  obtain ⟨addresses, ha, h⟩ := bind_eq_ok.mp h
  split at h
  · cases h
    simp
  simp only [Logged.outcome_bind, bind_eq_ok] at h
  obtain ⟨header, -, spec, -, rules, -, entries, -, h⟩ := h
  exact buildRules_sound ha h

/-- Whatever is made of an object is sound. -/
theorem build_sound {a : Adapter} {obj : Value} {action : Action} {rs : List Resource}
    (h : (a.build obj action).outcome = .ok rs) : ∀ r ∈ rs, a.Sound obj r := by
  cases a with
  | services publishInternal => exact buildService_sound h
  | ingresses => exact buildIngress_sound h

/-! ### What is put -/

/-- The resource can be advertised: it is marked as one to add or to delete, and it has names, all of them valid,
and addresses. -/
structure Advertisable (r : Resource) : Prop where
  marked : r.action = .added ∨ r.action = .deleted
  named : r.names ≠ []
  valid : ∀ name ∈ r.names, Hostname.validate name = .ok name
  addressed : r.addresses ≠ []
  real : ∀ ip ∈ r.addresses, ip.truthy = true

/-- An event asks for what is made of the object to be added or deleted. -/
def Asks (e : MembershipEvent) (mark : Action) (obj : Value) : Prop :=
  mark = .added ∧ e.published? = some obj ∨ mark = .deleted ∧ e.retracted? = some obj

theorem contribution_sound {a : Adapter} {obj : Value} {action mark : Action} {rs : List Resource}
    (h : (a.contribution obj action mark).outcome = .ok rs) :
    ∀ r ∈ rs, r.action = mark ∧ r.publishable = true ∧ a.Sound obj r := by
  unfold contribution at h
  split at h
  · simp only [Logged.outcome_bind, bind_eq_ok, Logged.outcome_pure, Logged.outcome_recover] at h
    obtain ⟨made, hm, h⟩ := h
    cases h
    intro r hr
    obtain ⟨kept, hk, rfl⟩ := List.mem_map.mp hr
    obtain ⟨mem, publishable⟩ := List.mem_filter.mp hk
    split at hm
    · rename_i built hb
      cases hm
      obtain ⟨names, addresses, balanced⟩ := build_sound hb kept mem
      exact ⟨rfl, publishable, names, addresses, balanced⟩
    · simp only [bind_eq_ok] at hm
      obtain ⟨_, -, _, -, hm⟩ := hm
      cases hm
      cases mem
  · cases h
    simp

/-- Everything in the batches of an event is made of an object for which the event asks. -/
theorem batches_sound {a : Adapter} {e : MembershipEvent} {batch : Logged Fault (List Resource)}
    (hb : batch ∈ a.batches e) {rs : List Resource} (h : batch.outcome = .ok rs) :
    ∀ r ∈ rs, r.publishable = true ∧ ∃ obj, Asks e r.action obj ∧ a.Sound obj r := by
  obtain ⟨action, obj, old⟩ := e
  cases action with
  | added =>
    cases List.mem_singleton.mp hb
    intro r hr
    obtain ⟨marked, publishable, sound⟩ := contribution_sound h r hr
    exact ⟨publishable, obj, Or.inl ⟨marked, rfl⟩, sound⟩
  | deleted =>
    cases List.mem_singleton.mp hb
    intro r hr
    obtain ⟨marked, publishable, sound⟩ := contribution_sound h r hr
    exact ⟨publishable, obj, Or.inr ⟨marked, rfl⟩, sound⟩
  | updated =>
    intro r hr
    rcases List.mem_cons.mp hb with rfl | hb
    · cases old with
      | none =>
        -- nothing is made of an old object that is missing
        cases h
        cases hr
      | some gone =>
        obtain ⟨marked, publishable, sound⟩ := contribution_sound h r hr
        exact ⟨publishable, gone, Or.inr ⟨marked, rfl⟩, sound⟩
    · cases List.mem_singleton.mp hb
      obtain ⟨marked, publishable, sound⟩ := contribution_sound h r hr
      exact ⟨publishable, obj, Or.inl ⟨marked, rfl⟩, sound⟩

theorem mem_putAll {stopped : Bool} {batches : List (Logged Fault (List Resource))} {r : Resource}
    (h : r ∈ (putAll stopped batches).1.resources) :
    ∃ batch ∈ batches, ∃ rs, batch.outcome = .ok rs ∧ r ∈ rs := by
  induction batches with
  | nil => cases h
  | cons batch rest ih =>
    unfold putAll at h
    cases hb : batch.outcome with
    | error f =>
      rw [hb] at h
      cases h
    | ok rs =>
      rw [hb] at h
      rcases List.mem_append.mp h with here | later
      · cases stopped with
        | true => cases here
        | false => exact ⟨batch, List.mem_cons_self, rs, hb, here⟩
      · obtain ⟨found, hf, made⟩ := ih later
        exact ⟨found, List.mem_cons_of_mem _ hf, made⟩

/-- What a run puts was put for one of the events that were delivered. -/
theorem mem_handleAll {a : Adapter} {opening : List LogLine} {ds : List Delivery} {r : Resource}
    (h : r ∈ (a.handleAll opening ds).resources) :
    ∃ stopped e, Delivery.event stopped e ∈ ds ∧ r ∈ (putAll stopped (a.batches e)).1.resources := by
  induction ds generalizing opening with
  | nil => cases h
  | cons d rest ih =>
    cases d with
    | failure cause => cases h
    | event stopped e =>
      have found : r ∈ (putAll stopped (a.batches e)).1.resources ∨ r ∈ (a.handleAll [] rest).resources := by
        unfold handleAll at h
        dsimp only at h
        split at h
        · exact Or.inl h
        split at h
        · exact Or.inl h
        · rwa [Run.resources, List.flatMap_cons, List.append_assoc, List.mem_append] at h
      rcases found with here | later
      · exact ⟨stopped, e, List.mem_cons_self, here⟩
      · obtain ⟨stopped, e, hd, hr⟩ := ih later
        exact ⟨stopped, e, List.mem_cons_of_mem _ hd, hr⟩

theorem run_sound {a : Adapter} {source : String} {ds : List Delivery} {r : Resource}
    (h : r ∈ (a.run source ds).resources) :
    Advertisable r ∧ ∃ stopped e obj, Delivery.event stopped e ∈ ds ∧ Asks e r.action obj ∧ a.Sound obj r := by
  obtain ⟨stopped, e, hd, hr⟩ := mem_handleAll h
  obtain ⟨batch, hb, rs, outcome, hr⟩ := mem_putAll hr
  obtain ⟨publishable, obj, asks, sound⟩ := batches_sound hb outcome r hr
  obtain ⟨named, addressed⟩ := Bool.and_eq_true_iff.mp publishable
  refine ⟨⟨asks.imp And.left And.left, ?_, sound.names, ?_, sound.addresses⟩, stopped, e, obj, hd, asks, sound⟩
  · simpa using named
  · simpa using addressed

end Adapter

end ClusterMdns
