import ClusterMdns.Proofs.Informer.Mirror
import ClusterMdns.Proofs.Publication.History
import ClusterMdns.Proofs.Record.Lines

/-! The published table beside the cache of the informer, whenever the informer calls its client and all that
it told of was dispatched. No record is stale. A record of a cached object can be missing, because records
are kept by what they say and not by who contributed them: then another object with the same record was
retracted since, and nothing published the record again. -/

namespace ClusterMdns

open Document Dns ClusterObject

/-- Among these objects a key and a version stand for one object. -/
def VersionsIdentify (objs : List Value) : Prop :=
  ∀ x ∈ objs, ∀ y ∈ objs, ∀ name v w, key x = .ok name → key y = .ok name →
    revision x = .ok v → revision y = .ok w → v.same w = true → x = y

theorem eq_agreement {objs : List Value} (h : VersionsIdentify objs) : Agreement (· ∈ objs) Eq :=
  agreement_eq fun x y hx hy => h x hx y hy

/-- The responder after an adapter was told of events and everything that it made of them was dispatched. -/
def Adapter.publish (a : Adapter) (source : String) (policy : RecordPolicy) (es : List MembershipEvent) :
    Except DispatchFailure Responder :=
  ({} : Responder).dispatchAll policy (a.run source (es.map (Delivery.event false))).resources

variable {a : Adapter} {policy : RecordPolicy} {source : String}

/-- What a call of the client finds: a history of events that fit, after which a consumer knows the cache. -/
structure InStep (es : List MembershipEvent) (cache : Table String Value) : Prop where
  faithful : Faithful Eq Known.nothing es
  knows : ∀ name, Known.nothing.replay es name = cache.find? name

theorem InStep.advertised {es : List MembershipEvent} {cache : Table String Value} (h : InStep es cache)
    {r : Responder} (hr : a.publish source policy es = .ok r) : advertise a policy es {} = .ok r := by
  rw [Adapter.publish, a.run_resources source h.faithful] at hr
  exact hr

/-- No record is stale. -/
theorem InStep.sound {es : List MembershipEvent} {cache : Table String Value} (h : InStep es cache)
    {r : Responder} (hr : a.publish source policy es = .ok r) :
    ∀ k ∈ r.table.keys, ∃ name obj, cache.find? name = some obj ∧ a.Contributes policy obj k := by
  intro k hk
  have nothing : Sound a policy Known.nothing {} := fun k hk => absurd hk List.not_mem_nil
  obtain ⟨name, obj, hn, hc⟩ :=
    sound_of_advertise h.faithful Responder.fresh_quiet nothing (h.advertised hr) k hk
  exact ⟨name, obj, h.knows name ▸ hn, hc⟩

/-- `d` retracted a record of an object that stands under another key, after `obj` was last published. -/
structure RetractedBy (a : Adapter) (policy : RecordPolicy) (es : List MembershipEvent) (name : String)
    (obj : Value) (k : RecordKey) (d : MembershipEvent) (back : List MembershipEvent) : Prop where
  since : ∃ front p mid, es = front ++ p :: (mid ++ d :: back) ∧ LastPublished name obj p (mid ++ d :: back)
  other : ∃ gone key, d.retracted? = some gone ∧ ClusterObject.key gone = .ok key ∧ key ≠ name ∧
    a.Contributes policy gone k

theorem InStep.missing_iff {es : List MembershipEvent} {cache : Table String Value} (h : InStep es cache)
    {r : Responder} (hr : a.publish source policy es = .ok r) {name : String} {obj : Value}
    (hc : cache.find? name = some obj) {k : RecordKey} (hk : a.Contributes policy obj k) :
    k ∉ r.table.keys ↔ ∃ d back, RetractedBy a policy es name obj k d back ∧
      ∀ e ∈ d :: back, ¬ e.Publishes a policy k := by
  rw [absent_iff Responder.fresh_quiet (h.advertised hr)]
  have hknown : Known.nothing.replay es name = some obj := (h.knows name).trans hc
  -- the cached object was published by some event, since nothing was known at first
  obtain ⟨front, p, after, split, hp⟩ :=
    (lastPublished_of_known hknown).resolve_left fun hn => absurd hn.1 nofun
  have publishes : p.Publishes a policy k := ⟨obj, hp.published, hk⟩
  constructor
  · rintro (⟨-, silent⟩ | ⟨rest, d, back, split', hd, silent⟩)
    · exact absurd publishes (silent p (split ▸ List.mem_append_right _ List.mem_cons_self))
    · rcases before_or_mem (split.symm.trans split') with ⟨mid, rfl⟩ | hmem
      · obtain ⟨gone, hgone, hcg⟩ := hd
        have fits := h.faithful.fits split'
        obtain ⟨other, hother⟩ := fits.key
        refine ⟨d, back, ⟨⟨front, p, mid, split, hp⟩, gone, other, hgone, ?_, ?_, hcg⟩, silent⟩
        · rw [fits.key_of_retracted hgone, hother]
        · exact fun heq => hp.last d (List.mem_append_right _ List.mem_cons_self) (heq ▸ hother)
      · exact absurd publishes (silent p hmem)
  · rintro ⟨d, back, ⟨⟨front, p, mid, split, -⟩, gone, -, hgone, -, -, hcg⟩, silent⟩
    refine Or.inr ⟨front ++ p :: mid, d, back, ?_, ⟨gone, hgone, hcg⟩, silent⟩
    rw [split, List.append_assoc, List.cons_append]

theorem inStep_of_call (resource : String) {before : List StreamInput} {input : StreamInput}
    (kinds : ∀ i ∈ before ++ [input], i.KindKnown)
    (ident : VersionsIdentify ((before ++ [input]).flatMap StreamInput.objects)) {front : List StreamOutput}
    {call : StreamOutput} {back : List StreamOutput}
    (split : (((EventStream.opened resource).run before).1.step input).2 = front ++ call :: back)
    (hcall : call.IsCall) :
    InStep (told (((EventStream.opened resource).run before).2 ++ front))
      (((EventStream.opened resource).run before).1.step input).1.informer.cache := by
  obtain ⟨faithful, mirrors⟩ := EventStream.calls_follow (eq_agreement ident) resource
    fun i hi => ⟨kinds i hi, fun obj ho => List.mem_flatMap.mpr ⟨i, hi, ho⟩⟩
  refine ⟨?_, mirrors_eq_iff.mp (mirrors front call back split hcall)⟩
  rw [split, ← List.append_assoc, told_append] at faithful
  exact (faithful_append.mp faithful).1

/-! ### The ingress that moves -/

theorem moving_identify :
    VersionsIdentify ((moving ++ [StreamInput.turn false]).flatMap StreamInput.objects) := by
  rw [moving_objects]
  have versions : (Value.str "2").same (.str "3") = false ∧ (Value.str "3").same (.str "2") = false := by
    rw [same_str, same_str]
    decide
  intro x hx y hy name v w hn hm hv hw same
  simp only [List.mem_cons, List.not_mem_nil, or_false] at hx hy
  rcases hx with rfl | rfl | rfl <;> rcases hy with rfl | rfl | rfl
  · rfl
  · exact absurd (hn.trans hm.symm) key_shop_ne.1
  · exact absurd (hn.trans hm.symm) key_shop_ne.2
  · exact absurd (hm.trans hn.symm) key_shop_ne.1
  · rfl
  · cases hv
    cases hw
    exact absurd (versions.1.symm.trans same) Bool.false_ne_true
  · exact absurd (hm.trans hn.symm) key_shop_ne.2
  · cases hv
    cases hw
    exact absurd (versions.2.symm.trans same) Bool.false_ne_true
  · rfl

theorem moving_told : told (((EventStream.opened "ingresses").run moving).2 ++ []) =
    [⟨.added, shop, none⟩, ⟨.added, copy, none⟩, ⟨.updated, movedCopy, some copy⟩] := rfl

/-- The resource of such an ingress. -/
def hostResource (name : String) (action : Action) : Resource :=
  ⟨.ingress, action, [name], .str "default", [.str "192.0.2.1"], false⟩

theorem moving_resources :
    (Adapter.ingresses.run "kubernetes/ingresses" ([⟨.added, shop, none⟩, ⟨.added, copy, none⟩,
      ⟨.updated, movedCopy, some copy⟩].map (Delivery.event false))).resources =
    [hostResource "shop" .added, hostResource "shop" .added, hostResource "shop" .deleted,
      hostResource "copy" .added] := rfl

theorem host_address (name : String) (action : Action) :
    List.Forall₂ ReadsV4 (hostResource name action).addresses [⟨192, 0, 2, 1⟩] :=
  .cons ⟨"192.0.2.1", rfl, by decide +kernel⟩ .nil

/-- Its lines, each of which is read as a record with its key. -/
theorem host_lines {name : String} (h : name = "shop" ∨ name = "copy") (action : Action) :
    ∃ lines, (({} : RecordPolicy).lines (hostResource name action)).outcome = .ok lines ∧
      ∀ l ∈ lines, ∀ k, Responder.Names l.text k ↔ k = l.key := by
  have label : HostLabel name := by
    rcases h with rfl | rfl <;> decide
  have fits : ∀ owner ∈ ({} : RecordPolicy).owners (hostResource name action), WellFormedName owner := by
    change ∀ owner ∈ ({} : RecordPolicy).owners (hostResource name .added), WellFormedName owner
    rcases h with rfl | rfl <;> decide
  have space : HostLabel "default" := by decide
  exact lines_named ⟨by decide, by decide⟩ (host_address name action) (List.cons_ne_nil _ _) rfl space
    (List.forall_mem_singleton.mpr label) fits

theorem moving_published :
    ∃ r, Adapter.ingresses.publish "kubernetes/ingresses" {}
      (told (((EventStream.opened "ingresses").run moving).2 ++ [])) = .ok r := by
  rw [moving_told, Adapter.publish, moving_resources]
  refine Responder.dispatchAll_accepted Responder.fresh_quiet fun res hres => ?_
  have host : ∃ name op action, (name = "shop" ∨ name = "copy") ∧ action.operation? = some op ∧
      res = hostResource name action := by
    simp only [List.mem_cons, List.not_mem_nil, or_false] at hres
    rcases hres with rfl | rfl | rfl | rfl
    · exact ⟨"shop", .publish, .added, Or.inl rfl, rfl, rfl⟩
    · exact ⟨"shop", .publish, .added, Or.inl rfl, rfl, rfl⟩
    · exact ⟨"shop", .unpublish, .deleted, Or.inl rfl, rfl, rfl⟩
    · exact ⟨"copy", .publish, .added, Or.inr rfl, rfl, rfl⟩
  obtain ⟨name, op, action, hn, hop, rfl⟩ := host
  obtain ⟨lines, made, named⟩ := host_lines hn action
  exact ⟨op, lines, hop, made, fun l hl => Responder.reads_of_named (named l hl)⟩

theorem writes_iff {name : String} (h : name = "shop" ∨ name = "copy") (k : RecordKey) :
    ({} : RecordPolicy).Writes (hostResource name .added) k ↔
      ∃ lines, (({} : RecordPolicy).lines (hostResource name .added)).outcome = .ok lines ∧
        ∃ l ∈ lines, k = l.key := by
  obtain ⟨lines, made, named⟩ := host_lines h .added
  constructor
  · rintro ⟨found, hl, l, hm, hk⟩
    cases made.symm.trans hl
    exact ⟨lines, made, l, hm, (named l hm k).mp hk⟩
  · rintro ⟨found, hl, l, hm, hk⟩
    cases made.symm.trans hl
    exact ⟨lines, made, l, hm, (named l hm k).mpr hk⟩

/-- A record that both ingresses contribute before one of them moves. -/
def shopRecord : RecordKey :=
  ⟨"shop.local.", 1, "192.0.2.1"⟩

theorem shop_contributes : Adapter.ingresses.Contributes {} shop shopRecord := by
  refine ⟨hostResource "shop" .added, List.mem_singleton_self _, (writes_iff (Or.inl rfl) _).mpr ?_⟩
  exact ⟨_, rfl, ⟨"shop.local.", 120, .a, "192.0.2.1"⟩, by decide +kernel, by decide⟩

theorem copy_contributes : Adapter.ingresses.Contributes {} copy shopRecord :=
  shop_contributes

theorem moved_not_contributes : ¬ Adapter.ingresses.Contributes {} movedCopy shopRecord := by
  rintro ⟨res, hres, hw⟩
  cases List.mem_singleton.mp hres
  obtain ⟨lines, made, l, hl, hk⟩ := (writes_iff (Or.inr rfl) _).mp hw
  obtain ⟨-, a, ha, owner, ho, hl⟩ := (RecordPolicy.mem_lines {} (host_address "copy" .added) made l).mp hl
  cases List.mem_singleton.mp ha
  have other : ∀ owner ∈ ({} : RecordPolicy).owners (hostResource "copy" .added),
      (({} : RecordPolicy).forward (.v4 ⟨192, 0, 2, 1⟩) owner).key ≠ shopRecord ∧
      (({} : RecordPolicy).backward (AddressV4.reverseName ⟨192, 0, 2, 1⟩) owner).key ≠ shopRecord := by
    decide
  rcases hl with rfl | rfl
  · exact (other owner ho).1 hk.symm
  · exact (other owner ho).2 hk.symm

/-! ### At every call -/

/-- At every call of the client no published record is stale. A record of a cached object is published, unless
another object retracted it after the cached one was last published. -/
theorem published_table_in_step (resource source : String) (a : Adapter) (policy : RecordPolicy)
    (before : List StreamInput) (input : StreamInput) (kinds : ∀ i ∈ before ++ [input], i.KindKnown)
    (ident : VersionsIdentify ((before ++ [input]).flatMap StreamInput.objects)) :
    let run := (EventStream.opened resource).run before
    let last := run.1.step input
    ∀ front call back, last.2 = front ++ call :: back → call.IsCall →
    ∀ r, a.publish source policy (told (run.2 ++ front)) = .ok r →
      (∀ k ∈ r.table.keys, ∃ name obj, last.1.informer.cache.find? name = some obj ∧
        a.Contributes policy obj k) ∧
      ∀ name obj k, last.1.informer.cache.find? name = some obj → a.Contributes policy obj k →
        k ∈ r.table.keys ∨ ∃ d back, RetractedBy a policy (told (run.2 ++ front)) name obj k d back := by
  intro run last front call back split hcall r hr
  have inStep := inStep_of_call resource kinds ident split hcall
  refine ⟨inStep.sound hr, fun name obj k hc hk => ?_⟩
  by_cases hm : k ∈ r.table.keys
  · exact Or.inl hm
  · obtain ⟨d, later, hd, -⟩ := (inStep.missing_iff hr hc hk).mp hm
    exact Or.inr ⟨d, later, hd⟩

theorem published_table_in_step_moving :
    let run := (EventStream.opened "ingresses").run moving
    let last := run.1.step (.turn false)
    (∀ i ∈ moving ++ [.turn false], i.KindKnown) ∧
    VersionsIdentify ((moving ++ [StreamInput.turn false]).flatMap StreamInput.objects) ∧
    last.1.informer.cache.find? "default/shop" = some shop ∧
    Adapter.ingresses.Contributes {} shop shopRecord ∧
    ∃ r, Adapter.ingresses.publish "kubernetes/ingresses" {} (told (run.2 ++ [])) = .ok r ∧
      (∀ k ∈ r.table.keys, ∃ name obj, last.1.informer.cache.find? name = some obj ∧
        Adapter.ingresses.Contributes {} obj k) ∧
      (shopRecord ∈ r.table.keys ∨ ∃ d back,
        RetractedBy .ingresses {} (told (run.2 ++ [])) "default/shop" shop shopRecord d back) := by
  intro run last
  obtain ⟨r, hr⟩ := moving_published
  obtain ⟨sound, present⟩ := published_table_in_step "ingresses" "kubernetes/ingresses" .ingresses {} moving
    (.turn false) moving_kinds moving_identify [] _ [] rfl trivial r hr
  exact ⟨moving_kinds, moving_identify, rfl, shop_contributes, r, hr, sound,
    present "default/shop" shop shopRecord rfl shop_contributes⟩

/-- Records are not counted. At every call of the client, a record of a cached object is missing exactly if
another object retracted it after the cached one was last published, and nothing published it again. -/
theorem missing_record_iff (resource source : String) (a : Adapter) (policy : RecordPolicy)
    (before : List StreamInput) (input : StreamInput) (kinds : ∀ i ∈ before ++ [input], i.KindKnown)
    (ident : VersionsIdentify ((before ++ [input]).flatMap StreamInput.objects)) :
    let run := (EventStream.opened resource).run before
    let last := run.1.step input
    ∀ front call back, last.2 = front ++ call :: back → call.IsCall →
    ∀ r, a.publish source policy (told (run.2 ++ front)) = .ok r →
    ∀ name obj k, last.1.informer.cache.find? name = some obj → a.Contributes policy obj k →
      (k ∉ r.table.keys ↔ ∃ d back, RetractedBy a policy (told (run.2 ++ front)) name obj k d back ∧
        ∀ e ∈ d :: back, ¬ e.Publishes a policy k) := by
  intro run last front call back split hcall r hr name obj k hc hk
  exact (inStep_of_call resource kinds ident split hcall).missing_iff hr hc hk

theorem missing_record_iff_moving :
    let run := (EventStream.opened "ingresses").run moving
    let last := run.1.step (.turn false)
    (∀ i ∈ moving ++ [.turn false], i.KindKnown) ∧
    VersionsIdentify ((moving ++ [StreamInput.turn false]).flatMap StreamInput.objects) ∧
    last.1.informer.cache.find? "default/shop" = some shop ∧
    Adapter.ingresses.Contributes {} shop shopRecord ∧
    ∃ r, Adapter.ingresses.publish "kubernetes/ingresses" {} (told (run.2 ++ [])) = .ok r ∧
      (shopRecord ∉ r.table.keys ↔ ∃ d back,
        RetractedBy .ingresses {} (told (run.2 ++ [])) "default/shop" shop shopRecord d back ∧
        ∀ e ∈ d :: back, ¬ e.Publishes .ingresses {} shopRecord) := by
  intro run last
  obtain ⟨r, hr⟩ := moving_published
  exact ⟨moving_kinds, moving_identify, rfl, shop_contributes, r, hr,
    missing_record_iff "ingresses" "kubernetes/ingresses" .ingresses {} moving (.turn false) moving_kinds
      moving_identify [] _ [] rfl trivial r hr "default/shop" shop shopRecord rfl shop_contributes⟩

/-- When the copy moves it takes a record with it that the ingress it was a copy of still contributes. -/
theorem moving_takes_shared_record :
    let run := (EventStream.opened "ingresses").run moving
    let last := run.1.step (.turn false)
    (∀ i ∈ moving ++ [.turn false], i.KindKnown) ∧
    VersionsIdentify ((moving ++ [StreamInput.turn false]).flatMap StreamInput.objects) ∧
    last.1.informer.cache.find? "default/shop" = some shop ∧
    Adapter.ingresses.Contributes {} shop shopRecord ∧
    ∃ r, Adapter.ingresses.publish "kubernetes/ingresses" {} (told (run.2 ++ [])) = .ok r ∧
      shopRecord ∉ r.table.keys := by
  intro run last
  obtain ⟨r, hr⟩ := moving_published
  have split : last.2 = [] ++ .watch (.str "3") :: [] := rfl
  have inStep := inStep_of_call "ingresses" moving_kinds moving_identify split trivial
  have cached : last.1.informer.cache.find? "default/shop" = some shop := rfl
  refine ⟨moving_kinds, moving_identify, rfl, shop_contributes, r, hr, ?_⟩
  have last_published : LastPublished "default/shop" shop ⟨.added, shop, none⟩
      [⟨.added, copy, none⟩, ⟨.updated, movedCopy, some copy⟩] := by
    refine ⟨rfl, key_shop, ?_⟩
    simp [key_copy, key_movedCopy]
  refine (inStep.missing_iff hr cached shop_contributes).mpr
    ⟨⟨.updated, movedCopy, some copy⟩, [], ⟨?_, ?_⟩, ?_⟩
  · exact ⟨[], ⟨.added, shop, none⟩, [⟨.added, copy, none⟩], rfl, last_published⟩
  · exact ⟨copy, "default/copy", rfl, key_copy, by decide, copy_contributes⟩
  · simp only [List.forall_mem_singleton]
    rintro ⟨obj, hobj, hc⟩
    cases hobj
    exact moved_not_contributes hc

end ClusterMdns
