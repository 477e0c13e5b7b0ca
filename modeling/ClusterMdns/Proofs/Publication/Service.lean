import ClusterMdns.Proofs.Publication.Dispatch
import ClusterMdns.Proofs.Record.Lines
import ClusterMdns.Adapter

/-! A load-balanced service as the cluster accepts it, on its way to the responder. Its name and its namespace
are labels, and so are checked; the label that joins both by a hyphen is not. A service is dispatched exactly
if that label is not too long, or if no address of its family is exposed. -/

namespace ClusterMdns

open Dns Document ClusterObject

/-- What a cluster takes as a name: 1 to 63 lower-case letters, digits and hyphens, with no hyphen at either
end. -/
structure ClusterLabel (s : String) : Prop where
  some_char : 1 ≤ s.length
  short : s.length ≤ 63
  chars : ∀ c ∈ s.toList, (('0' <= c && c <= '9') || ('a' <= c && c <= 'z') || c == '-') = true
  first : s.toList.head? ≠ some '-'
  last : s.toList.getLast? ≠ some '-'

/-- A load-balanced service without annotations. -/
structure LoadBalanced (obj : Value) (name space : String) (ips : List Value) : Prop where
  kind : ∃ spec, obj.section? "spec" = .ok spec ∧ spec.get "type" = .ok (.str "LoadBalancer")
  header : ∃ header, metadata obj = .ok header ∧ header.get "name" = .ok (.str name) ∧
    header.get "namespace" = .ok (.str space) ∧ header.section? "annotations" = .ok (.dict [])
  addresses : loadBalancerAddresses obj = .ok ips

/-- The resource that is made of it. -/
def serviceResource (name space : String) (ips : List Value) : Resource :=
  ⟨.service, .added, [name], .str space, ips, false⟩

/-! ### The resource -/

namespace ClusterLabel

variable {s : String}

theorem of_checks (length : 1 ≤ s.length ∧ s.length ≤ 63)
    (chars : s.toList.all (fun c => ('0' <= c && c <= '9') || ('a' <= c && c <= 'z') || c == '-') = true)
    (ends : s.toList.head? ≠ some '-' ∧ s.toList.getLast? ≠ some '-') : ClusterLabel s :=
  ⟨length.1, length.2, List.all_eq_true.mp chars, ends.1, ends.2⟩

theorem ne_nil (h : ClusterLabel s) : s.toList ≠ [] := by
  intro hs
  have := h.some_char
  rw [← String.length_toList, hs] at this
  exact absurd this (by decide)

theorem host (h : ClusterLabel s) : HostLabel s := by
  refine ⟨h.ne_nil, fun c hc => ?_⟩
  have := h.chars c hc
  simp only [Bool.or_eq_true] at this
  simp only [isHostChar, Bool.or_eq_true]
  exact this.imp_left Or.inl

theorem truthy (h : ClusterLabel s) : (Value.str s).truthy = true := by
  have some_text : s ≠ "" := by
    rintro rfl
    exact h.ne_nil rfl
  exact bne_iff_ne.mpr some_text

/-- It passes as a name that can be advertised. -/
theorem validate (h : ClusterLabel s) : Hostname.validate s = .ok s := by
  -- the whole text is one label, since it holds no dot and ends no line
  have plain : ∀ c ∈ s.toList, c ≠ '-' → Hostname.isAlphanumeric c = true := by
    intro c hc hne
    have := h.chars c hc
    rw [beq_eq_false_iff_ne.mpr hne, Bool.or_false] at this
    simp only [Hostname.isAlphanumeric, this, Bool.true_or]
  have no_dot : ∀ c ∈ s.toList, (c == '.') = false := fun c hc =>
    beq_eq_false_iff_ne.mpr (ne_of_isHostChar (h.host.2 c hc) rfl)
  have one : Text.splitOn '.' s = [s] := by
    rw [Text.splitOn, Text.splitChars_single no_dot, List.map_singleton, String.ofList_toList]
  have whole : Hostname.withoutLineEnd s.toList = s.toList := by
    refine if_neg fun hl => ?_
    have mem := List.mem_of_getLast? (beq_iff_eq.mp hl)
    exact absurd (h.host.2 _ mem) (by decide)
  have label : Hostname.isLabel s.toList = true := by
    have head : s.toList.head?.any Hostname.isAlphanumeric = true := by
      obtain ⟨c, cs, hs⟩ := List.exists_cons_of_ne_nil h.ne_nil
      have first := h.first
      rw [hs] at first ⊢
      exact plain c (hs ▸ List.mem_cons_self) fun hc => first (congrArg some hc)
    have tail : s.toList.getLast?.any Hostname.isAlphanumeric = true := by
      have last := h.last
      rw [List.getLast?_eq_some_getLast h.ne_nil] at last ⊢
      exact plain _ (List.getLast_mem h.ne_nil) fun hc => last (congrArg some hc)
    have short : s.toList.length ≤ 63 := by
      rw [String.length_toList]
      exact h.short
    have chars : s.toList.all (fun c => Hostname.isAlphanumeric c || c == '-') = true := by
      refine List.all_eq_true.mpr fun c hc => ?_
      by_cases hne : c = '-'
      · simp [hne]
      · simp [plain c hc hne]
    simp only [Hostname.isLabel, whole, chars, head, tail, short, decide_true, Bool.and_self]
  simp only [Hostname.validate, one, Hostname.checkLabels, label, if_true]
  rfl

end ClusterLabel

theorem buildService_of_loadBalanced {obj : Value} {name space : String} {ips : List Value}
    (service : LoadBalanced obj name space ips) (hn : ClusterLabel name) (hs : ClusterLabel space)
    (hne : ips ≠ []) (internal : Bool) :
    (Adapter.buildService internal obj .added).outcome = .ok [serviceResource name space ips] := by
  obtain ⟨spec, hspec, htype⟩ := service.kind
  obtain ⟨header, hheader, hname, hspace, hann⟩ := service.header
  have addresses : Adapter.serviceAddresses internal obj = .ok ips := by
    simp only [Adapter.serviceAddresses, hspec, htype, bind, Except.bind]
    exact service.addresses
  have wanted : Adapter.wantedNames header (.dict []) = .ok [name] := by
    have unnamed : (Value.dict []).get hostnameAnnotation = .ok .null := rfl
    simp only [Adapter.wantedNames, unnamed, bind, Except.bind, hname, hn.truthy]
    rfl
  have names : (Adapter.validNames obj [name]).outcome = .ok [name] := by
    have some_text : (name == "") = false := Bool.eq_false_of_not_eq_true fun h => by
      have := hn.truthy
      rw [beq_iff_eq.mp h] at this
      cases this
    simp only [Adapter.validNames, some_text, hn.validate]
    rfl
  have some_address : ips.isEmpty = false := by simpa using hne
  have bare : (Value.dict []).get bareNamesAnnotation = .ok .null := rfl
  unfold Adapter.buildService
  simp only [Logged.outcome_bind, Logged.outcome_lift, ok_bind, hheader, addresses, some_address,
    Bool.false_eq_true, if_false, hann, wanted, names, hspace, bare, Value.orElse_of_truthy hs.truthy]
  rfl

/-! ### Its names -/

section
variable {name space : String} {ips : List Value}

/-- The name and the namespace fit into one label with a hyphen between them. -/
def JoinedFits (name space : String) : Prop :=
  name.length + 1 + space.length ≤ 63

theorem isLabel_iff {cs : List Char} : Name.isLabel cs = true ↔ 1 ≤ cs.length ∧ cs.length ≤ 63 := by
  simp only [Name.isLabel, Bool.and_eq_true, decide_eq_true_eq]
  omega

theorem ClusterLabel.isLabel {s : String} (h : ClusterLabel s) : Name.isLabel s.toList = true := by
  rw [isLabel_iff, String.length_toList]
  exact ⟨h.some_char, h.short⟩

/-- Of the names that a service gets only the hyphenated one can be too long. -/
theorem service_owners_wellFormed (hn : ClusterLabel name) (hs : ClusterLabel space)
    (policy : RecordPolicy) :
    (∀ owner ∈ policy.owners (serviceResource name space ips), WellFormedName owner) ↔
      JoinedFits name space := by
  have spelled : Spells ([] ++ [name.toList]) (name ++ ".") := hn.host.spells
  have local_label : Name.isLabel "local".toList = true := by decide
  have hyphenated : WellFormedName ((serviceResource name space ips).hyphenatedName name) ↔
      JoinedFits name space := by
    rw [wellFormedName_iff (spells_hyphenated rfl hs.host spelled)]
    simp only [List.nil_append, List.singleton_append, List.all_cons, List.all_nil, local_label,
      Bool.and_true, isLabel_iff, List.length_append, List.length_cons, String.length_toList, JoinedFits]
    omega
  constructor
  · intro all
    exact hyphenated.mp (all _ (mem_owners.mpr ⟨name, List.mem_singleton_self _, Or.inr (Or.inl rfl)⟩))
  · intro fits owner ho
    obtain ⟨found, hf, ho⟩ := mem_owners.mp ho
    cases List.mem_singleton.mp hf
    rcases ho with rfl | rfl | ⟨-, rfl⟩
    · rw [wellFormedName_iff (spells_dotted rfl hs.host spelled)]
      simp only [List.cons_append, List.nil_append, List.all_cons, List.all_nil, hn.isLabel, hs.isLabel,
        local_label, Bool.and_self]
    · exact hyphenated.mpr fits
    · rw [wellFormedName_iff (spells_bare spelled)]
      simp only [List.cons_append, List.nil_append, List.all_cons, List.all_nil, hn.isLabel, local_label,
        Bool.and_self]

/-- All lines of a service can be written, and they are well formed if the joined label fits or if nothing is
exposed. -/
theorem service_lines (hn : ClusterLabel name) (hs : ClusterLabel space) {addresses : List AddressV4}
    (read : List.Forall₂ ReadsV4 ips addresses) (hne : ips ≠ []) (policy : RecordPolicy)
    (ttl : policy.TtlFits) :
    ∃ lines, (policy.lines (serviceResource name space ips)).outcome = .ok lines ∧
      (∀ l ∈ lines, l.Written) ∧
      ((∀ l ∈ lines, l.WellFormed) ↔ policy.exposeV4 = false ∨ JoinedFits name space) := by
  have made := policy.lines_outcome (r := serviceResource name space ips) read
  have some_address : addresses ≠ [] := by
    rintro rfl
    cases read
    exact hne rfl
  have spelled := owners_spelled (r := serviceResource name space ips) policy rfl hs.host
    fun n h => List.mem_singleton.mp h ▸ ⟨_, hn.host.spells⟩
  exact ⟨_, made, lines_written ttl read spelled made, (wellFormed_lines_iff read some_address made).trans
    (or_congr_right (service_owners_wellFormed hn hs policy))⟩

/-! ### Its dispatch -/

/-- A service that the cluster accepts makes one resource. All its lines are well formed exactly if its name
and its namespace fit into one label, or if nothing is exposed; then a publisher that takes all well-formed
lines takes it, and else the responder refuses it. -/
theorem service_dispatched_iff {obj : Value} {addresses : List AddressV4}
    (service : LoadBalanced obj name space ips) (hn : ClusterLabel name) (hs : ClusterLabel space)
    (read : List.Forall₂ ReadsV4 ips addresses) (hne : ips ≠ []) (internal : Bool) (policy : RecordPolicy)
    (ttl : 0 ≤ policy.ttl ∧ policy.ttl ≤ 2147483647) :
    let fits := policy.exposeV4 = false ∨ name.length + 1 + space.length ≤ 63
    ∃ r lines, ((Adapter.services internal).build obj .added).outcome = .ok [r] ∧
      r.publishable = true ∧ (policy.lines r).outcome = .ok lines ∧
      ((∀ l ∈ lines, l.WellFormed) ↔ fits) ∧
      (fits → ∀ (σ : Type) (p : Publisher σ),
        (∀ l : RecordLine, l.WellFormed → ∀ op s, (p.call op l.text s).2.outcome = .ok ()) →
        ∀ action s, (p.dispatch policy (r.withAction action) s).2.outcome = .ok ()) ∧
      ∀ action op, action.operation? = some op → ∀ responder : Responder, responder.Quiet →
        (fits → (Responder.publisher.dispatch policy (r.withAction action) responder).2.outcome = .ok ()) ∧
        (¬ fits → ∃ e, (Responder.publisher.dispatch policy (r.withAction action) responder).2.outcome =
          .error (.refused e)) := by
  intro fits
  have ttlFits : policy.TtlFits := ⟨ttl.1, Int.le_trans ttl.2 (by decide)⟩
  obtain ⟨lines, made, written, wellFormed⟩ := service_lines hn hs read hne policy ttlFits
  have marked (action : Action) :
      (policy.lines ((serviceResource name space ips).withAction action)).outcome = .ok lines := by
    rw [policy.lines_withAction, made]
  have publishable : (serviceResource name space ips).publishable = true := by
    simp [Resource.publishable, serviceResource, hne]
  refine ⟨_, lines, buildService_of_loadBalanced service hn hs hne internal, publishable, made, wellFormed,
    ?_, ?_⟩
  · intro hf σ p takes action s
    exact p.dispatch_accepts (marked action) (fun op l hl => takes l (wellFormed.mpr hf l hl) op) s
  · intro action op hop responder quiet
    have reads : (∀ l ∈ lines, Responder.Reads l.text) ↔ fits :=
      (forall₂_congr fun l hl => Responder.reads_iff (written l hl)).trans wellFormed
    have accepted := Responder.dispatch_accepted quiet hop (marked action)
    refine ⟨fun hf => accepted.mpr (reads.mpr hf), fun hf => ?_⟩
    exact Responder.publisher.dispatch_refused (marked action) fun done => hf (reads.mp (accepted.mp done))

end

/-! ### Two services -/

/-- A load-balanced service under one address. -/
def serviceOf (name space : String) : Value :=
  .dict [
    (.str "metadata", .dict [(.str "namespace", .str space), (.str "name", .str name)]),
    (.str "spec", .dict [(.str "type", .str "LoadBalancer")]),
    (.str "status", .dict [(.str "loadBalancer", .dict [(.str "ingress",
      .list [.dict [(.str "ip", .str "192.0.2.7")]])])])]

theorem loadBalanced_serviceOf (name space : String) :
    LoadBalanced (serviceOf name space) name space [.str "192.0.2.7"] :=
  ⟨⟨_, rfl, rfl⟩, ⟨_, rfl, rfl, rfl, rfl⟩, rfl⟩

theorem service_address : List.Forall₂ ReadsV4 [.str "192.0.2.7"] [⟨192, 0, 2, 7⟩] :=
  .cons ⟨"192.0.2.7", rfl, by decide +kernel⟩ .nil

theorem service_dispatched_iff_web :
    LoadBalanced (serviceOf "web" "default") "web" "default" [.str "192.0.2.7"] ∧
    ClusterLabel "web" ∧ ClusterLabel "default" ∧
    List.Forall₂ ReadsV4 [.str "192.0.2.7"] [⟨192, 0, 2, 7⟩] ∧
    ∃ r lines, ((Adapter.services false).build (serviceOf "web" "default") .added).outcome = .ok [r] ∧
      (({} : RecordPolicy).lines r).outcome = .ok lines ∧ (∀ l ∈ lines, l.WellFormed) ∧
      (Responder.publisher.dispatch {} (r.withAction .added) {}).2.outcome = .ok () := by
  have web : ClusterLabel "web" := .of_checks (by decide) (by decide) (by decide)
  have space : ClusterLabel "default" := .of_checks (by decide) (by decide) (by decide)
  obtain ⟨r, lines, built, -, made, wellFormed, -, accepted⟩ := service_dispatched_iff
    (loadBalanced_serviceOf "web" "default") web space service_address (List.cons_ne_nil _ _) false {}
    ⟨by decide, by decide⟩
  have fits : ({} : RecordPolicy).exposeV4 = false ∨ "web".length + 1 + "default".length ≤ 63 :=
    Or.inr (by decide)
  exact ⟨loadBalanced_serviceOf "web" "default", web, space, service_address, r, lines, built, made,
    wellFormed.mpr fits, (accepted .added .publish rfl {} Responder.fresh_quiet).1 fits⟩

/-- Name and namespace of this service are labels, but its hyphenated name is none. -/
theorem long_service_refused :
    let name := "kube-prometheus-stack-alertmanager"
    let space := "observability-platform-production"
    LoadBalanced (serviceOf name space) name space [.str "192.0.2.7"] ∧
    ClusterLabel name ∧ ClusterLabel space ∧
    List.Forall₂ ReadsV4 [.str "192.0.2.7"] [⟨192, 0, 2, 7⟩] ∧
    ∃ r lines, ((Adapter.services false).build (serviceOf name space) .added).outcome = .ok [r] ∧
      (({} : RecordPolicy).lines r).outcome = .ok lines ∧ ¬ (∀ l ∈ lines, l.WellFormed) ∧
      ∃ e, (Responder.publisher.dispatch {} r {}).2.outcome = .error (.refused e) := by
  intro name space
  have hn : ClusterLabel name := .of_checks (by decide) (by decide) (by decide)
  have hs : ClusterLabel space := .of_checks (by decide) (by decide) (by decide)
  have some_address : [Value.str "192.0.2.7"] ≠ [] := List.cons_ne_nil _ _
  obtain ⟨lines, made, written, wellFormed⟩ :=
    service_lines hn hs service_address some_address {} ⟨by decide, by decide⟩
  have bad : ¬ ∀ l ∈ lines, l.WellFormed := by
    rw [wellFormed]
    rintro (hidden | fits)
    · cases hidden
    · exact absurd fits (by unfold JoinedFits; decide)
  refine ⟨loadBalanced_serviceOf name space, hn, hs, service_address, _, lines,
    buildService_of_loadBalanced (loadBalanced_serviceOf name space) hn hs some_address false, made, bad, ?_⟩
  refine Responder.publisher.dispatch_refused made fun done => bad fun l hl => ?_
  exact (Responder.reads_iff (written l hl)).mp
    ((Responder.dispatch_accepted Responder.fresh_quiet rfl made).mp done l hl)

end ClusterMdns
