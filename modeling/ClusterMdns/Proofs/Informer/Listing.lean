import ClusterMdns.Proofs.Informer.Unknown

/-! What an informer says of a listing. It compares what is listed with what it has, key by key, and tells of every
difference once: first what is new or changed, as it is listed, then what is gone, as it was cached. Afterwards it
has what is listed, and the same listing again tells of nothing. -/

namespace ClusterMdns

open Document ClusterObject

/-- Only the text itself is the same as a text. -/
theorem same_str_iff {v : Value} {s : String} : v.same (.str s) = true ↔ v = .str s := by
  cases v with
  | scalar a =>
    cases a with
    | str t => rw [same_str, decide_eq_true_eq, Value.scalar.injEq, Scalar.str.injEq]
    | _ => simp [Value.same, Scalar.same, Scalar.number?]
  | _ => simp [Value.same]

namespace Informer

variable {i : Informer} {cache fresh : Table String Value} {name : String} {obj : Value}

/-- A difference between what is cached and what is listed; of several objects listed under one key the last
counts. -/
inductive RealChange (cache : Table String Value) (listed : List (String × Value)) : MembershipEvent → Prop
  | added {name : String} {obj : Value} (now : Table.last? name listed = some obj)
      (before : cache.find? name = none) : RealChange cache listed ⟨.added, obj, none⟩
  | updated {name : String} {obj old : Value} (now : Table.last? name listed = some obj)
      (before : cache.find? name = some old) (differ : revision old ≠ revision obj) :
      RealChange cache listed ⟨.updated, obj, some old⟩
  | deleted {name : String} {old : Value} (now : name ∉ listed.map (·.1))
      (before : cache.find? name = some old) : RealChange cache listed ⟨.deleted, old, none⟩

/-! ### What is new -/

/-- What is said of an object that is listed under a key. -/
theorem change_eq_some_iff {old : Option Value} (versioned : Versioned obj) (hn : key obj = .ok name)
    (kept : ∀ before ∈ old, ∃ other, key before = .ok other) {e : MembershipEvent} :
    change old obj = .ok (some e) ↔
      (old = none ∧ e = ⟨.added, obj, none⟩) ∨
      ∃ before, old = some before ∧ revision before ≠ revision obj ∧ e = ⟨.updated, obj, some before⟩ := by
  obtain ⟨w, hw⟩ := revision_of_key hn
  obtain ⟨s, rfl⟩ := versioned w hw
  cases old with
  | none => simp [change, pure, Except.pure, eq_comm]
  | some before =>
    obtain ⟨other, ho⟩ := kept before rfl
    obtain ⟨v, hv⟩ := revision_of_key ho
    have compared : change (some before) obj =
        if v.same (.str s) then .ok none else .ok (some ⟨.updated, obj, some before⟩) := by
      simp only [change, hv, hw, ok_bind]
      rfl
    have differ : revision before ≠ revision obj ↔ v.same (.str s) ≠ true := by
      rw [hv, hw, Ne, Except.ok.injEq, ← same_str_iff]
    rw [compared]
    split_ifs with same
    · simp [differ, same]
    · simp [differ.mpr same, eq_comm (a := e)]

/-- The events of an object that is listed come in its place. -/
theorem mem_additions {entries : Table String Value} {es : List MembershipEvent}
    (h : additions cache entries = .ok es) {e : MembershipEvent} :
    e ∈ es ↔ ∃ d ∈ entries, change (cache.find? d.1) d.2 = .ok (some e) := by
  induction entries generalizing es with
  | nil =>
    cases h
    simp
  | cons d rest ih =>
    obtain ⟨name, obj⟩ := d
    rw [additions_cons] at h
    obtain ⟨here, hc, h⟩ := bind_eq_ok.mp h
    obtain ⟨more, hm, h⟩ := bind_eq_ok.mp h
    cases h
    simp only [List.mem_append, ih hm, List.mem_cons, exists_eq_or_imp, hc, Except.ok.injEq, Option.mem_toList]

theorem additions_keys {entries : Table String Value} (listed : ∀ d ∈ entries, key d.2 = .ok d.1)
    {es : List MembershipEvent} (h : additions cache entries = .ok es) :
    (es.map fun e => key e.obj).Sublist (entries.keys.map .ok) := by
  induction entries generalizing es with
  | nil =>
    cases h
    exact List.Sublist.slnil
  | cons d rest ih =>
    obtain ⟨name, obj⟩ := d
    obtain ⟨hn, later⟩ := List.forall_mem_cons.mp listed
    rw [additions_cons] at h
    obtain ⟨here, hc, h⟩ := bind_eq_ok.mp h
    obtain ⟨more, hm, h⟩ := bind_eq_ok.mp h
    cases h
    cases here with
    | none => exact (ih later hm).cons _
    | some e =>
      have here : key e.obj = .ok name := (key_of_change hc).trans hn
      rw [Option.toList_some, List.singleton_append, List.map_cons, here]
      exact (ih later hm).cons_cons _

/-! ### What is gone -/

theorem mem_removals (nodup : cache.keys.Nodup) {e : MembershipEvent} :
    e ∈ removals cache fresh ↔
      ∃ name old, cache.find? name = some old ∧ name ∉ fresh.keys ∧ e = ⟨.deleted, old, none⟩ := by
  constructor
  · intro h
    obtain ⟨⟨name, old⟩, hd, gone⟩ := List.mem_filterMap.mp h
    dsimp only at gone
    split at gone
    · cases gone
    · rename_i unlisted
      cases gone
      exact ⟨name, old, Table.find?_of_mem nodup hd, mt Table.contains_iff.mpr unlisted, rfl⟩
  · rintro ⟨name, old, cached, unlisted, rfl⟩
    refine List.mem_filterMap.mpr ⟨(name, old), Table.mem_of_find? cached, ?_⟩
    exact if_neg (mt Table.contains_iff.mp unlisted)

theorem removals_keys (kept : ∀ e ∈ cache, key e.2 = .ok e.1) :
    ((removals cache fresh).map fun e => key e.obj).Sublist (cache.keys.map .ok) := by
  induction cache with
  | nil => exact List.Sublist.slnil
  | cons e rest ih =>
    obtain ⟨name, old⟩ := e
    obtain ⟨hn, later⟩ := List.forall_mem_cons.mp kept
    by_cases listed : name ∈ fresh.keys
    · rw [removals_of_listed listed]
      exact (ih later).cons _
    · rw [removals_of_unlisted listed, List.map_cons, hn]
      exact (ih later).cons_cons _

/-! ### A listing -/

/-- The items of a listing with their keys, in order. The version of each is a text or absent. -/
structure Listing (items : Value) (listed : List (String × Value)) : Prop where
  elements : items.elements = .ok (listed.map (·.2))
  key : ∀ e ∈ listed, ClusterObject.key e.2 = .ok e.1
  versioned : ∀ e ∈ listed, Versioned e.2

/-- What an informer tells of a listing: every difference once, those that are listed in the order in which their
keys come first, and then the others in the order of the cache. -/
structure Report (cache : Table String Value) (listed : List (String × Value)) (news gone : List MembershipEvent) :
    Prop where
  changes : ∀ e, e ∈ news ++ gone ↔ RealChange cache listed e
  once : ((news ++ gone).map fun e => key e.obj).Nodup
  standing : ∀ e ∈ news, e.action ≠ .deleted
  deleted : ∀ e ∈ gone, e.action = .deleted
  listedOrder : (news.map fun e => key e.obj).Sublist ((listed.map (·.1)).eraseDups.map .ok)
  cachedOrder : (gone.map fun e => key e.obj).Sublist (cache.keys.map .ok)

variable {items : Value} {listed : List (String × Value)} {news : List MembershipEvent}

theorem Listing.keyed (h : Listing items listed) : keyed items = .ok (Table.ofList listed) := by
  have entries : (listed.map (·.2)).mapM (fun obj => do pure (← ClusterObject.key obj, obj)) =
      (Except.ok listed : Except Fault (List (String × Value))) := by
    rw [List.mapM_map, mapM_of_forall (g := id), List.map_id]
    intro e he
    change (ClusterObject.key e.2 >>= fun name => pure (name, e.2)) = _
    rw [h.key e he]
    rfl
  rw [Informer.keyed, h.elements, ok_bind, entries]
  rfl

/-- The last item of a key stands for it. -/
theorem Listing.last (h : Listing items listed) (now : Table.last? name listed = some obj) :
    ClusterObject.key obj = .ok name ∧ Versioned obj := by
  rw [← Table.find?_ofList_last] at now
  have item := Table.mem_of_mem_ofList (Table.mem_of_find? now)
  exact ⟨h.key _ item, h.versioned _ item⟩

theorem mem_news (h : Listing items listed) (tidy : Kept (fun _ => True) cache)
    (added : additions cache (Table.ofList listed) = .ok news) {e : MembershipEvent} :
    e ∈ news ↔ RealChange cache listed e ∧ e.action ≠ .deleted := by
  have kept : ∀ name, ∀ before ∈ cache.find? name, ∃ other, key before = .ok other :=
    fun name before hb => ⟨name, tidy.key _ (Table.mem_of_find? hb)⟩
  rw [mem_additions added]
  constructor
  · rintro ⟨⟨name, obj⟩, hd, hc⟩
    have now := (Table.find?_ofList_last listed name).symm.trans
      (Table.find?_of_mem (Table.nodup_ofList listed) hd)
    obtain ⟨hn, versioned⟩ := h.last now
    rcases (change_eq_some_iff versioned hn (kept name)).mp hc with ⟨before, rfl⟩ | ⟨old, before, differ, rfl⟩
    · exact ⟨.added now before, nofun⟩
    · exact ⟨.updated now before differ, nofun⟩
  · rintro ⟨change, alive⟩
    have entry : ∀ {name obj}, Table.last? name listed = some obj → (name, obj) ∈ Table.ofList listed :=
      fun now => Table.mem_of_find? ((Table.find?_ofList_last ..).trans now)
    cases change with
    | @added name obj now before =>
      obtain ⟨hn, versioned⟩ := h.last now
      exact ⟨_, entry now, (change_eq_some_iff versioned hn (kept name)).mpr (Or.inl ⟨before, rfl⟩)⟩
    | @updated name obj old now before differ =>
      obtain ⟨hn, versioned⟩ := h.last now
      refine ⟨_, entry now, (change_eq_some_iff versioned hn (kept name)).mpr (Or.inr ?_)⟩
      exact ⟨old, before, differ, rfl⟩
    | deleted now before => exact absurd rfl alive

theorem mem_gone (tidy : Kept (fun _ => True) cache) {e : MembershipEvent} :
    e ∈ removals cache (Table.ofList listed) ↔ RealChange cache listed e ∧ e.action = .deleted := by
  rw [mem_removals tidy.nodup]
  constructor
  · rintro ⟨name, old, before, unlisted, rfl⟩
    exact ⟨.deleted (mt Table.mem_keys_ofList.mpr unlisted) before, rfl⟩
  · rintro ⟨change, dead⟩
    cases change with
    | added _ _ => cases dead
    | updated _ _ _ => cases dead
    | deleted now before => exact ⟨_, _, before, mt Table.mem_keys_ofList.mp now, rfl⟩

theorem report (h : Listing items listed) (tidy : Kept (fun _ => True) cache)
    (added : additions cache (Table.ofList listed) = .ok news) :
    Report cache listed news (removals cache (Table.ofList listed)) := by
  have entries : ∀ e ∈ Table.ofList listed, key e.2 = .ok e.1 := fun e he => h.key e (Table.mem_of_mem_ofList he)
  have listedOrder := additions_keys entries added
  have cachedOrder : ((removals cache (Table.ofList listed)).map fun e => key e.obj).Sublist (cache.keys.map .ok) :=
    removals_keys tidy.key
  have inj : Function.Injective (Except.ok (ε := Fault) (α := String)) := fun _ _ => Except.ok.inj
  refine ⟨fun e => ?_, ?_, fun e he => ((mem_news h tidy added).mp he).2, fun e he => ((mem_gone tidy).mp he).2,
    Table.keys_ofList listed ▸ listedOrder, cachedOrder⟩
  · rw [List.mem_append, mem_news h tidy added, mem_gone tidy, ← and_or_left]
    exact and_iff_left (ne_or_eq _ _)
  · rw [List.map_append]
    refine List.nodup_append.mpr ⟨((Table.nodup_ofList listed).map inj).sublist listedOrder,
      (tidy.nodup.map inj).sublist cachedOrder, ?_⟩
    -- what is gone is not listed
    intro here hh there ht same
    obtain ⟨name, hn, rfl⟩ := List.mem_map.mp (listedOrder.subset hh)
    obtain ⟨e, he, rfl⟩ := List.mem_map.mp ht
    obtain ⟨other, old, cached, unlisted, rfl⟩ := (mem_removals tidy.nodup).mp he
    cases same.trans (tidy.key _ (Table.mem_of_find? cached))
    exact unlisted hn

theorem relist_report (h : Listing items listed) (tidy : Tidy i) (version : Value) :
    (i.relist items version).1.cache = Table.ofList listed ∧
      ∃ news gone, (i.relist items version).2.outcome = .ok (news ++ gone) ∧ Report i.cache listed news gone := by
  obtain ⟨news, added⟩ := additions_ok tidy fun e he => h.key e (Table.mem_of_mem_ofList he)
  obtain ⟨next, outcome⟩ := relist_eq h.keyed added version
  exact ⟨congrArg Informer.cache next, news, _, outcome, report h tidy added⟩

/-- What is listed already is no difference. -/
theorem not_realChange (same : ∀ name, cache.find? name = Table.last? name listed) (e : MembershipEvent) :
    ¬ RealChange cache listed e := by
  rintro (⟨now, before⟩ | ⟨now, before, differ⟩ | ⟨unlisted, before⟩)
  · cases now.symm.trans ((same _).symm.trans before)
  · cases now.symm.trans ((same _).symm.trans before)
    exact differ rfl
  · rw [same, ← Table.find?_ofList_last, Table.find?_eq_none_iff.mpr (mt Table.mem_keys_ofList.mp unlisted)] at before
    cases before

/-- A listing is told of as exactly what it changes. Afterwards the cache has the listed keys where they came
first, each with its last object, and the same listing tells of nothing. -/
theorem relist_reports_changes {resource : String} (reachable : Reachable resource i) (h : Listing items listed)
    (version : Value) :
    let next := (i.relist items version).1
    (∃ news gone, (i.relist items version).2.outcome = .ok (news ++ gone) ∧ Report i.cache listed news gone) ∧
      next.cache.keys = (listed.map (·.1)).eraseDups ∧
      (∀ name, next.cache.find? name = Table.last? name listed) ∧
      ∀ again, (next.relist items again).2.outcome = .ok [] := by
  intro next
  obtain ⟨cached, reported⟩ := relist_report h reachable.tidy version
  have found : ∀ name, next.cache.find? name = Table.last? name listed := by
    intro name
    rw [cached, Table.find?_ofList_last]
  refine ⟨reported, by rw [cached, Table.keys_ofList], found, fun again => ?_⟩
  obtain ⟨-, news, gone, outcome, report⟩ := relist_report h (reachable.relisted items version).tidy again
  have silent : news ++ gone = [] :=
    List.eq_nil_iff_forall_not_mem.mpr fun e he => not_realChange found e ((report.changes e).mp he)
  rw [outcome, silent]

/-- Two ingresses are known. A listing names only the copy, first as it was and then as it has moved. -/
theorem relist_reports_changes_moving :
    let i := (({ resource := "ingresses" } : Informer).relist (.list [shop, copy]) (.str "2")).1
    let items : Value := .list [copy, movedCopy]
    let listed := [("default/copy", copy), ("default/copy", movedCopy)]
    Reachable "ingresses" i ∧ Listing items listed ∧
    (i.relist items (.str "3")).2.outcome = .ok [⟨.updated, movedCopy, some copy⟩, ⟨.deleted, shop, none⟩] ∧
    RealChange i.cache listed ⟨.updated, movedCopy, some copy⟩ ∧
    RealChange i.cache listed ⟨.deleted, shop, none⟩ ∧
    (i.relist items (.str "3")).1.cache.find? "default/copy" = some movedCopy ∧
    ((i.relist items (.str "3")).1.relist items (.str "3")).2.outcome = .ok [] := by
  intro i items listed
  have reachable : Reachable "ingresses" i := .relisted _ _ .fresh
  have listing : Listing items listed := by
    refine ⟨rfl, ?_, ?_⟩
    · exact List.forall_mem_cons.mpr ⟨key_copy, List.forall_mem_singleton.mpr key_movedCopy⟩
    · refine List.forall_mem_cons.mpr ⟨?_, List.forall_mem_singleton.mpr ?_⟩ <;>
      · intro v hv
        cases hv
        exact ⟨_, rfl⟩
  obtain ⟨⟨news, gone, outcome, report⟩, -, found, again⟩ := relist_reports_changes reachable listing (.str "3")
  have events : (i.relist items (.str "3")).2.outcome =
      .ok [⟨.updated, movedCopy, some copy⟩, ⟨.deleted, shop, none⟩] := rfl
  have told : news ++ gone = [⟨.updated, movedCopy, some copy⟩, ⟨.deleted, shop, none⟩] :=
    Except.ok.inj (outcome.symm.trans events)
  have change : ∀ e ∈ news ++ gone, RealChange i.cache listed e := fun e he => (report.changes e).mp he
  rw [told] at change
  exact ⟨reachable, listing, events, change _ List.mem_cons_self,
    change _ (List.mem_cons_of_mem _ List.mem_cons_self), found "default/copy", again (.str "3")⟩

end Informer

end ClusterMdns
