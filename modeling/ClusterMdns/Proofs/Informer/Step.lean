import ClusterMdns.Informer.Basic
import ClusterMdns.Proofs.Outcome
import ClusterMdns.Proofs.Table

/-! What one step of an informer can do. A listing is taken as a whole or not at all; a watch event is
refused, or it notes a version, takes one object away or puts one object in. Everything said about informers
later follows from these cases. -/

namespace ClusterMdns

open Document ClusterObject

/-! ### Keys and versions -/

namespace ClusterObject

/-- An object that has a key has a version, which may be empty. -/
theorem revision_of_key {obj : Value} {name : String} (h : key obj = .ok name) :
    ∃ v, revision obj = .ok v := by
  obtain ⟨header, hm, h⟩ := bind_eq_ok.mp h
  obtain ⟨space, hs, h⟩ := bind_eq_ok.mp h
  obtain ⟨_, hn, -⟩ := map_eq_ok.mp hs
  unfold revision
  cases ht : obj.truthy with
  | false =>
    rw [Value.orElse_of_not_truthy ht]
    exact ⟨_, rfl⟩
  | true =>
    have hm : obj.section? "metadata" = .ok header := hm
    obtain ⟨version, hv⟩ := Value.get?_of_get? hn "resourceVersion"
    rw [Value.orElse_of_truthy ht, hm]
    exact ⟨version.getD (.str ""), bind_eq_ok.mpr ⟨header, rfl, bind_eq_ok.mpr ⟨version, hv, rfl⟩⟩⟩

end ClusterObject

namespace Informer

/-! ### Listings -/

/-- A cache whose entries stand under their own keys, each key once. All of its objects were `offered`. -/
structure Kept (offered : Value → Prop) (cache : Table String Value) : Prop where
  nodup : cache.keys.Nodup
  key : ∀ e ∈ cache, ClusterObject.key e.2 = .ok e.1
  offered : ∀ e ∈ cache, offered e.2

variable {offered : Value → Prop}

theorem Kept.nil : Kept offered [] :=
  ⟨List.nodup_nil, by simp, by simp⟩

theorem Kept.tail {e : String × Value} {cache : Table String Value} (h : Kept offered (e :: cache)) :
    Kept offered cache :=
  ⟨(List.nodup_cons.mp h.nodup).2, fun d hd => h.key d (List.mem_cons_of_mem _ hd),
    fun d hd => h.offered d (List.mem_cons_of_mem _ hd)⟩

theorem Kept.set {cache : Table String Value} (h : Kept offered cache) {name : String} {obj : Value}
    (hk : ClusterObject.key obj = .ok name) (ho : offered obj) : Kept offered (cache.set name obj) := by
  refine ⟨Table.nodup_set h.nodup name obj, fun e he => ?_, fun e he => ?_⟩
  · rcases Table.mem_of_mem_set he with rfl | he
    · exact hk
    · exact h.key e he
  · rcases Table.mem_of_mem_set he with rfl | he
    · exact ho
    · exact h.offered e he

theorem Kept.erase {cache : Table String Value} (h : Kept offered cache) (name : String) :
    Kept offered (cache.erase name) := by
  have sub := (Table.erase_sublist cache name).subset
  exact ⟨Table.nodup_erase h.nodup name, fun e he => h.key e (sub he), fun e he => h.offered e (sub he)⟩

theorem keyed_kept {items : Value} {fresh : Table String Value} (h : keyed items = .ok fresh)
    (ho : ∀ objs, items.elements = .ok objs → ∀ obj ∈ objs, offered obj) : Kept offered fresh := by
  obtain ⟨objs, hobjs, h⟩ := bind_eq_ok.mp h
  obtain ⟨entries, he, h⟩ := bind_eq_ok.mp h
  cases h
  have made : ∀ e ∈ Table.ofList entries, key e.2 = .ok e.1 ∧ e.2 ∈ objs := by
    intro e hmem
    obtain ⟨obj, hobj, hmk⟩ := mapM_eq_ok he e (Table.mem_of_mem_ofList hmem)
    obtain ⟨name, hname, hmk⟩ := bind_eq_ok.mp hmk
    cases hmk
    exact ⟨hname, hobj⟩
  exact ⟨Table.nodup_ofList entries, fun e he => (made e he).1,
    fun e he => ho objs hobjs e.2 (made e he).2⟩

/-- A listing is taken as a whole, with all events that it means, or it fails and changes nothing. -/
theorem relist_cases (items version : Value) (i : Informer) :
    (∃ f, (i.relist items version).1 = i ∧ (i.relist items version).2.outcome = .error f) ∨
    ∃ fresh added, keyed items = .ok fresh ∧ additions i.cache fresh = .ok added ∧
      (i.relist items version).1 = { i with cache := fresh, version := version, synced := true } ∧
      (i.relist items version).2.outcome = .ok (added ++ removals i.cache fresh) := by
  unfold relist
  cases hf : keyed items with
  | error f => exact Or.inl ⟨f, rfl, rfl⟩
  | ok fresh =>
    simp only [bind, Except.bind]
    cases ha : additions i.cache fresh with
    | error f => exact Or.inl ⟨f, rfl, rfl⟩
    | ok added => exact Or.inr ⟨fresh, added, rfl, ha, rfl, rfl⟩

theorem relist_eq {i : Informer} {items : Value} {fresh : Table String Value}
    {added : List MembershipEvent} (hf : keyed items = .ok fresh) (ha : additions i.cache fresh = .ok added)
    (version : Value) :
    (i.relist items version).1 = { i with cache := fresh, version := version, synced := true } ∧
      (i.relist items version).2.outcome = .ok (added ++ removals i.cache fresh) := by
  unfold relist
  rw [hf, ok_bind, ha]
  exact ⟨rfl, rfl⟩

/-! ### Watch events -/

/-- The words for the known types of watch events. -/
def knownKinds : List String := ["ADDED", "MODIFIED", "DELETED", "BOOKMARK", "ERROR"]

/-- What a watch event can do to an informer, with what it says to the consumer. -/
inductive Applied (i : Informer) (kind obj : Value) :
    Informer → Except WatchError (Option MembershipEvent) → Prop
  | refused (e : WatchError) : Applied i kind obj i (.error e)
  | noted {v : Value} (hk : kind = .str "BOOKMARK") (hv : revision obj = .ok v) :
      Applied i kind obj (i.noteVersion v) (.ok none)
  | removed {v : Value} {name : String} (hk : kind = .str "DELETED") (hv : revision obj = .ok v)
      (hn : key obj = .ok name) :
      Applied i kind obj ((i.noteVersion v).remove name obj).1
        (.ok (some ((i.noteVersion v).remove name obj).2))
  | stored {v : Value} {name : String} {e : Option MembershipEvent}
      (hk : kind = .str "ADDED" ∨ kind = .str "MODIFIED") (hv : revision obj = .ok v)
      (hn : key obj = .ok name) (he : change (i.cache.find? name) obj = .ok e) :
      Applied i kind obj ((i.noteVersion v).store name obj) (.ok e)
  | hidden {v : Value} {name : String} (hk : ∀ s ∈ knownKinds, kind ≠ .str s)
      (hv : revision obj = .ok v) (hn : key obj = .ok name) :
      Applied i kind obj ((i.noteVersion v).store name obj) (.ok none)

@[simp] theorem noteVersion_cache (v : Value) (i : Informer) : (i.noteVersion v).cache = i.cache := by
  unfold noteVersion
  split <;> rfl

theorem readError_fails (resource : String) (obj : Value) :
    ∃ e, (readError resource obj).outcome = .error e := by
  unfold readError
  split
  · exact ⟨_, rfl⟩
  · split
    · exact ⟨_, rfl⟩
    · exact ⟨_, rfl⟩

theorem applyChange_applied {i next : Informer} {kind obj : Value}
    {done : Logged WatchError (Option MembershipEvent)} (hk : kind ≠ .str "ERROR")
    (h : i.applyChange kind obj = .ok (next, done)) : Applied i kind obj next done.outcome := by
  obtain ⟨v, hv, h⟩ := bind_eq_ok.mp h
  dsimp only at h
  split at h
  · rename_i hb
    cases h
    exact .noted (Value.isText_iff.mp hb) hv
  rename_i hb
  obtain ⟨name, hn, h⟩ := bind_eq_ok.mp h
  split at h
  · rename_i hd
    cases h
    exact .removed (Value.isText_iff.mp hd) hv hn
  rename_i hd
  split at h
  · rename_i ha
    obtain ⟨e, he, h⟩ := bind_eq_ok.mp h
    cases h
    rw [noteVersion_cache] at he
    exact .stored ((Bool.or_eq_true_iff.mp ha).imp Value.isText_iff.mp Value.isText_iff.mp) hv hn he
  · rename_i ha
    cases h
    refine .hidden (fun s hs he => ?_) hv hn
    subst he
    -- each of the five words was excluded on the way here
    simp only [knownKinds, List.mem_cons, List.not_mem_nil, or_false] at hs
    simp only [Value.isText_iff, Bool.or_eq_true] at hb hd ha
    rcases hs with rfl | rfl | rfl | rfl | rfl <;> simp_all

/-- A watch event that can be read is an error, or it is taken as a change. -/
theorem apply_eq {raw kind obj : Value} (hk : raw.get "type" = .ok kind)
    (ho : raw.section? "object" = .ok obj) (i : Informer) :
    i.apply raw = if kind.isText "ERROR" then (i, readError i.resource obj)
      else match i.applyChange kind obj with
        | .error f => (i, .fail (.fault f))
        | .ok done => done := by
  unfold apply
  rw [hk, ho]
  rfl

/-- Every watch event does one of these things; one that cannot be read changes nothing. -/
theorem apply_cases (raw : Value) (i : Informer) :
    (∃ e, (i.apply raw).1 = i ∧ (i.apply raw).2.outcome = .error e) ∨
    ∃ kind obj, raw.get "type" = .ok kind ∧ raw.section? "object" = .ok obj ∧
      Applied i kind obj (i.apply raw).1 (i.apply raw).2.outcome := by
  unfold apply
  cases hk : raw.get "type" with
  | error f => exact Or.inl ⟨_, rfl, rfl⟩
  | ok kind =>
    cases ho : raw.section? "object" with
    | error f => exact Or.inl ⟨_, rfl, rfl⟩
    | ok obj =>
      refine Or.inr ⟨kind, obj, rfl, rfl, ?_⟩
      simp only [bind, Except.bind, pure, Except.pure]
      split
      · obtain ⟨e, he⟩ := readError_fails i.resource obj
        simp only [he]
        exact .refused e
      · rename_i hne
        split
        · exact .refused _
        · rename_i done hdone
          exact applyChange_applied (fun h => hne (Value.isText_iff.mpr h)) hdone

end Informer

end ClusterMdns
