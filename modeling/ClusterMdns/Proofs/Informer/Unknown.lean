import ClusterMdns.Proofs.Informer.Mirror
import ClusterMdns.Proofs.Informer.Watch

/-! Watch events of unknown types. The informer says nothing of them, but it takes their objects over as if they
were known to be modified, so that a later event or listing of the same key is told of by comparison with an
object that the consumer never heard of. Under the other keys they leave no trace. -/

namespace ClusterMdns

open Document ClusterObject

/-- The object of the event stands under one of some keys. -/
def MembershipEvent.concerns (p : String → Bool) (e : MembershipEvent) : Bool :=
  (key e.obj).toOption.any p

theorem MembershipEvent.concerns_eq {p : String → Bool} {e : MembershipEvent} {name : String}
    (h : key e.obj = .ok name) : e.concerns p = p name := by
  rw [concerns, h]
  rfl

/-- Events about the objects under some of the keys. -/
def eventsUnder (p : String → Bool) (es : List MembershipEvent) : List MembershipEvent :=
  es.filter (·.concerns p)

namespace Informer

/-- The states of an informer after any listings and watch events. -/
inductive Reachable (resource : String) : Informer → Prop
  | fresh : Reachable resource { resource }
  | relisted {i : Informer} (items version : Value) (h : Reachable resource i) :
      Reachable resource (i.relist items version).1
  | applied {i : Informer} (raw : Value) (h : Reachable resource i) : Reachable resource (i.apply raw).1

variable {i j : Informer} {raw obj : Value} {name : String} {p : String → Bool}

/-- A cache whose entries stand under their own keys, each key once. -/
abbrev Tidy (i : Informer) : Prop := Kept (fun _ => True) i.cache

theorem Tidy.apply (h : Tidy i) (raw : Value) : Tidy (i.apply raw).1 := by
  rcases apply_cases raw i with ⟨_, hi, -⟩ | ⟨kind, obj, -, -, happ⟩
  · rwa [hi]
  generalize i.apply raw = done at happ ⊢
  obtain ⟨next, lines, outcome⟩ := done
  dsimp only at happ ⊢
  cases happ with
  | refused e => exact h
  | noted _ _ => rwa [Tidy, noteVersion_cache]
  | @removed v name _ _ hn => simpa [Tidy, remove] using h.erase name
  | stored _ _ hn _ => simpa [Tidy, store] using h.set hn trivial
  | hidden _ _ hn => simpa [Tidy, store] using h.set hn trivial

theorem Tidy.applyAll (h : Tidy i) (raws : List Value) : Tidy (i.applyAll raws).1 := by
  induction raws generalizing i with
  | nil => exact h
  | cons raw rest ih => exact ih (h.apply raw)

theorem Reachable.tidy {resource : String} (h : Reachable resource i) : Tidy i := by
  induction h with
  | fresh => exact Kept.nil
  | @relisted i items version _ ih =>
    rcases relist_cases items version i with ⟨_, hi, -⟩ | ⟨fresh, _, hf, -, hi, -⟩
    · rwa [hi]
    · rw [hi]
      exact keyed_kept hf fun _ _ _ _ => trivial
  | applied raw _ ih => exact ih.apply raw

/-! ### Taken as modifications -/

/-- An event of an unknown type, read as one that modifies its object. -/
def asModified (raw : Value) : Value :=
  match isUnknown raw, raw.section? "object" with
  | true, .ok obj => .dict [(.str "type", .str "MODIFIED"), (.str "object", obj)]
  | _, _ => raw

/-- What comes of an event, if nothing is said of those of unknown types. -/
def withheld (raw : Value) (outcome : Except WatchError (Option MembershipEvent)) :
    Except WatchError (Option MembershipEvent) :=
  if isUnknown raw then outcome.map fun _ => none else outcome

theorem apply_asModified (h : Tidy i) (raw : Value) :
    (i.apply raw).1 = (i.apply (asModified raw)).1 ∧
      (i.apply raw).2.outcome = withheld raw (i.apply (asModified raw)).2.outcome := by
  cases hu : isUnknown raw with
  | false => simp [asModified, withheld, hu]
  | true =>
    obtain ⟨kind, hk, other⟩ := isUnknown_iff.mp hu
    obtain ⟨obj, ho⟩ := Value.section?_of_get hk "object"
    have plain : kind.isText "ERROR" = false :=
      Bool.eq_false_iff.mpr (mt Value.isText_iff.mp (other "ERROR" (by decide)))
    have same : obj.orElse (.dict []) = obj := by
      obtain ⟨w, -, rfl⟩ := map_eq_ok.mp ho
      cases ht : w.truthy with
      | true => rw [Value.orElse_of_truthy ht, Value.orElse_of_truthy ht]
      | false => rw [Value.orElse_of_not_truthy ht]; rfl
    have hm : asModified raw = .dict [(.str "type", .str "MODIFIED"), (.str "object", obj)] := by
      simp [asModified, hu, ho]
    have hk' : (asModified raw).get "type" = .ok (.str "MODIFIED") := by rw [hm]; rfl
    have ho' : (asModified raw).section? "object" = .ok obj := by
      rw [hm]
      exact congrArg Except.ok same
    cases hv : revision obj with
    | error f =>
      rw [apply_unreadable hk plain ho hv, apply_unreadable hk' rfl ho' hv]
      simp [withheld, hu, Logged.fail, Except.map]
    | ok v =>
      obtain ⟨name, hn⟩ := key_of_revision ho hv
      obtain ⟨next, silent⟩ := apply_unknown hu ho hv hn i
      obtain ⟨e, -, happ⟩ := apply_changed h (Or.inr hk') ho' hv hn
      rw [next, silent, happ]
      simp [withheld, hu, Logged.ok, Except.map]

theorem applyAll_asModified (h : Tidy i) (raws : List Value) :
    (i.applyAll raws).1 = (i.applyAll (raws.map asModified)).1 ∧
      (i.applyAll raws).2 = List.zipWith withheld raws (i.applyAll (raws.map asModified)).2 := by
  induction raws generalizing i with
  | nil => exact ⟨rfl, rfl⟩
  | cons raw rest ih =>
    obtain ⟨next, outcome⟩ := apply_asModified h raw
    obtain ⟨last, outcomes⟩ := ih (h.apply raw)
    rw [next] at last outcomes
    simp only [List.map_cons, applyAll_cons, List.zipWith_cons_cons]
    rw [outcome, next, last, outcomes]
    exact ⟨rfl, rfl⟩

/-! ### Other keys -/

/-- Two informers that have the same objects under some of the keys. -/
structure Alike (p : String → Bool) (i j : Informer) : Prop where
  left : Tidy i
  right : Tidy j
  under : i.cache.under p = j.cache.under p

theorem Alike.find (h : Alike p i j) (hp : p name = true) : i.cache.find? name = j.cache.find? name := by
  rw [← Table.find?_under p i.cache hp, h.under, Table.find?_under p j.cache hp]

theorem Alike.put (h : Alike p i j) (hn : key obj = .ok name) (v : Value) :
    Alike p ((i.noteVersion v).store name obj) ((j.noteVersion v).store name obj) := by
  refine ⟨?_, ?_, ?_⟩
  · simpa [Tidy, store] using h.left.set hn trivial
  · simpa [Tidy, store] using h.right.set hn trivial
  · simp only [store, noteVersion_cache, Table.under_set, h.under]

theorem Alike.drop (h : Alike p i j) (name : String) (obj v : Value) :
    Alike p ((i.noteVersion v).remove name obj).1 ((j.noteVersion v).remove name obj).1 := by
  refine ⟨?_, ?_, ?_⟩
  · simpa [Tidy, remove] using h.left.erase name
  · simpa [Tidy, remove] using h.right.erase name
  · simp only [remove, noteVersion_cache, Table.under_erase, h.under]

theorem key_of_change {old : Option Value} {e : MembershipEvent} (h : change old obj = .ok (some e)) :
    key e.obj = key obj := by
  cases old with
  | none =>
    cases h
    rfl
  | some before =>
    obtain ⟨v, -, h⟩ := bind_eq_ok.mp h
    obtain ⟨w, -, h⟩ := bind_eq_ok.mp h
    split at h
    · cases h
    · cases h
      rfl

theorem concerns_of_change {old : Option Value} {e : Option MembershipEvent} (he : change old obj = .ok e)
    (hn : key obj = .ok name) : ∀ d ∈ e.toList, d.concerns p = p name := by
  intro d hd
  cases e with
  | none => cases hd
  | some e =>
    cases List.mem_singleton.mp hd
    exact MembershipEvent.concerns_eq ((key_of_change he).trans hn)

/-- What takes the place of an object is told of alike. -/
theorem Alike.change (h : Alike p i j) (hn : key obj = .ok name) {e d : Option MembershipEvent}
    (he : change (i.cache.find? name) obj = .ok e) (hd : Informer.change (j.cache.find? name) obj = .ok d) :
    eventsUnder p e.toList = eventsUnder p d.toList := by
  cases hp : p name with
  | true =>
    rw [h.find hp, hd] at he
    cases he
    rfl
  | false =>
    have none_of : ∀ {old : Option Value} {e : Option MembershipEvent},
        Informer.change old obj = .ok e → eventsUnder p e.toList = [] :=
      fun he => List.filter_eq_nil_iff.mpr fun d hd => by simp [concerns_of_change he hn d hd, hp]
    rw [none_of he, none_of hd]

theorem key_of_removed (h : Tidy i) (hn : key obj = .ok name) : key (i.remove name obj).2.obj = .ok name := by
  cases hc : i.cache.find? name with
  | none => simpa [remove, hc, Value.orElse, Value.truthy, Scalar.truthy] using hn
  | some old =>
    cases ht : old.truthy with
    | true => simpa [remove, hc, Value.orElse_of_truthy ht] using h.key _ (Table.mem_of_find? hc)
    | false => simpa [remove, hc, Value.orElse_of_not_truthy ht] using hn

theorem Alike.removed (h : Alike p i j) (hn : key obj = .ok name) :
    eventsUnder p [(i.remove name obj).2] = eventsUnder p [(j.remove name obj).2] := by
  cases hp : p name with
  | true => simp only [remove, h.find hp]
  | false =>
    have none_of : ∀ {i : Informer}, Tidy i → eventsUnder p [(i.remove name obj).2] = [] :=
      fun h => List.filter_eq_nil_iff.mpr fun d hd => by
        rw [List.mem_singleton.mp hd, MembershipEvent.concerns_eq (key_of_removed h hn), hp]
        decide
    rw [none_of h.left, none_of h.right]

theorem Alike.noted (h : Alike p i j) (v : Value) : Alike p (i.noteVersion v) (j.noteVersion v) := by
  refine ⟨?_, ?_, ?_⟩
  · simpa [Tidy] using h.left
  · simpa [Tidy] using h.right
  · simpa using h.under

/-- An event of a known type leaves informers alike and is told of alike. -/
theorem Alike.apply (h : Alike p i j) (known : isUnknown raw = false) :
    Alike p (i.apply raw).1 (j.apply raw).1 ∧
      eventsUnder p (said (i.apply raw).2.outcome) = eventsUnder p (said (j.apply raw).2.outcome) := by
  rcases refused_or_read raw with refused | ⟨kind, obj, v, name, hk, hne, ho, hv, hn⟩
  · obtain ⟨hi, _, ei⟩ := refused i
    obtain ⟨hj, _, ej⟩ := refused j
    rw [hi, hj, ei, ej]
    exact ⟨h, rfl⟩
  obtain ⟨s, hs, rfl⟩ := isUnknown_eq_false_iff.mp known kind hk
  have changes : (Value.str s = .str "ADDED" ∨ Value.str s = .str "MODIFIED") →
      Alike p (i.apply raw).1 (j.apply raw).1 ∧
        eventsUnder p (said (i.apply raw).2.outcome) = eventsUnder p (said (j.apply raw).2.outcome) := by
    intro hs
    have hk := hs.imp (hk.trans <| congrArg Except.ok ·) (hk.trans <| congrArg Except.ok ·)
    obtain ⟨e, he, hi⟩ := apply_changed h.left hk ho hv hn
    obtain ⟨d, hd, hj⟩ := apply_changed h.right hk ho hv hn
    rw [hi, hj]
    exact ⟨h.put hn v, h.change hn he hd⟩
  simp only [knownKinds, List.mem_cons, List.not_mem_nil, or_false] at hs
  rcases hs with rfl | rfl | rfl | rfl | rfl
  · exact changes (Or.inl rfl)
  · exact changes (Or.inr rfl)
  · rw [apply_deleted hk ho hv hn i, apply_deleted hk ho hv hn j]
    exact ⟨h.drop name obj v, h.removed hn⟩
  · rw [apply_bookmark hk ho hv i, apply_bookmark hk ho hv j]
    exact ⟨h.noted v, rfl⟩
  · exact absurd rfl hne

/-- An event of an unknown type about an object under another key changes nothing, and is not told of. -/
theorem Alike.skip (h : Alike p i j) (hu : isUnknown raw = true)
    (other : ∀ obj name, raw.section? "object" = .ok obj → key obj = .ok name → p name = false) :
    Alike p (i.apply raw).1 j ∧ said (i.apply raw).2.outcome = [] := by
  rcases refused_or_read raw with refused | ⟨kind, obj, v, name, hk, hne, ho, hv, hn⟩
  · obtain ⟨hi, _, ei⟩ := refused i
    rw [hi, ei]
    exact ⟨h, rfl⟩
  · obtain ⟨next, silent⟩ := apply_unknown hu ho hv hn i
    refine ⟨⟨h.left.apply raw, h.right, ?_⟩, by rw [silent]; rfl⟩
    rw [next, store, noteVersion_cache, Table.under_set, other obj name ho hn]
    simpa using h.under

theorem eventsUnder_append (xs ys : List MembershipEvent) :
    eventsUnder p (xs ++ ys) = eventsUnder p xs ++ eventsUnder p ys :=
  List.filter_append ..

/-- The object of every event of an unknown type stands under none of the keys. -/
def ApartFrom (p : String → Bool) (raws : List Value) : Prop :=
  ∀ raw ∈ raws, isUnknown raw = true → ∀ obj name, raw.section? "object" = .ok obj → key obj = .ok name →
    p name = false

theorem Alike.applyAll (h : Alike p i j) {raws : List Value} (apart : ApartFrom p raws) :
    Alike p (i.applyAll raws).1 (j.applyAll (raws.filter (!isUnknown ·))).1 ∧
      eventsUnder p (yielded (i.applyAll raws).2) =
        eventsUnder p (yielded (j.applyAll (raws.filter (!isUnknown ·))).2) := by
  induction raws generalizing i j with
  | nil => exact ⟨h, rfl⟩
  | cons raw rest ih =>
    obtain ⟨first, later⟩ := List.forall_mem_cons.mp apart
    rw [applyAll_cons, yielded, List.flatMap_cons, eventsUnder_append]
    cases hu : isUnknown raw with
    | true =>
      obtain ⟨next, silent⟩ := h.skip hu (first hu)
      rw [List.filter_cons_of_neg (by simp [hu]), silent]
      exact ih next later
    | false =>
      obtain ⟨next, told⟩ := h.apply hu
      obtain ⟨last, rest⟩ := ih next later
      rw [List.filter_cons_of_pos (by simp [hu]), applyAll_cons, yielded, List.flatMap_cons,
        eventsUnder_append, told]
      exact ⟨last, congrArg _ rest⟩

theorem Alike.additions (h : Alike p i j) {entries : Table String Value}
    (listed : ∀ e ∈ entries, key e.2 = .ok e.1) {es ds : List MembershipEvent}
    (he : additions i.cache entries = .ok es) (hd : Informer.additions j.cache entries = .ok ds) :
    eventsUnder p es = eventsUnder p ds := by
  induction entries generalizing es ds with
  | nil => cases he; cases hd; rfl
  | cons entry rest ih =>
    obtain ⟨name, obj⟩ := entry
    obtain ⟨hn, later⟩ := List.forall_mem_cons.mp listed
    rw [additions_cons] at he hd
    obtain ⟨e, here, he⟩ := bind_eq_ok.mp he
    obtain ⟨more, rest, he⟩ := bind_eq_ok.mp he
    obtain ⟨d, there, hd⟩ := bind_eq_ok.mp hd
    obtain ⟨others, remaining, hd⟩ := bind_eq_ok.mp hd
    cases he
    cases hd
    rw [eventsUnder_append, eventsUnder_append, h.change hn here there, ih later rest remaining]

theorem removals_under {cache : Table String Value} (kept : ∀ e ∈ cache, key e.2 = .ok e.1)
    (fresh : Table String Value) :
    eventsUnder p (removals cache fresh) = removals (cache.under p) fresh := by
  induction cache with
  | nil => rfl
  | cons e rest ih =>
    obtain ⟨name, old⟩ := e
    obtain ⟨hn, later⟩ := List.forall_mem_cons.mp kept
    rw [Table.under_cons]
    have told : MembershipEvent.concerns p ⟨.deleted, old, none⟩ = p name := MembershipEvent.concerns_eq hn
    by_cases hl : name ∈ fresh.keys
    · rw [removals_of_listed hl, ih later]
      split
      · rw [removals_of_listed hl]
      · rfl
    · rw [removals_of_unlisted hl, eventsUnder, List.filter_cons, told]
      split
      · rw [removals_of_unlisted hl, ← ih later, eventsUnder]
      · exact ih later

/-- A listing is told of alike by informers that are alike. -/
theorem Alike.relist (h : Alike p i j) (items version : Value) :
    (i.relist items version).2.outcome.map (eventsUnder p) =
      (j.relist items version).2.outcome.map (eventsUnder p) := by
  cases hf : keyed items with
  | error f => simp [Informer.relist, hf, bind, Except.bind, Logged.fail]
  | ok fresh =>
    have listed : Kept (fun _ => True) fresh := keyed_kept hf fun _ _ _ _ => trivial
    obtain ⟨es, he⟩ := additions_ok h.left listed.key
    obtain ⟨ds, hd⟩ := additions_ok h.right listed.key
    rw [(relist_eq hf he version).2, (relist_eq hf hd version).2]
    refine congrArg Except.ok ?_
    rw [eventsUnder_append, eventsUnder_append, h.additions listed.key he hd, removals_under h.left.key,
      removals_under h.right.key, h.under]

/-- Events of unknown types change the informer as modifications of their objects would, and are not told of. Under
the keys of other objects the cache, what is told and what any later listing makes the informer tell are as if there
were none of them. -/
theorem unknown_stored_silently {resource : String} {i : Informer} (reachable : Reachable resource i)
    (raws : List Value) :
    i.applyAll raws = ((i.applyAll (raws.map asModified)).1,
      List.zipWith withheld raws (i.applyAll (raws.map asModified)).2) ∧
    ∀ p, ApartFrom p raws →
      let known := raws.filter (!isUnknown ·)
      (i.applyAll raws).1.cache.under p = (i.applyAll known).1.cache.under p ∧
      eventsUnder p (yielded (i.applyAll raws).2) = eventsUnder p (yielded (i.applyAll known).2) ∧
      ∀ items version, ((i.applyAll raws).1.relist items version).2.outcome.map (eventsUnder p) =
        ((i.applyAll known).1.relist items version).2.outcome.map (eventsUnder p) := by
  have tidy := reachable.tidy
  obtain ⟨last, outcomes⟩ := applyAll_asModified tidy raws
  refine ⟨Prod.ext last outcomes, fun p apart => ?_⟩
  obtain ⟨alike, told⟩ := Alike.applyAll ⟨tidy, tidy, rfl⟩ apart
  exact ⟨alike.under, told, alike.relist⟩

/-! ### An ingress that is first heard of by an event of an unknown type -/

def weirdShop : Value := .dict [(.str "type", .str "WEIRD"), (.str "object", shop)]

def addedShop : Value := .dict [(.str "type", .str "ADDED"), (.str "object", shop)]

def addedCopy : Value := .dict [(.str "type", .str "ADDED"), (.str "object", copy)]

/-- The other ingress is told of as it would be without that event. -/
theorem unknown_stored_silently_copy :
    Reachable "ingresses" { resource := "ingresses" } ∧
    ApartFrom (· == "default/copy") [weirdShop, addedCopy] ∧
    eventsUnder (· == "default/copy")
        (yielded (({ resource := "ingresses" } : Informer).applyAll [weirdShop, addedCopy]).2) =
      [⟨.added, copy, none⟩] := by
  have apart : ApartFrom (· == "default/copy") [weirdShop, addedCopy] := by
    refine List.forall_mem_cons.mpr ⟨fun _ obj name ho hn => ?_, List.forall_mem_singleton.mpr fun hu => ?_⟩
    · cases ho
      cases hn
      rfl
    · exact absurd hu Bool.false_ne_true
  obtain ⟨-, others⟩ := unknown_stored_silently (Reachable.fresh : Reachable "ingresses" _) [weirdShop, addedCopy]
  exact ⟨.fresh, apart, (others _ apart).2.1⟩

/-- The ingress itself is not told of when it is added later. A listing without it makes the informer tell of the
deletion of an ingress that it never told of. -/
theorem unknown_hides_addition :
    let i : Informer := { resource := "ingresses" }
    let known (raws : List Value) : List Value := raws.filter (!isUnknown ·)
    Reachable "ingresses" i ∧
    yielded (i.applyAll [weirdShop, addedShop]).2 = [] ∧
    yielded (i.applyAll (known [weirdShop, addedShop])).2 = [⟨.added, shop, none⟩] ∧
    (i.applyAll [weirdShop]).1.cache = [("default/shop", shop)] ∧
    (i.applyAll (known [weirdShop])).1.cache = [] ∧
    ((i.applyAll [weirdShop]).1.relist (.list []) (.str "2")).2.outcome = .ok [⟨.deleted, shop, none⟩] ∧
    ((i.applyAll (known [weirdShop])).1.relist (.list []) (.str "2")).2.outcome = .ok [] := by
  intro i known
  exact ⟨.fresh, rfl, rfl, rfl, rfl, rfl, rfl⟩

end Informer

end ClusterMdns
