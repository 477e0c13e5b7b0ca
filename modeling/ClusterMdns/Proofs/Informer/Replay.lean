import ClusterMdns.Proofs.Informer.Step
import Mathlib.Data.Option.Basic
import Mathlib.Logic.Function.Basic

/-! A consumer replays the events of an informer: it sets a key when it is told of an addition or an update
and forgets it at a deletion. What it then knows agrees with the cache after every listing and every watch
event, and each event fits what was known before it. `agree` is the agreement of a known object with the
cached one; it is left open because a suppressed event lets the two differ. -/

namespace ClusterMdns

open Document ClusterObject

namespace MembershipEvent

/-- The object that an event publishes, if it publishes one. -/
def published? (e : MembershipEvent) : Option Value :=
  match e.action with
  | .added | .updated => some e.obj
  | .deleted => none

/-- The object that an event retracts, before it publishes another. -/
def retracted? (e : MembershipEvent) : Option Value :=
  match e.action with
  | .added => none
  | .updated => e.old
  | .deleted => some e.obj

end MembershipEvent

/-- The last object of every key that a consumer was told of. -/
abbrev Known := String → Option Value

namespace Known

def nothing : Known := fun _ => none

def tell (known : Known) (e : MembershipEvent) : Known :=
  match key e.obj, e.action with
  | .error _, _ => known
  | .ok name, .deleted => Function.update known name none
  | .ok name, _ => Function.update known name (some e.obj)

def replay (known : Known) (es : List MembershipEvent) : Known :=
  es.foldl tell known

@[simp] theorem replay_nil (known : Known) : known.replay [] = known := rfl

@[simp] theorem replay_cons (known : Known) (e : MembershipEvent) (es : List MembershipEvent) :
    known.replay (e :: es) = (known.tell e).replay es := rfl

theorem replay_append (known : Known) (xs ys : List MembershipEvent) :
    known.replay (xs ++ ys) = (known.replay xs).replay ys :=
  List.foldl_append

theorem tell_added {known : Known} {name : String} {obj : Value} {old : Option Value}
    (h : key obj = .ok name) : known.tell ⟨.added, obj, old⟩ = Function.update known name (some obj) := by
  simp only [tell, h]

theorem tell_updated {known : Known} {name : String} {obj : Value} {old : Option Value}
    (h : key obj = .ok name) :
    known.tell ⟨.updated, obj, old⟩ = Function.update known name (some obj) := by
  simp only [tell, h]

theorem tell_deleted {known : Known} {name : String} {obj : Value} {old : Option Value}
    (h : key obj = .ok name) : known.tell ⟨.deleted, obj, old⟩ = Function.update known name none := by
  simp only [tell, h]

theorem tell_of_other {known : Known} {e : MembershipEvent} {name : String} (h : key e.obj ≠ .ok name) :
    known.tell e name = known name := by
  obtain ⟨action, obj, old⟩ := e
  cases hn : key obj with
  | error f => simp only [tell, hn]
  | ok other =>
    have hne : name ≠ other := fun heq => h (heq ▸ hn)
    cases action with
    | added => rw [tell_added hn, Function.update_of_ne hne]
    | updated => rw [tell_updated hn, Function.update_of_ne hne]
    | deleted => rw [tell_deleted hn, Function.update_of_ne hne]

theorem tell_of_key {known : Known} {e : MembershipEvent} {name : String} (h : key e.obj = .ok name) :
    known.tell e name = e.published? := by
  obtain ⟨action, obj, old⟩ := e
  cases action with
  | added => rw [tell_added h, Function.update_self]; rfl
  | updated => rw [tell_updated h, Function.update_self]; rfl
  | deleted => rw [tell_deleted h, Function.update_self]; rfl

end Known

/-! ### Events that fit -/

/-- An event fits what was known before it: an addition is of an unknown key, an update knows the object as
it was and changes its version, and a deletion is of the known object, unless that was cached as nothing. -/
inductive Fits (agree : Value → Value → Prop) (known : Known) : MembershipEvent → Prop
  | added {name : String} {obj : Value} (hn : key obj = .ok name) (hk : known name = none) :
      Fits agree known ⟨.added, obj, none⟩
  | updated {name : String} {obj old held v w : Value} (hn : key obj = .ok name)
      (ho : key old = .ok name) (hk : known name = some held) (ha : agree held old)
      (hv : revision old = .ok v) (hw : revision obj = .ok w) (hd : v.same w = false) :
      Fits agree known ⟨.updated, obj, some old⟩
  | deleted {name : String} {obj : Value} (hn : key obj = .ok name)
      (hk : ∀ held, known name = some held →
        agree held obj ∨ ∃ old, agree held old ∧ old.truthy = false) :
      Fits agree known ⟨.deleted, obj, none⟩

theorem Fits.key {agree : Value → Value → Prop} {known : Known} {e : MembershipEvent}
    (h : Fits agree known e) : ∃ name, ClusterObject.key e.obj = .ok name := by
  cases h with
  | added hn _ => exact ⟨_, hn⟩
  | updated hn _ _ _ _ _ _ => exact ⟨_, hn⟩
  | deleted hn _ => exact ⟨_, hn⟩

/-- What an event retracts stands under the key that it is about. -/
theorem Fits.key_of_retracted {agree : Value → Value → Prop} {known : Known} {e : MembershipEvent}
    (h : Fits agree known e) {gone : Value} (hr : e.retracted? = some gone) :
    ClusterObject.key gone = ClusterObject.key e.obj := by
  cases h with
  | added _ _ => cases hr
  | updated hn ho _ _ _ _ _ => cases hr; exact ho.trans hn.symm
  | deleted _ _ => cases hr; rfl

/-- Every event fits what is known once its predecessors were told. -/
def Faithful (agree : Value → Value → Prop) (known : Known) : List MembershipEvent → Prop
  | [] => True
  | e :: es => Fits agree known e ∧ Faithful agree (known.tell e) es

theorem faithful_append {agree : Value → Value → Prop} {known : Known} {xs ys : List MembershipEvent} :
    Faithful agree known (xs ++ ys) ↔
      Faithful agree known xs ∧ Faithful agree (known.replay xs) ys := by
  induction xs generalizing known with
  | nil => simp [Faithful]
  | cons e xs ih => simp only [List.cons_append, Faithful, ih, and_assoc, Known.replay_cons]

theorem Faithful.fits {agree : Value → Value → Prop} {known : Known}
    {es front back : List MembershipEvent} {e : MembershipEvent} (h : Faithful agree known es) (split : es = front ++ e :: back) :
    Fits agree (known.replay front) e := by
  subst split
  exact (faithful_append.mp h).2.1

/-! ### Agreement with the cache -/

/-- A consumer knows the keys of the cache and no others, and an object that agrees for each. -/
def Mirrors (agree : Value → Value → Prop) (known : Known) (cache : Table String Value) : Prop :=
  ∀ name, Option.Rel agree (known name) (cache.find? name)

/-- What agreement has to be like: an object agrees with itself, and still agrees after an event of the same
version that goes unreported. -/
structure Agreement (offered : Value → Prop) (agree : Value → Value → Prop) : Prop where
  refl : ∀ {name : String} {obj : Value}, offered obj → key obj = .ok name → agree obj obj
  carry : ∀ {name : String} {held old obj v w : Value}, offered old → offered obj →
    key old = .ok name → key obj = .ok name → revision old = .ok v → revision obj = .ok w →
    v.same w = true → agree held old → agree held obj

/-- Versions that stand for one object each make equality an agreement. -/
theorem agreement_eq {offered : Value → Prop}
    (h : ∀ x y, offered x → offered y → ∀ name v w, key x = .ok name → key y = .ok name →
      revision x = .ok v → revision y = .ok w → v.same w = true → x = y) : Agreement offered Eq where
  refl _ _ := rfl
  carry hold hobj hn hm hv hw same held := by
    rw [held]
    exact h _ _ hold hobj _ _ _ hn hm hv hw same

theorem eq_of_rel {x y : Option Value} (h : Option.Rel Eq x y) : x = y := by
  cases h with
  | some heq => rw [heq]
  | none => rfl

theorem mirrors_eq_iff {known : Known} {cache : Table String Value} :
    Mirrors Eq known cache ↔ ∀ name, known name = cache.find? name := by
  refine ⟨fun h name => eq_of_rel (h name), fun h name => ?_⟩
  rw [h name]
  cases cache.find? name with
  | some obj => exact .some rfl
  | none => exact .none

theorem none_of_rel {agree : Value → Value → Prop} {known : Option Value}
    (h : Option.Rel agree known none) : known = none := by
  cases h
  rfl

theorem some_of_rel {agree : Value → Value → Prop} {known : Option Value} {obj : Value}
    (h : Option.Rel agree known (some obj)) : ∃ held, known = some held ∧ agree held obj := by
  cases h with
  | some ha => exact ⟨_, rfl, ha⟩

namespace Informer

variable {offered : Value → Prop} {agree : Value → Value → Prop}

/-- Setting a key in the cache and telling of it. -/
theorem mirrors_update {known : Known} {cache : Table String Value} (h : Mirrors agree known cache)
    (name : String) {held obj : Value} (ha : agree held obj) :
    Mirrors agree (Function.update known name (some held)) (cache.set name obj) := by
  intro other
  rw [Table.find?_set]
  by_cases hn : other = name
  · subst hn
    rw [Function.update_self, if_pos rfl]
    exact .some ha
  · rw [Function.update_of_ne hn, if_neg (Ne.symm hn)]
    exact h other

theorem mirrors_erase {known : Known} {cache : Table String Value} (h : Mirrors agree known cache)
    (nodup : cache.keys.Nodup) (name : String) :
    Mirrors agree (Function.update known name none) (cache.erase name) := by
  intro other
  rw [Table.find?_erase nodup]
  by_cases hn : other = name
  · subst hn
    rw [Function.update_self, if_pos rfl]
    exact .none
  · rw [Function.update_of_ne hn, if_neg (Ne.symm hn)]
    exact h other

/-! ### Watch events -/

/-- Nothing goes wrong when an object takes the place of a cached one. -/
theorem change_ok {cache : Table String Value} (kept : Kept offered cache) {name : String} {obj : Value}
    (hn : key obj = .ok name) : ∃ e, change (cache.find? name) obj = .ok e := by
  cases hc : cache.find? name with
  | none => exact ⟨_, rfl⟩
  | some old =>
    obtain ⟨w, hw⟩ := revision_of_key hn
    obtain ⟨u, hu⟩ := revision_of_key (kept.key _ (Table.mem_of_find? hc))
    simp only [change, hu, hw, ok_bind]
    split
    · exact ⟨_, rfl⟩
    · exact ⟨_, rfl⟩

/-- An object that takes the place of what is cached under its key is told of, unless its version is known.
Only what was known under that key matters. -/
theorem change_faithful (law : Agreement offered agree) {known : Known} {cache : Table String Value}
    (kept : Kept offered cache) {name : String} {obj : Value} (hn : key obj = .ok name)
    (ho : offered obj) (h : Option.Rel agree (known name) (cache.find? name))
    {e : Option MembershipEvent} (he : change (cache.find? name) obj = .ok e) :
    Faithful agree known e.toList ∧
      ∃ held, known.replay e.toList = Function.update known name (some held) ∧ agree held obj := by
  cases hc : cache.find? name with
  | none =>
    rw [hc] at he h
    cases he
    exact ⟨⟨.added hn (none_of_rel h), trivial⟩, obj, Known.tell_added hn, law.refl ho hn⟩
  | some old =>
    rw [hc] at he h
    have mem := Table.mem_of_find? hc
    obtain ⟨held, hk, ha⟩ := some_of_rel h
    obtain ⟨v, hv, he⟩ := bind_eq_ok.mp he
    obtain ⟨w, hw, he⟩ := bind_eq_ok.mp he
    split at he
    · rename_i same
      cases he
      refine ⟨trivial, held, ?_, law.carry (kept.offered _ mem) ho (kept.key _ mem) hn hv hw same ha⟩
      rw [← hk, Function.update_eq_self]
      rfl
    · rename_i differ
      cases he
      refine ⟨⟨.updated hn (kept.key _ mem) hk ha hv hw (by simpa using differ), trivial⟩, obj, ?_,
        law.refl ho hn⟩
      exact Known.tell_updated hn

/-- What is taken out of the cache is told of, whether it was there or not. -/
theorem remove_faithful {known : Known} {i : Informer} (kept : Kept offered i.cache)
    (h : Mirrors agree known i.cache) {name : String} {obj : Value} (hn : key obj = .ok name) :
    Fits agree known (i.remove name obj).2 ∧
      Mirrors agree (known.tell (i.remove name obj).2) (i.remove name obj).1.cache := by
  cases hc : i.cache.find? name with
  | none =>
    have he : (i.remove name obj).2 = ⟨.deleted, obj, none⟩ := by rw [remove, hc]; rfl
    have unknown := none_of_rel (hc ▸ h name)
    rw [he, Known.tell_deleted hn]
    exact ⟨.deleted hn (fun held hk => absurd (unknown ▸ hk) nofun), mirrors_erase h kept.nodup name⟩
  | some old =>
    obtain ⟨held, hk, ha⟩ := some_of_rel (hc ▸ h name)
    have hold := kept.key _ (Table.mem_of_find? hc)
    cases ht : old.truthy with
    | true =>
      have he : (i.remove name obj).2 = ⟨.deleted, old, none⟩ := by
        rw [remove, hc]
        exact congrArg (MembershipEvent.mk .deleted · none) (Value.orElse_of_truthy ht obj)
      rw [he, Known.tell_deleted hold]
      refine ⟨.deleted hold fun other ho => Or.inl ?_, mirrors_erase h kept.nodup name⟩
      cases hk.symm.trans ho
      exact ha
    | false =>
      -- a cached object that counts as nothing is told of as the watch gave it
      have he : (i.remove name obj).2 = ⟨.deleted, obj, none⟩ := by
        rw [remove, hc]
        exact congrArg (MembershipEvent.mk .deleted · none) (Value.orElse_of_not_truthy ht obj)
      rw [he, Known.tell_deleted hn]
      refine ⟨.deleted hn fun other ho => Or.inr ⟨old, ?_, ht⟩, mirrors_erase h kept.nodup name⟩
      cases hk.symm.trans ho
      exact ha

/-- What a step says to the consumer. -/
def said {ε : Type} : Except ε (Option MembershipEvent) → List MembershipEvent
  | .ok e => e.toList
  | .error _ => []

/-- A watch event of a known type is told of as it changes the cache. -/
theorem apply_faithful (law : Agreement offered agree) {known : Known} {i : Informer}
    (kept : Kept offered i.cache) (h : Mirrors agree known i.cache) {raw : Value}
    (hk : ∀ kind, raw.get "type" = .ok kind → ∃ s ∈ knownKinds, kind = .str s)
    (ho : ∀ kind obj, raw.get "type" = .ok kind → raw.section? "object" = .ok obj →
      kind = .str "ADDED" ∨ kind = .str "MODIFIED" → offered obj) :
    Kept offered (i.apply raw).1.cache ∧ Faithful agree known (said (i.apply raw).2.outcome) ∧
      Mirrors agree (known.replay (said (i.apply raw).2.outcome)) (i.apply raw).1.cache := by
  rcases apply_cases raw i with ⟨e, hi, hout⟩ | ⟨kind, obj, hkind, hobj, happ⟩
  · rw [hi, hout]
    exact ⟨kept, trivial, h⟩
  generalize i.apply raw = done at happ ⊢
  obtain ⟨next, lines, outcome⟩ := done
  dsimp only at happ ⊢
  cases happ with
  | refused e => exact ⟨kept, trivial, h⟩
  | noted _ _ =>
    rw [noteVersion_cache]
    exact ⟨kept, trivial, h⟩
  | @removed v name _ _ hn =>
    obtain ⟨fits, after⟩ := remove_faithful (i := i.noteVersion v) (by simpa using kept)
      (by simpa using h) hn
    refine ⟨?_, ⟨fits, trivial⟩, after⟩
    simpa [remove] using kept.erase name
  | @stored v name e hs _ hn he =>
    have offers := ho kind obj hkind hobj hs
    obtain ⟨faithful, held, hr, ha⟩ := change_faithful law kept hn offers (h name) he
    have hc : ((i.noteVersion v).store name obj).cache = i.cache.set name obj := by simp [store]
    rw [hc]
    refine ⟨kept.set hn offers, faithful, ?_⟩
    rw [said, hr]
    exact mirrors_update h name ha
  | hidden hs _ _ =>
    obtain ⟨s, mem, he⟩ := hk kind hkind
    exact absurd he (hs s mem)

/-! ### Listings -/

theorem additions_cons (cache : Table String Value) (name : String) (obj : Value)
    (rest : List (String × Value)) :
    additions cache ((name, obj) :: rest) = (do
      let e ← change (cache.find? name) obj
      let more ← additions cache rest
      pure (e.toList ++ more)) := by
  rw [additions]
  cases hc : cache.find? name with
  | none => rfl
  | some old =>
    cases hv : revision old with
    | error f => simp [change, hv, bind, Except.bind]
    | ok v =>
      cases hw : revision obj with
      | error f => simp [change, hv, hw, bind, Except.bind]
      | ok w => cases hs : v.same w <;> simp [change, hv, hw, hs, bind, Except.bind, pure, Except.pure]

/-- Nothing goes wrong when a listing is compared with the cache. -/
theorem additions_ok {cache : Table String Value} (kept : Kept offered cache)
    {entries : Table String Value} (listed : ∀ e ∈ entries, key e.2 = .ok e.1) :
    ∃ es, additions cache entries = .ok es := by
  induction entries with
  | nil => exact ⟨[], rfl⟩
  | cons d rest ih =>
    obtain ⟨name, obj⟩ := d
    obtain ⟨hn, later⟩ := List.forall_mem_cons.mp listed
    obtain ⟨e, he⟩ := change_ok kept hn
    obtain ⟨more, hm⟩ := ih later
    rw [additions_cons, he, ok_bind, hm]
    exact ⟨_, rfl⟩

/-- What is new in a listing is told of key by key; keys that are not listed stay as they are known. -/
theorem additions_faithful (law : Agreement offered agree) {cache : Table String Value}
    (kept : Kept offered cache) {entries : Table String Value} (listed : Kept offered entries)
    {known : Known} (h : ∀ name ∈ entries.keys, Option.Rel agree (known name) (cache.find? name))
    {es : List MembershipEvent} (he : additions cache entries = .ok es) :
    Faithful agree known es ∧ (∀ name ∉ entries.keys, known.replay es name = known name) ∧
      ∀ e ∈ entries, ∃ held, known.replay es e.1 = some held ∧ agree held e.2 := by
  induction entries generalizing known es with
  | nil =>
    cases he
    exact ⟨trivial, fun _ _ => rfl, by simp⟩
  | cons d rest ih =>
    obtain ⟨name, obj⟩ := d
    have fresh : name ∉ Table.keys rest := (List.nodup_cons.mp listed.nodup).1
    rw [additions_cons] at he
    obtain ⟨e, hc, he⟩ := bind_eq_ok.mp he
    obtain ⟨more, hm, he⟩ := bind_eq_ok.mp he
    cases he
    -- no later entry has the key of the first, so what is told of it stays and the others are as they were
    obtain ⟨first, held, told, ha⟩ := change_faithful law kept (listed.key _ List.mem_cons_self)
      (listed.offered _ List.mem_cons_self) (h name List.mem_cons_self) hc
    have apart : ∀ other, other ≠ name → known.replay e.toList other = known other := by
      intro other hne
      rw [told, Function.update_of_ne hne]
    have still : ∀ other ∈ Table.keys rest,
        Option.Rel agree (known.replay e.toList other) (cache.find? other) := by
      intro other ho
      rw [apart other fun hne => fresh (hne ▸ ho)]
      exact h other (List.mem_cons_of_mem _ ho)
    obtain ⟨later, same, found⟩ := ih listed.tail still hm
    refine ⟨faithful_append.mpr ⟨first, later⟩, fun other ho => ?_, fun d hd => ?_⟩
    · obtain ⟨hne, ho⟩ := not_or.mp (mt List.mem_cons.mpr ho)
      rw [Known.replay_append, same other ho, apart other hne]
    · rw [Known.replay_append]
      rcases List.mem_cons.mp hd with rfl | hd
      · refine ⟨held, ?_, ha⟩
        rw [same name fresh, told, Function.update_self]
      · exact found d hd

theorem removals_of_listed {name : String} {fresh : Table String Value} (h : name ∈ fresh.keys)
    (old : Value) (rest : Table String Value) :
    removals ((name, old) :: rest) fresh = removals rest fresh := by
  simp [removals, Table.contains_iff.mpr h]

theorem removals_of_unlisted {name : String} {fresh : Table String Value} (h : name ∉ fresh.keys)
    (old : Value) (rest : Table String Value) :
    removals ((name, old) :: rest) fresh = ⟨.deleted, old, none⟩ :: removals rest fresh := by
  simp [removals, Bool.eq_false_iff.mpr (mt Table.contains_iff.mp h)]

/-- What is not listed any more is told of key by key. -/
theorem removals_faithful {cache fresh : Table String Value} (kept : Kept offered cache) {known : Known}
    (h : ∀ e ∈ cache, e.1 ∉ fresh.keys → ∃ held, known e.1 = some held ∧ agree held e.2) :
    Faithful agree known (removals cache fresh) ∧
      ∀ name, known.replay (removals cache fresh) name =
        if name ∈ cache.keys ∧ name ∉ fresh.keys then none else known name := by
  induction cache generalizing known with
  | nil => exact ⟨trivial, fun name => by simp [removals, Table.keys]⟩
  | cons d rest ih =>
    obtain ⟨name, old⟩ := d
    have alone : name ∉ Table.keys rest := (List.nodup_cons.mp kept.nodup).1
    by_cases hl : name ∈ fresh.keys
    · obtain ⟨later, told⟩ := ih kept.tail fun e he => h e (List.mem_cons_of_mem _ he)
      rw [removals_of_listed hl]
      refine ⟨later, fun other => ?_⟩
      rw [told other]
      by_cases ho : other = name
      · subst ho; simp [hl]
      · simp only [Table.mem_keys_cons, ho, false_or]
    · have hn : key old = .ok name := kept.key _ List.mem_cons_self
      obtain ⟨held, hk, ha⟩ := h _ List.mem_cons_self hl
      have still : ∀ e ∈ rest, e.1 ∉ fresh.keys →
          ∃ held, Function.update known name none e.1 = some held ∧ agree held e.2 := by
        intro e he hf
        have hne : e.1 ≠ name := fun hne => alone (List.mem_map.mpr ⟨e, he, hne⟩)
        rw [Function.update_of_ne hne]
        exact h e (List.mem_cons_of_mem _ he) hf
      obtain ⟨later, told⟩ := ih kept.tail still
      rw [removals_of_unlisted hl, Faithful, Known.replay_cons, Known.tell_deleted hn]
      refine ⟨⟨.deleted hn fun other ho => Or.inl ?_, later⟩, fun other => ?_⟩
      · cases hk.symm.trans ho
        exact ha
      · rw [told other]
        by_cases ho : other = name
        · subst ho; simp [Table.mem_keys_cons, hl]
        · simp only [Table.mem_keys_cons, ho, false_or, Function.update_of_ne, Ne, not_false_eq_true]

/-- A listing is told of as a whole: afterwards a consumer knows what is listed and nothing else. -/
theorem relist_faithful (law : Agreement offered agree) {known : Known} {cache fresh : Table String Value}
    (kept : Kept offered cache) (listed : Kept offered fresh) (h : Mirrors agree known cache)
    {added : List MembershipEvent} (ha : additions cache fresh = .ok added) :
    Faithful agree known (added ++ removals cache fresh) ∧
      Mirrors agree (known.replay (added ++ removals cache fresh)) fresh := by
  obtain ⟨first, same, found⟩ := additions_faithful law kept listed (fun name _ => h name) ha
  have still : ∀ e ∈ cache, e.1 ∉ fresh.keys →
      ∃ held, known.replay added e.1 = some held ∧ agree held e.2 := by
    intro e he hf
    rw [same e.1 hf]
    exact some_of_rel (Table.find?_of_mem kept.nodup he ▸ h e.1)
  obtain ⟨later, told⟩ := removals_faithful kept still
  refine ⟨faithful_append.mpr ⟨first, later⟩, fun name => ?_⟩
  rw [Known.replay_append, told name]
  by_cases hf : name ∈ fresh.keys
  · obtain ⟨obj, ho⟩ := Option.ne_none_iff_exists'.mp (mt Table.find?_eq_none_iff.mp (not_not.mpr hf))
    obtain ⟨held, hk, hg⟩ := found _ (Table.mem_of_find? ho)
    rw [if_neg fun hc => hc.2 hf, hk, ho]
    exact .some hg
  · rw [Table.find?_eq_none_iff.mpr hf]
    by_cases hc : name ∈ cache.keys
    · rw [if_pos ⟨hc, hf⟩]
      exact .none
    · have unknown : known name = none := none_of_rel (Table.find?_eq_none_iff.mpr hc ▸ h name)
      rw [if_neg fun h => hc h.1, same name hf, unknown]
      exact .none

end Informer

end ClusterMdns
