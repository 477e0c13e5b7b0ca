import ClusterMdns.Proofs.Informer.Mirror
import ClusterMdns.Proofs.Informer.Watch

/-! A server whose objects change, and an informer that knows them. It may hear of the changes one by one from a
watch, or find their outcome in one listing: it ends with the objects of the server both ways, and so does a
consumer that replays what it says. -/

namespace ClusterMdns

open Document ClusterObject

/-! ### Servers -/

/-- What happens to an object of a server. A deleted object is told of as it was at the end. -/
inductive Change where
  | created (obj : Value)
  | modified (obj : Value)
  | deleted (obj : Value)

namespace Change

def obj : Change → Value
  | created obj => obj
  | modified obj => obj
  | deleted obj => obj

/-- The type of the watch event for it. -/
def kind : Change → String
  | created _ => "ADDED"
  | modified _ => "MODIFIED"
  | deleted _ => "DELETED"

/-- A watch event that tells of the change. -/
structure ToldBy (c : Change) (raw : Value) : Prop where
  kind : raw.get "type" = .ok (.str c.kind)
  obj : raw.section? "object" = .ok c.obj

end Change

/-- The version of the object is a text that is not empty. -/
def Numbered (obj : Value) : Prop :=
  ∃ s, s ≠ "" ∧ revision obj = .ok (.str s)

/-- The objects of a server stand under their keys and have versions. `past` are all that it ever had. -/
structure Served (past : List Value) (S : Known) : Prop where
  key : ∀ name obj, S name = some obj → ClusterObject.key obj = .ok name
  numbered : ∀ name obj, S name = some obj → Numbered obj
  past : ∀ name obj, S name = some obj → obj ∈ past

/-- The object has a version that its key never had before. -/
structure Fresh (past : List Value) (obj : Value) : Prop where
  numbered : Numbered obj
  unused : ∀ old ∈ past, key old = key obj → revision old ≠ revision obj

/-- Changes that lead a server from its objects to others. -/
inductive Evolves : List Value → Known → List Change → Known → Prop
  | done {past : List Value} {S : Known} : Evolves past S [] S
  | created {past : List Value} {S T : Known} {obj : Value} {name : String} {changes : List Change}
      (hn : key obj = .ok name) (absent : S name = none) (fresh : Fresh past obj)
      (rest : Evolves (obj :: past) (Function.update S name (some obj)) changes T) :
      Evolves past S (.created obj :: changes) T
  | modified {past : List Value} {S T : Known} {obj old : Value} {name : String} {changes : List Change}
      (hn : key obj = .ok name) (present : S name = some old) (fresh : Fresh past obj)
      (rest : Evolves (obj :: past) (Function.update S name (some obj)) changes T) :
      Evolves past S (.modified obj :: changes) T
  | deleted {past : List Value} {S T : Known} {obj old : Value} {name : String} {changes : List Change}
      (hn : key obj = .ok name) (present : S name = some old)
      (rest : Evolves past (Function.update S name none) changes T) :
      Evolves past S (.deleted obj :: changes) T

section
variable {past : List Value} {S T : Known} {obj : Value} {name : String} {changes : List Change}

theorem some_of_update_some {other : String} {x : Value}
    (h : Function.update S name (some obj) other = some x) : (other = name ∧ x = obj) ∨ S other = some x := by
  by_cases ho : other = name
  · subst ho
    rw [Function.update_self] at h
    exact Or.inl ⟨rfl, (Option.some.inj h).symm⟩
  · rw [Function.update_of_ne ho] at h
    exact Or.inr h

theorem some_of_update_none {other : String} {x : Value} (h : Function.update S name none other = some x) :
    S other = some x := by
  by_cases ho : other = name
  · subst ho
    rw [Function.update_self] at h
    cases h
  · rwa [Function.update_of_ne ho] at h

theorem Served.put (h : Served past S) (hn : ClusterObject.key obj = .ok name) (numbered : Numbered obj) :
    Served (obj :: past) (Function.update S name (some obj)) := by
  refine ⟨fun other x hx => ?_, fun other x hx => ?_, fun other x hx => ?_⟩
  · rcases some_of_update_some hx with ⟨rfl, rfl⟩ | hx
    · exact hn
    · exact h.key other x hx
  · rcases some_of_update_some hx with ⟨rfl, rfl⟩ | hx
    · exact numbered
    · exact h.numbered other x hx
  · rcases some_of_update_some hx with ⟨rfl, rfl⟩ | hx
    · exact List.mem_cons_self
    · exact List.mem_cons_of_mem _ (h.past other x hx)

theorem Served.drop (h : Served past S) (name : String) : Served past (Function.update S name none) :=
  ⟨fun other x hx => h.key other x (some_of_update_none hx),
    fun other x hx => h.numbered other x (some_of_update_none hx),
    fun other x hx => h.past other x (some_of_update_none hx)⟩

theorem Evolves.served (h : Evolves past S changes T) (served : Served past S) :
    ∃ past, Served past T := by
  induction h with
  | done => exact ⟨_, served⟩
  | created hn _ fresh _ ih => exact ih (served.put hn fresh.numbered)
  | modified hn _ fresh _ ih => exact ih (served.put hn fresh.numbered)
  | deleted _ _ _ ih => exact ih (served.drop _)

theorem unchanged_of_put (hn : key obj = .ok name) (fresh : Fresh past obj) {other : String} {y : Value}
    (h : Function.update S name (some obj) other = some y ∨
      ∀ x ∈ obj :: past, key x = .ok other → revision x ≠ revision y) :
    S other = some y ∨ ∀ x ∈ past, key x = .ok other → revision x ≠ revision y := by
  rcases h with h | h
  · rcases some_of_update_some h with ⟨rfl, rfl⟩ | h
    · exact Or.inr fun x hx hk => fresh.unused x hx (hk.trans hn.symm)
    · exact Or.inl h
  · exact Or.inr fun x hx => h x (List.mem_cons_of_mem _ hx)

/-- What a server has in the end it had all the time, or its version was not in use before. -/
theorem Evolves.unchanged (h : Evolves past S changes T) {name : String} {y : Value} (hy : T name = some y) :
    S name = some y ∨ ∀ x ∈ past, key x = .ok name → revision x ≠ revision y := by
  induction h with
  | done => exact Or.inl hy
  | created hn _ fresh _ ih => exact unchanged_of_put hn fresh (ih hy)
  | modified hn _ fresh _ ih => exact unchanged_of_put hn fresh (ih hy)
  | deleted _ _ _ ih => exact (ih hy).imp_left some_of_update_none

end

namespace Informer

/-- The informer has the objects of a server in its cache, each key once. -/
structure Holds (S : Known) (i : Informer) : Prop where
  nodup : i.cache.keys.Nodup
  find : ∀ name, i.cache.find? name = S name

variable {past : List Value} {S T : Known} {i : Informer} {raw obj : Value} {name : String}

theorem Holds.kept (h : Holds S i) (served : Served past S) : Kept (fun _ => True) i.cache := by
  refine ⟨h.nodup, fun e he => ?_, fun _ _ => trivial⟩
  exact served.key e.1 e.2 ((h.find e.1).symm.trans (Table.find?_of_mem h.nodup he))

/-! ### Changes one by one -/

/-- An object with a version that is new to its key is told of. -/
theorem change_fresh (served : Served past S) (hn : key obj = .ok name) (fresh : Fresh past obj) :
    ∃ e, change (S name) obj = .ok (some e) ∧ S.tell e = Function.update S name (some obj) := by
  cases hs : S name with
  | none => exact ⟨_, rfl, Known.tell_added hn⟩
  | some old =>
    obtain ⟨s, -, hv⟩ := fresh.numbered
    obtain ⟨t, -, hw⟩ := served.numbered name old hs
    have differ : t ≠ s := by
      rintro rfl
      exact fresh.unused old (served.past name old hs) ((served.key name old hs).trans hn.symm)
        (hw.trans hv.symm)
    refine ⟨⟨.updated, obj, some old⟩, ?_, Known.tell_updated hn⟩
    simp [change, hv, hw, same_str, differ, bind, Except.bind, pure, Except.pure]

theorem holds_put (h : Holds S i) (served : Served past S) (hn : key obj = .ok name) (fresh : Fresh past obj)
    (hk : raw.get "type" = .ok (.str "ADDED") ∨ raw.get "type" = .ok (.str "MODIFIED"))
    (ho : raw.section? "object" = .ok obj) :
    ∃ e, (i.apply raw).2.outcome = .ok (some e) ∧ S.tell e = Function.update S name (some obj) ∧
      Holds (Function.update S name (some obj)) (i.apply raw).1 := by
  obtain ⟨s, -, hv⟩ := fresh.numbered
  obtain ⟨e, he, happ⟩ := apply_changed (h.kept served) hk ho hv hn
  obtain ⟨told, hchange, htell⟩ := change_fresh served hn fresh
  rw [h.find name, hchange] at he
  cases he
  have cached : (i.apply raw).1.cache = i.cache.set name obj := by rw [happ, store, noteVersion_cache]
  refine ⟨told, by rw [happ]; rfl, htell, ?_, fun other => ?_⟩
  · rw [cached]
    exact Table.nodup_set h.nodup name obj
  · rw [cached, Table.find?_set, Function.update_apply, h.find other]
    simp only [eq_comm]

theorem holds_drop (h : Holds S i) (served : Served past S) (hn : key obj = .ok name)
    (hk : raw.get "type" = .ok (.str "DELETED")) (ho : raw.section? "object" = .ok obj) :
    ∃ e, (i.apply raw).2.outcome = .ok (some e) ∧ S.tell e = Function.update S name none ∧
      Holds (Function.update S name none) (i.apply raw).1 := by
  obtain ⟨v, hv⟩ := revision_of_key hn
  have happ := apply_deleted hk ho hv hn i
  have cached : (i.apply raw).1.cache = i.cache.erase name := by rw [happ, remove, noteVersion_cache]
  have found : ∀ other, (i.cache.erase name).find? other = Function.update S name none other := by
    intro other
    rw [Table.find?_erase h.nodup, Function.update_apply, h.find other]
    simp only [eq_comm]
  have mirrors : Mirrors Eq S i.cache := mirrors_eq_iff.mpr fun other => (h.find other).symm
  obtain ⟨-, after⟩ := remove_faithful (h.kept served) mirrors hn
  refine ⟨(i.remove name obj).2, by rw [happ]; rfl, funext fun other => ?_, ?_, fun other => ?_⟩
  · rw [mirrors_eq_iff.mp after other]
    exact found other
  · rw [cached]
    exact Table.nodup_erase h.nodup name
  · rw [cached, found]

/-- What came of telling an informer of changes: it said one thing of each, which lead a consumer from the
first objects of the server to the last, and these it has. -/
def Follows (S T : Known) (done : Informer × List (Except WatchError (Option MembershipEvent))) : Prop :=
  ∃ es : List MembershipEvent, done.2 = es.map (fun e => .ok (some e)) ∧ S.replay es = T ∧ Holds T done.1

theorem Follows.cons {R : Known} {rest : List Value} {e : MembershipEvent}
    (first : (i.apply raw).2.outcome = .ok (some e)) (told : S.tell e = R)
    (later : Follows R T ((i.apply raw).1.applyAll rest)) : Follows S T (i.applyAll (raw :: rest)) := by
  obtain ⟨es, outcomes, replay, last⟩ := later
  refine ⟨e :: es, ?_, ?_, last⟩
  · rw [applyAll_cons, first, outcomes, List.map_cons]
  · rw [Known.replay_cons, told, replay]

theorem applyAll_follows {changes : List Change} (evolves : Evolves past S changes T)
    (served : Served past S) {i : Informer} (h : Holds S i) {raws : List Value}
    (told : List.Forall₂ Change.ToldBy changes raws) : Follows S T (i.applyAll raws) := by
  induction evolves generalizing i raws with
  | done =>
    cases told
    exact ⟨[], rfl, rfl, h⟩
  | created hn _ fresh _ ih =>
    cases told with | cons tells rest =>
    obtain ⟨e, outcome, tell, next⟩ := holds_put h served hn fresh (Or.inl tells.kind) tells.obj
    exact (ih (served.put hn fresh.numbered) next rest).cons outcome tell
  | modified hn _ fresh _ ih =>
    cases told with | cons tells rest =>
    obtain ⟨e, outcome, tell, next⟩ := holds_put h served hn fresh (Or.inr tells.kind) tells.obj
    exact (ih (served.put hn fresh.numbered) next rest).cons outcome tell
  | deleted hn _ _ ih =>
    cases told with | cons tells rest =>
    obtain ⟨e, outcome, tell, next⟩ := holds_drop h served hn tells.kind tells.obj
    exact (ih (served.drop _) next rest).cons outcome tell

/-! ### One listing -/

/-- The items of a listing are the objects of the server, in any order. -/
def Lists (items : Value) (S : Known) : Prop :=
  ∃ objs, items.elements = .ok objs ∧ ∀ obj, obj ∈ objs ↔ ∃ name, S name = some obj

/-- A listing of the objects of a server is read as they are, whatever their order. -/
theorem keyed_lists (served : Served past S) {items : Value} (lists : Lists items S) :
    ∃ fresh, keyed items = .ok fresh ∧ ∀ name, fresh.find? name = S name := by
  obtain ⟨objs, hobjs, listed⟩ := lists
  have keyed_one : ∀ obj ∈ objs, (do pure (← key obj, obj) : Except Fault (String × Value)) =
      .ok ((key obj).toOption.getD "", obj) := by
    intro obj ho
    obtain ⟨name, hs⟩ := (listed obj).mp ho
    rw [served.key name obj hs]
    rfl
  have agrees : ∀ e ∈ objs.map (fun obj => ((key obj).toOption.getD "", obj)), S e.1 = some e.2 := by
    intro e he
    obtain ⟨obj, ho, rfl⟩ := List.mem_map.mp he
    obtain ⟨name, hs⟩ := (listed obj).mp ho
    rw [served.key name obj hs]
    exact hs
  refine ⟨_, ?_, fun name => Table.find?_ofList agrees (fun hn => ?_)⟩
  · rw [keyed, hobjs, ok_bind, mapM_of_forall keyed_one]
    rfl
  · obtain ⟨obj, hs⟩ := Option.ne_none_iff_exists'.mp hn
    refine List.mem_map.mpr ⟨_, List.mem_map.mpr ⟨obj, (listed obj).mpr ⟨name, hs⟩, rfl⟩, ?_⟩
    simp [served.key name obj hs, Except.toOption]

/-- Of the objects that a server has at first and those that it has in the end, one key and one version stand
for one object. -/
theorem evolves_agreement {changes : List Change} (evolves : Evolves past S changes T)
    (served : Served past S) :
    Agreement (fun obj => ∃ name, S name = some obj ∨ T name = some obj) Eq := by
  obtain ⟨_, last⟩ := evolves.served served
  -- an object of the end that was there at first is the same, or its version was not in use then
  have across : ∀ {name : String} {x y : Value}, S name = some x → T name = some y →
      revision x = revision y → x = y := by
    intro name x y hx hy same
    rcases evolves.unchanged hy with kept | unused
    · exact Option.some.inj (hx.symm.trans kept)
    · exact absurd same (unused x (served.past name x hx) (served.key name x hx))
  refine agreement_eq fun x y ⟨n, hx⟩ ⟨m, hy⟩ name v w hn hm hv hw same => ?_
  have numbered : ∀ {obj : Value} {n : String}, S n = some obj ∨ T n = some obj →
      Numbered obj ∧ key obj = .ok n := by
    intro obj n h
    rcases h with h | h
    · exact ⟨served.numbered n obj h, served.key n obj h⟩
    · exact ⟨last.numbered n obj h, last.key n obj h⟩
  obtain ⟨⟨s, -, hs⟩, hkx⟩ := numbered hx
  obtain ⟨⟨t, -, ht⟩, hky⟩ := numbered hy
  cases hn.symm.trans hkx
  cases hm.symm.trans hky
  cases hv.symm.trans hs
  cases hw.symm.trans ht
  rw [same_str, decide_eq_true_eq] at same
  have equal : revision x = revision y := by rw [hv, hw, same]
  rcases hx with hx | hx <;> rcases hy with hy | hy
  · exact Option.some.inj (hx.symm.trans hy)
  · exact across hx hy equal
  · exact (across hy hx equal.symm).symm
  · exact Option.some.inj (hx.symm.trans hy)

theorem relist_follows {changes : List Change} (evolves : Evolves past S changes T)
    (served : Served past S) {i : Informer} (h : Holds S i) {items : Value} (lists : Lists items T)
    (version : Value) :
    ∃ es, (i.relist items version).2.outcome = .ok es ∧ S.replay es = T ∧
      Holds T (i.relist items version).1 := by
  obtain ⟨_, last⟩ := evolves.served served
  obtain ⟨fresh, hfresh, found⟩ := keyed_lists last lists
  have law := evolves_agreement evolves served
  have kept : Kept (fun obj => ∃ name, S name = some obj ∨ T name = some obj) i.cache := by
    refine ⟨h.nodup, (h.kept served).key, fun e he => ⟨e.1, Or.inl ?_⟩⟩
    rw [← h.find e.1, Table.find?_of_mem h.nodup he]
  have listed : Kept (fun obj => ∃ name, S name = some obj ∨ T name = some obj) fresh := by
    obtain ⟨objs, hobjs, mem⟩ := lists
    refine keyed_kept hfresh fun found hf obj ho => ?_
    cases hobjs.symm.trans hf
    obtain ⟨name, hn⟩ := (mem obj).mp ho
    exact ⟨name, Or.inr hn⟩
  obtain ⟨added, hadded⟩ := additions_ok kept listed.key
  have mirrors : Mirrors Eq S i.cache := mirrors_eq_iff.mpr fun other => (h.find other).symm
  obtain ⟨-, after⟩ := relist_faithful law kept listed mirrors hadded
  have replay : S.replay (added ++ removals i.cache fresh) = T :=
    funext fun name => (mirrors_eq_iff.mp after name).trans (found name)
  obtain ⟨hi, hout⟩ := relist_eq hfresh hadded version
  exact ⟨_, hout, replay, by rw [hi]; exact ⟨listed.nodup, found⟩⟩

/-! ### Both ways -/

/-- An informer that has the objects of a server ends with those that the server has after some changes, whether
it is told of the changes one by one or lists once when they are over; replaying what it says leads a consumer
to them both times. -/
theorem watch_and_listing_agree {changes : List Change} (served : Served past S)
    (evolves : Evolves past S changes T) {i : Informer} (holds : Holds S i) {raws : List Value}
    (told : List.Forall₂ Change.ToldBy changes raws) {items : Value} (lists : Lists items T) (version : Value) :
    (∃ es : List MembershipEvent, (i.applyAll raws).2 = es.map (fun e => .ok (some e)) ∧ S.replay es = T ∧
      Holds T (i.applyAll raws).1) ∧
    ∃ es, (i.relist items version).2.outcome = .ok es ∧ S.replay es = T ∧
      Holds T (i.relist items version).1 :=
  ⟨applyAll_follows evolves served holds told, relist_follows evolves served holds lists version⟩

/-! ### A server whose ingress is copied, moved and deleted -/

/-- At first there is one ingress. -/
def shopOnly : Known :=
  Function.update Known.nothing "default/shop" (some shop)

/-- In the end there is its copy, which has moved. -/
def copyOnly : Known :=
  Function.update (Function.update (Function.update shopOnly "default/copy" (some copy)) "default/copy"
    (some movedCopy)) "default/shop" none

theorem eq_of_shopOnly {name : String} {obj : Value} (h : shopOnly name = some obj) :
    name = "default/shop" ∧ obj = shop :=
  (some_of_update_some h).resolve_right (Option.some_ne_none obj).symm

theorem served_shopOnly : Served [shop] shopOnly := by
  refine ⟨fun name obj h => ?_, fun name obj h => ?_, fun name obj h => ?_⟩
  all_goals obtain ⟨rfl, rfl⟩ := eq_of_shopOnly h
  · exact key_shop
  · exact ⟨"1", by decide, rfl⟩
  · exact List.mem_singleton_self _

theorem holds_shopOnly : Holds shopOnly { resource := "ingresses", cache := [("default/shop", shop)] } := by
  refine ⟨List.nodup_singleton _, fun name => ?_⟩
  rw [show shopOnly name = if name = "default/shop" then some shop else none from Function.update_apply ..]
  simp only [Table.find?, eq_comm]

theorem evolves_copyOnly :
    Evolves [shop] shopOnly [.created copy, .modified movedCopy, .deleted shop] copyOnly := by
  have version : revision copy = .ok (.str "2") ∧ revision movedCopy = .ok (.str "3") := ⟨rfl, rfl⟩
  refine .created key_copy rfl ⟨⟨"2", by decide, rfl⟩, ?_⟩ (.modified key_movedCopy rfl
    ⟨⟨"3", by decide, rfl⟩, ?_⟩ (.deleted key_shop rfl .done))
  · exact List.forall_mem_singleton.mpr fun same => absurd same key_shop_ne.1
  · refine List.forall_mem_cons.mpr ⟨fun _ same => ?_, List.forall_mem_singleton.mpr fun same =>
      absurd same key_shop_ne.2⟩
    simp [version] at same

theorem lists_copyOnly : Lists (.list [movedCopy]) copyOnly := by
  refine ⟨[movedCopy], rfl, fun obj => List.mem_singleton.trans ⟨?_, fun listed => ?_⟩⟩
  · rintro rfl
    exact ⟨"default/copy", rfl⟩
  · obtain ⟨name, h⟩ := listed
    by_cases hn : name = "default/shop"
    · subst hn
      cases h
    · rw [copyOnly, Function.update_of_ne hn, Function.update_idem] at h
      rcases some_of_update_some h with ⟨-, rfl⟩ | h
      · rfl
      · exact absurd (eq_of_shopOnly h).1 hn

theorem watch_and_listing_agree_moving :
    let raw (kind : String) (obj : Value) : Value := .dict [(.str "type", .str kind), (.str "object", obj)]
    let i : Informer := { resource := "ingresses", cache := [("default/shop", shop)] }
    let raws := [raw "ADDED" copy, raw "MODIFIED" movedCopy, raw "DELETED" shop]
    Served [shop] shopOnly ∧
    Evolves [shop] shopOnly [.created copy, .modified movedCopy, .deleted shop] copyOnly ∧
    Holds shopOnly i ∧
    List.Forall₂ Change.ToldBy [.created copy, .modified movedCopy, .deleted shop] raws ∧
    Lists (.list [movedCopy]) copyOnly ∧
    Holds copyOnly (i.applyAll raws).1 ∧ Holds copyOnly (i.relist (.list [movedCopy]) (.str "4")).1 := by
  intro raw i raws
  have told : List.Forall₂ Change.ToldBy [.created copy, .modified movedCopy, .deleted shop] raws :=
    .cons ⟨rfl, rfl⟩ (.cons ⟨rfl, rfl⟩ (.cons ⟨rfl, rfl⟩ .nil))
  obtain ⟨⟨_, -, -, watched⟩, _, -, -, listed⟩ :=
    watch_and_listing_agree served_shopOnly evolves_copyOnly holds_shopOnly told lists_copyOnly (.str "4")
  exact ⟨served_shopOnly, evolves_copyOnly, holds_shopOnly, told, lists_copyOnly, watched, listed⟩

end Informer

end ClusterMdns
