import ClusterMdns.Proofs.Document.Failure
import ClusterMdns.Proofs.Informer.Unknown

/-! The shapes of listings and watch events that an informer can use. Every object has to be a mapping with a header
that is one, and so has what holds the objects; whatever else is in them does no harm. An informer that has come to
its state by listings and watch events uses exactly those, and refuses all others in one of two ways. -/

namespace ClusterMdns

open Document ClusterObject

namespace Document.Value

theorem get?_cases (v : Value) : (v.IsMapping ∧ ∀ key, ∃ found, v.get? key = .ok found) ∨
    (¬ v.IsMapping ∧ ∀ key, v.get? key = .error .noOperation) := by
  by_cases mapping : v.IsMapping
  · obtain ⟨entries, opened⟩ := mapping
    exact Or.inl ⟨⟨entries, opened⟩, fun key => ⟨lookup (.str key) entries, by rw [get?, opened]⟩⟩
  · exact Or.inr ⟨mapping, fun key => get?_eq_error.mpr ⟨mapping, rfl⟩⟩

theorem section?_cases (v : Value) (key : String) : (v.IsMapping ∧ ∃ w, v.section? key = .ok w) ∨
    (¬ v.IsMapping ∧ v.section? key = .error .noOperation) := by
  unfold section? get
  rcases v.get?_cases with ⟨mapping, looked_up⟩ | ⟨other, fails⟩
  · obtain ⟨found, hf⟩ := looked_up key
    rw [hf]
    exact Or.inl ⟨mapping, _, rfl⟩
  · rw [fails key]
    exact Or.inr ⟨other, rfl⟩

/-- What is found for a missing entry is a mapping already. -/
theorem orElse_of_section? {v w : Value} {key : String} (h : v.section? key = .ok w) : w.orElse (dict []) = w := by
  obtain ⟨found, -, rfl⟩ := map_eq_ok.mp h
  cases ht : found.truthy with
  | true => rw [orElse_of_truthy ht, orElse_of_truthy ht]
  | false =>
    rw [orElse_of_not_truthy ht]
    rfl

end Document.Value

/-! ### Objects -/

/-- The value is a mapping, and so is its header, unless that is absent or counts as nothing. -/
def ClusterObject.HasHeader (obj : Value) : Prop :=
  ∃ header, obj.section? "metadata" = .ok header ∧ header.IsMapping

theorem ClusterObject.key_cases (obj : Value) :
    (HasHeader obj ∧ ∃ name, key obj = .ok name) ∨ (¬ HasHeader obj ∧ key obj = .error .noOperation) := by
  rcases obj.section?_cases "metadata" with ⟨-, header, hm⟩ | ⟨-, hm⟩
  · have read : metadata obj = .ok header := hm
    rcases header.get?_cases with ⟨mapping, looked_up⟩ | ⟨other, fails⟩
    · obtain ⟨space, hs⟩ := looked_up "namespace"
      obtain ⟨name, hn⟩ := looked_up "name"
      refine Or.inl ⟨⟨header, hm, mapping⟩, ?_⟩
      simp only [key, read, ok_bind, hs, hn, Except.map]
      exact ⟨_, rfl⟩
    · refine Or.inr ⟨?_, by simp only [key, read, ok_bind, fails, Except.map]; rfl⟩
      rintro ⟨_, h, mapping⟩
      cases hm.symm.trans h
      exact other mapping
  · have unread : metadata obj = .error .noOperation := hm
    refine Or.inr ⟨?_, by rw [key, unread]; rfl⟩
    rintro ⟨_, h, -⟩
    cases hm.symm.trans h

theorem ClusterObject.revision_cases {obj : Value} (same : obj.orElse (.dict []) = obj) :
    (HasHeader obj ∧ ∃ v, revision obj = .ok v) ∨ (¬ HasHeader obj ∧ revision obj = .error .noOperation) := by
  unfold revision
  rw [same]
  rcases obj.section?_cases "metadata" with ⟨-, header, hm⟩ | ⟨-, hm⟩
  · rw [hm, ok_bind]
    rcases header.get?_cases with ⟨mapping, looked_up⟩ | ⟨other, fails⟩
    · obtain ⟨version, hv⟩ := looked_up "resourceVersion"
      rw [hv]
      exact Or.inl ⟨⟨header, hm, mapping⟩, _, rfl⟩
    · rw [fails]
      refine Or.inr ⟨?_, rfl⟩
      rintro ⟨_, h, mapping⟩
      cases hm.symm.trans h
      exact other mapping
  · rw [hm]
    refine Or.inr ⟨?_, rfl⟩
    rintro ⟨_, h, -⟩
    cases hm.symm.trans h

namespace Informer

variable {i : Informer}

/-! ### Listings -/

/-- The items of a listing can be stepped through, and each of them has a header. -/
def Listable (items : Value) : Prop :=
  ∃ objs, items.elements = .ok objs ∧ ∀ obj ∈ objs, HasHeader obj

/-- A value of the wrong shape. -/
def Misshapen (f : Fault) : Prop :=
  f = .noOperation ∨ f = .wrongKind

theorem entry_eq_error {obj : Value} {f : Fault} :
    (do pure (← key obj, obj) : Except Fault (String × Value)) = .error f ↔ ¬ HasHeader obj ∧ f = .noOperation := by
  rcases key_cases obj with ⟨header, name, hn⟩ | ⟨headless, hn⟩
  · simp [hn, header, pure, Except.pure]
  · simp [hn, headless, bind, Except.bind, eq_comm]

theorem keyed_cases (items : Value) : (Listable items ∧ ∃ fresh, keyed items = .ok fresh) ∨
    (¬ Listable items ∧ ∃ f, keyed items = .error f ∧ Misshapen f) := by
  cases he : items.elements with
  | error f =>
    refine Or.inr ⟨?_, f, ?_, Or.inr (Value.elements_eq_error.mp he).2⟩
    · rintro ⟨_, h, -⟩
      cases he.symm.trans h
    · rw [keyed, he]
      rfl
  | ok objs =>
    have listable : Listable items ↔ ∀ obj ∈ objs, HasHeader obj := by simp [Listable, he]
    have failed {f : Fault} : (objs.mapM fun obj => do pure (← key obj, obj) : Except Fault _) = .error f ↔
        f = .noOperation ∧ ∃ obj ∈ objs, ¬ HasHeader obj := by
      rw [mapM_eq_error fun obj f h => (entry_eq_error.mp h).2]
      simp only [entry_eq_error, and_true]
    rw [keyed, he, ok_bind, listable]
    cases made : (objs.mapM fun obj => do pure (← key obj, obj) : Except Fault _) with
    | ok entries =>
      refine Or.inl ⟨fun obj ho => ?_, _, rfl⟩
      by_contra headless
      cases made.symm.trans (failed.mpr ⟨rfl, obj, ho, headless⟩)
    | error f =>
      obtain ⟨rfl, obj, ho, headless⟩ := failed.mp made
      exact Or.inr ⟨fun all => headless (all obj ho), _, rfl, Or.inl rfl⟩

/-- A listing is used as a whole, or refused for its shape. -/
theorem relist_shape (tidy : Tidy i) (items version : Value) :
    (Listable items ∧ ∃ fresh added, keyed items = .ok fresh ∧ additions i.cache fresh = .ok added ∧
      (i.relist items version).2.outcome = .ok (added ++ removals i.cache fresh)) ∨
    (¬ Listable items ∧ ∃ f, (i.relist items version).2.outcome = .error f ∧ Misshapen f) := by
  rcases keyed_cases items with ⟨listable, fresh, hf⟩ | ⟨other, f, hf, misshapen⟩
  · have kept : Kept (fun _ => True) fresh := keyed_kept hf fun _ _ _ _ => trivial
    obtain ⟨added, ha⟩ := additions_ok tidy kept.key
    exact Or.inl ⟨listable, fresh, added, hf, ha, (relist_eq hf ha version).2⟩
  · refine Or.inr ⟨other, f, ?_, misshapen⟩
    unfold relist
    rw [hf]
    rfl

/-! ### Watch events -/

/-- The event is a mapping, and so is its object, unless that is absent or counts as nothing. Its object has a
header, unless the event is an error. -/
def Readable (raw : Value) : Prop :=
  ∃ kind obj, raw.get "type" = .ok kind ∧ raw.section? "object" = .ok obj ∧ obj.IsMapping ∧
    (kind = .str "ERROR" ∨ HasHeader obj)

theorem readError_shape (resource : String) (obj : Value) :
    (obj.IsMapping ∧ ∃ message, (readError resource obj).outcome = .error (.expired message)) ∨
    (¬ obj.IsMapping ∧ (readError resource obj).outcome = .error (.fault .noOperation)) := by
  unfold readError Value.get
  rcases obj.get?_cases with ⟨mapping, looked_up⟩ | ⟨other, fails⟩
  · obtain ⟨code, hc⟩ := looked_up "code"
    obtain ⟨message, hm⟩ := looked_up "message"
    refine Or.inl ⟨mapping, ?_⟩
    rw [hc, hm]
    simp only [Except.map, ok_bind]
    split
    · cases ‹_ = _›
    · split
      · exact ⟨_, rfl⟩
      · exact ⟨_, rfl⟩
  · refine Or.inr ⟨other, ?_⟩
    rw [fails]
    rfl

/-- An event about an object with a header is used, whatever its type is. -/
theorem apply_of_header (tidy : Tidy i) {raw kind obj : Value} (hk : raw.get "type" = .ok kind)
    (known : kind ≠ .str "ERROR") (ho : raw.section? "object" = .ok obj) {v : Value} (hv : revision obj = .ok v) :
    ∃ e, (i.apply raw).2.outcome = .ok e := by
  obtain ⟨name, hn⟩ := key_of_revision ho hv
  cases hu : isUnknown raw with
  | true => exact ⟨none, (apply_unknown hu ho hv hn i).2⟩
  | false =>
    obtain ⟨s, hs, rfl⟩ := isUnknown_eq_false_iff.mp hu kind hk
    simp only [knownKinds, List.mem_cons, List.not_mem_nil, or_false] at hs
    rcases hs with rfl | rfl | rfl | rfl | rfl
    · obtain ⟨e, -, happ⟩ := apply_changed tidy (Or.inl hk) ho hv hn
      exact ⟨e, by rw [happ]; rfl⟩
    · obtain ⟨e, -, happ⟩ := apply_changed tidy (Or.inr hk) ho hv hn
      exact ⟨e, by rw [happ]; rfl⟩
    · exact ⟨_, by rw [apply_deleted hk ho hv hn]; rfl⟩
    · exact ⟨_, by rw [apply_bookmark hk ho hv]; rfl⟩
    · exact absurd rfl known

/-- A watch event is used, or calls for a new listing, or it is refused for its shape. -/
theorem apply_shape (tidy : Tidy i) (raw : Value) :
    (Readable raw ∧ ((∃ e, (i.apply raw).2.outcome = .ok e) ∨
      ∃ message, (i.apply raw).2.outcome = .error (.expired message))) ∨
    (¬ Readable raw ∧ (i.apply raw).2.outcome = .error (.fault .noOperation)) := by
  rcases raw.get?_cases with ⟨-, looked_up⟩ | ⟨other, fails⟩
  · obtain ⟨found, hf⟩ := looked_up "type"
    have hk : raw.get "type" = .ok (found.getD .null) := by rw [Value.get, hf]; rfl
    obtain ⟨obj, ho⟩ := Value.section?_of_get hk "object"
    generalize found.getD .null = kind at hk
    have readable : Readable raw ↔ obj.IsMapping ∧ (kind = .str "ERROR" ∨ HasHeader obj) := by
      simp [Readable, hk, ho]
    rw [readable]
    by_cases error : kind = .str "ERROR"
    · have told : (i.apply raw).2 = readError i.resource obj := by
        rw [apply_eq hk ho, if_pos (Value.isText_iff.mpr error)]
      rw [told]
      exact (readError_shape i.resource obj).imp (And.imp (⟨·, Or.inl error⟩) Or.inr)
        (And.imp_left (mt And.left))
    · rcases revision_cases (Value.orElse_of_section? ho) with ⟨header, v, hv⟩ | ⟨headless, hv⟩
      · have mapping : obj.IsMapping := by
          obtain ⟨_, hm, -⟩ := header
          obtain ⟨_, hg, -⟩ := map_eq_ok.mp hm
          exact Value.isMapping_of_get hg
        exact Or.inl ⟨⟨mapping, Or.inr header⟩, Or.inl (apply_of_header tidy hk error ho hv)⟩
      · have plain : kind.isText "ERROR" = false := Bool.eq_false_iff.mpr (mt Value.isText_iff.mp error)
        refine Or.inr ⟨fun h => h.2.elim error headless, ?_⟩
        rw [apply_unreadable hk plain ho hv]
        rfl
  · have unread : raw.get "type" = .error .noOperation := by rw [Value.get, fails]; rfl
    refine Or.inr ⟨?_, ?_⟩
    · rintro ⟨_, _, h, -⟩
      cases unread.symm.trans h
    · unfold apply
      rw [unread]
      rfl

end Informer

end ClusterMdns
