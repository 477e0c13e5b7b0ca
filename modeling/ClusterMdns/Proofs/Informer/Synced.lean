import ClusterMdns.Proofs.Informer.Breakdown

/-! When an informer counts as synced. It does from the moment at which the first listing arrives that it can use, and
for good. But the objects of that listing are told of only then: one at once, and one more whenever the consumer asks.
So an informer may count as synced while it still owes objects, though only as long as it is handing a listing over. -/

namespace ClusterMdns

open Document ClusterObject Informer

namespace MembershipEvent

/-- The event of an object that was not known. -/
def addition (obj : Value) : MembershipEvent :=
  ⟨.added, obj, none⟩

end MembershipEvent

open MembershipEvent

namespace Informer

/-- To an informer that has nothing everything is new. -/
theorem additions_nil (entries : List (String × Value)) :
    additions [] entries = .ok (entries.map fun e => addition e.2) := by
  induction entries with
  | nil => rfl
  | cons e rest ih =>
    rw [additions_cons, ih]
    rfl

/-- Objects that stand under their own keys are told apart by them. -/
theorem nodup_additions {offered : Value → Prop} {fresh : Table String Value} (kept : Kept offered fresh) :
    (fresh.map fun e => addition e.2).Nodup := by
  have keys : (fresh.map fun e => addition e.2).map (fun e => key e.obj) = fresh.keys.map .ok := by
    rw [List.map_map, Table.keys, List.map_map]
    exact List.map_congr_left fun e he => kept.key e he
  refine List.Nodup.of_map (fun e => key e.obj) ?_
  rw [keys]
  exact kept.nodup.map fun _ _ => Except.ok.inj

end Informer

namespace EventStream

variable {s : EventStream} {input : StreamInput} {resource : String}

/-! ### The first listing -/

/-- The items of the listing that an input brings, if one was asked for and it can be used. -/
def listing? (s : EventStream) (input : StreamInput) : Option Value :=
  match input, s.phase with
  | .listed items version, .listing =>
    match (s.informer.relist items version).2.outcome with
    | .ok _ => some items
    | .error _ => none
  | _, _ => none

/-- The items of the first listing of a run that can be used, and the inputs that come after it. -/
def firstListing? (s : EventStream) : List StreamInput → Option (Value × List StreamInput)
  | [] => none
  | input :: rest =>
    match s.listing? input with
    | some items => some (items, rest)
    | none => (s.step input).1.firstListing? rest

theorem listing?_eq_some {items : Value} (h : s.listing? input = some items) :
    s.phase = .listing ∧ ∃ version es, input = .listed items version ∧
      (s.informer.relist items version).2.outcome = .ok es := by
  unfold listing? at h
  split at h
  · rename_i listed version asked
    split at h
    · rename_i es used
      cases h
      exact ⟨asked, version, es, rfl, used⟩
    · cases h
  · cases h

theorem listing?_eq_none {items version : Value} (h : s.listing? (.listed items version) = none)
    (asked : s.phase = .listing) : ∃ f, (s.informer.relist items version).2.outcome = .error f := by
  unfold listing? at h
  rw [asked] at h
  dsimp only at h
  split at h
  · cases h
  · exact ⟨_, ‹_›⟩

/-- No listing has been used yet: the informer has nothing, and no watch has been opened. -/
structure Unlisted (resource : String) (s : EventStream) : Prop where
  informer : s.informer = { resource }
  calling : s.Restarting ∨ s.phase = .listing

theorem opened_unlisted (resource : String) : Unlisted resource (opened resource) :=
  ⟨rfl, .inl (opened_restarting resource)⟩

/-- While no call is under way, nothing changes and nothing is told. -/
theorem Restarting.silent (h : s.Restarting) (input : StreamInput) :
    (s.step input).1.informer = s.informer ∧ told (s.step input).2 = [] := by
  unfold Restarting at h
  unfold step
  split
  case h_3 | h_4 | h_5 | h_6 | h_7 | h_8 | h_9 =>
    rename_i hs
    rw [hs] at h
    exact h.elim
  case h_2 due _ =>
    refine ⟨turn_informer due s, ?_⟩
    unfold turn
    split
    · rfl
    · split <;> rfl
  all_goals exact ⟨rfl, rfl⟩

/-- Before the first listing nothing is told. -/
theorem Unlisted.step (h : Unlisted resource s) (none : s.listing? input = none) :
    Unlisted resource (s.step input).1 ∧ told (s.step input).2 = [] := by
  obtain ⟨fresh, restarting | asked⟩ := h
  · obtain ⟨same, silent⟩ := restarting.silent input
    exact ⟨⟨same.trans fresh, (restarting_step restarting input).imp And.left And.left⟩, silent⟩
  · -- the call under way fails, or it goes on
    by_cases failure : s.EndsInFailure input
    · obtain ⟨same, silent⟩ := step_of_failure failure
      exact ⟨⟨same.trans fresh, .inl (restarting_of_failure failure).1⟩, silent⟩
    · unfold EventStream.step
      split
      case h_1 | h_11 => exact ⟨⟨fresh, .inr asked⟩, rfl⟩
      case h_3 =>
        obtain ⟨f, refused⟩ := listing?_eq_none none asked
        exact absurd ⟨asked, f, refused⟩ failure
      case h_4 => exact absurd (.inl asked) failure
      all_goals
        rename_i hs
        cases asked.symm.trans hs

/-! ### The flag -/

theorem apply_synced (raw : Value) (i : Informer) : (i.apply raw).1.synced = i.synced := by
  rcases i.apply_cases raw with ⟨_, hi, -⟩ | ⟨kind, obj, -, -, applied⟩
  · rw [hi]
  have noted (v : Value) : (i.noteVersion v).synced = i.synced := by
    unfold noteVersion
    split <;> rfl
  generalize i.apply raw = done at applied ⊢
  obtain ⟨next, lines, outcome⟩ := done
  dsimp only at applied ⊢
  cases applied with
  | refused e => rfl
  | noted _ _ => exact noted _
  | removed _ _ _ => exact noted _
  | stored _ _ _ _ => exact noted _
  | hidden _ _ _ => exact noted _

theorem relist_synced {items version : Value} {i : Informer} (h : i.synced = true) :
    (i.relist items version).1.synced = true := by
  rcases i.relist_cases items version with ⟨_, hi, -⟩ | ⟨_, _, -, -, hi, -⟩
  · rw [hi, h]
  · rw [hi]

/-- Whatever comes, the informer goes on to count as synced. -/
theorem step_synced (h : s.informer.synced = true) (input : StreamInput) :
    (s.step input).1.informer.synced = true := by
  unfold step
  split
  case h_2 => rwa [turn_informer]
  case h_3 items version _ =>
    have relisted : (s.informer.relist items version).1.synced = true := relist_synced h
    unfold takeListing
    cases hout : (s.informer.relist items version).2.outcome with
    | ok es => simpa only [hout, deliver_informer] using relisted
    | error f => simpa only [hout, fail_informer] using relisted
  case h_4 | h_8 => rwa [fail_informer]
  case h_5 => rwa [deliver_informer]
  case h_6 raw _ =>
    have applied : (s.informer.apply raw).1.synced = true := (apply_synced raw s.informer).trans h
    unfold takeEvent
    cases hout : (s.informer.apply raw).2.outcome with
    | ok e => cases e <;> simpa only [hout, goOn_informer] using applied
    | error e => cases e <;> simpa only [hout, fail_informer] using applied
  all_goals exact h

theorem run_synced (h : s.informer.synced = true) (inputs : List StreamInput) :
    (s.run inputs).1.informer.synced = true := by
  induction inputs generalizing s with
  | nil => exact h
  | cons input rest ih => exact ih (step_synced h input)

/-! ### The delivery -/

/-- How often the consumer asks for the next event. -/
def asks (inputs : List StreamInput) : Nat :=
  inputs.countP fun input => match input with
    | .taken => true
    | _ => false

/-- How far the delivery of a listing has come, when `out` was told since it arrived and the consumer has asked
`asked` times. -/
inductive Handed (news : List MembershipEvent) (s : EventStream) (out : List MembershipEvent) (asked : Nat) : Prop
  | under (rest : List MembershipEvent) (phase : s.phase = .delivering rest) (told : out ++ rest = news)
      (count : out.length = asked + 1)
  | done (told : news <+: out) (count : news.length ≤ asked + 1)

variable {news out : List MembershipEvent} {asked : Nat}

theorem deliver_handed (news : List MembershipEvent) (s : EventStream) :
    Handed news (s.deliver news).1 (told (s.deliver news).2) 0 := by
  cases news with
  | nil => exact .done List.nil_prefix (Nat.zero_le _)
  | cons e rest => exact .under rest rfl rfl rfl

theorem asks_cons (input : StreamInput) (inputs : List StreamInput) :
    asks (input :: inputs) = asks [input] + asks inputs := by
  rw [asks, asks, asks, ← List.countP_append, List.singleton_append]

theorem step_of_delivering {rest : List MembershipEvent} (phase : s.phase = .delivering rest)
    (other : input ≠ .taken) : (s.step input).1.phase = .delivering rest ∧ told (s.step input).2 = [] := by
  cases input with
  | taken => exact absurd rfl other
  | stop => exact ⟨phase, rfl⟩
  | turn | listed | received | closed | failed | rested =>
    simp only [step, phase]
    exact ⟨trivial, rfl⟩

/-- The next event is told of when the consumer asks, and at no other input. -/
theorem Handed.step (h : Handed news s out asked) (input : StreamInput) :
    Handed news (s.step input).1 (out ++ told (s.step input).2) (asked + asks [input]) := by
  cases h with
  | done told count => exact .done (told.trans (List.prefix_append _ _)) (by omega)
  | under rest phase all count =>
    by_cases asking : input = .taken
    · subst asking
      have stepped : s.step .taken = s.deliver rest := by simp only [EventStream.step, phase]
      rw [stepped]
      cases rest with
      | nil =>
        rw [List.append_nil] at all
        subst all
        exact .done (List.prefix_append _ _) (by omega)
      | cons e rest =>
        refine .under rest rfl ?_ ?_
        · rw [← all]
          exact List.append_assoc _ _ _
        · rw [List.length_append, count]
          rfl
    · obtain ⟨still, silent⟩ := step_of_delivering phase asking
      have unasked : asks [input] = 0 := by
        cases input with
        | taken => exact absurd rfl asking
        | _ => rfl
      rw [silent, List.append_nil, unasked]
      exact .under rest still all count

theorem Handed.run (h : Handed news s out asked) (inputs : List StreamInput) :
    Handed news (s.run inputs).1 (out ++ told (s.run inputs).2) (asked + asks inputs) := by
  induction inputs generalizing s out asked with
  | nil =>
    rw [EventStream.run, told, List.filterMap_nil, List.append_nil]
    exact h
  | cons input rest ih =>
    rw [run_cons, told_append, ← List.append_assoc, asks_cons, ← Nat.add_assoc]
    exact ih (h.step input)

/-- What was told first is as much of the listing as was asked for. -/
theorem Handed.take (h : Handed news s out asked) : out.take news.length = news.take (asked + 1) := by
  cases h with
  | under rest _ all count =>
    rw [← all, ← count, List.take_left, List.take_of_length_le]
    rw [List.length_append]
    omega
  | done all count =>
    rw [List.take_of_length_le count]
    exact (List.prefix_iff_eq_take.mp all).symm

theorem Handed.all_told_iff (h : Handed news s out asked) (nodup : news.Nodup) :
    (∀ e ∈ news, e ∈ out) ↔ news.length ≤ asked + 1 := by
  cases h with
  | done all count => exact iff_of_true (fun e he => all.subset he) count
  | under rest _ all count =>
    subst all
    obtain ⟨-, -, apart⟩ := List.nodup_append.mp nodup
    have owing : (out ++ rest).length ≤ asked + 1 ↔ rest = [] := by
      rw [List.length_append, ← List.length_eq_zero_iff]
      omega
    rw [owing]
    constructor
    · intro told
      refine List.eq_nil_iff_forall_not_mem.mpr fun e owed => ?_
      exact apart e (told e (List.mem_append_right _ owed)) e owed rfl
    · rintro rfl
      simp

/-- An informer that is handing nothing over owes nothing. -/
theorem Handed.of_idle (h : Handed news s out asked) (idle : ∀ rest, s.phase ≠ .delivering rest) :
    news.length ≤ asked + 1 := by
  cases h with
  | under rest phase => exact absurd phase (idle rest)
  | done _ count => exact count

/-! ### From the first listing on -/

/-- The first listing marks the informer, and begins to be handed over. -/
theorem Unlisted.listed (h : Unlisted resource s) {items : Value} (first : s.listing? input = some items) :
    ∃ fresh, keyed items = .ok fresh ∧ (s.step input).1.informer.synced = true ∧
      Handed (fresh.map fun e => addition e.2) (s.step input).1 (told (s.step input).2) 0 := by
  obtain ⟨asked, version, es, rfl, used⟩ := listing?_eq_some first
  obtain ⟨fresh, added, keys, news, hi, outcome⟩ := (s.informer.relist_cases items version).resolve_left
    (by rintro ⟨f, -, refused⟩; cases used.symm.trans refused)
  have nothing : s.informer.cache = [] := congrArg Informer.cache h.informer
  rw [nothing, additions_nil] at news
  cases news
  have all : es = fresh.map fun e => addition e.2 := by
    cases used.symm.trans outcome
    rw [nothing]
    exact List.append_nil _
  subst all
  refine ⟨fresh, keys, ?_, ?_⟩
  · simp only [EventStream.step, asked, takeListing, used, deliver_informer]
    rw [hi]
  · simp only [EventStream.step, asked, takeListing, used, told_append, told_logged, List.nil_append]
    exact deliver_handed _ _

theorem Unlisted.run (h : Unlisted resource s) (inputs : List StreamInput) :
    (s.firstListing? inputs = none ∧ Unlisted resource (s.run inputs).1 ∧ told (s.run inputs).2 = []) ∨
    ∃ items after fresh, s.firstListing? inputs = some (items, after) ∧ keyed items = .ok fresh ∧
      (s.run inputs).1.informer.synced = true ∧
      Handed (fresh.map fun e => addition e.2) (s.run inputs).1 (told (s.run inputs).2) (asks after) := by
  induction inputs generalizing s with
  | nil => exact .inl ⟨rfl, h, rfl⟩
  | cons input rest ih =>
    rw [firstListing?, run_cons, told_append]
    cases first : s.listing? input with
    | some items =>
      obtain ⟨fresh, keys, synced, handed⟩ := h.listed first
      refine .inr ⟨items, rest, fresh, rfl, keys, run_synced synced rest, ?_⟩
      have later := handed.run rest
      rwa [Nat.zero_add] at later
    | none =>
      obtain ⟨still, silent⟩ := h.step first
      rw [silent, List.nil_append]
      exact ih still

/-- An informer counts as synced once a listing has arrived that it could use, and from then on. The objects of the
first such listing are told of as additions, in their order and before anything else, one at once and one more
whenever the consumer asks: all of them once it has asked for all but the first, and in any case when no listing is
being handed over. -/
theorem synced_ahead_of_delivery (resource : String) (inputs : List StreamInput) :
    let run := (opened resource).run inputs
    (run.1.informer.synced = true ↔ ((opened resource).firstListing? inputs).isSome) ∧
    (run.1.informer.synced = true → ∀ more, (run.1.run more).1.informer.synced = true) ∧
    ∀ items after, (opened resource).firstListing? inputs = some (items, after) →
      ∃ fresh, keyed items = .ok fresh ∧
        (told run.2).take fresh.length = (fresh.map fun e => addition e.2).take (asks after + 1) ∧
        ((∀ e ∈ fresh, addition e.2 ∈ told run.2) ↔ fresh.length ≤ asks after + 1) ∧
        ((∀ rest, run.1.phase ≠ .delivering rest) → ∀ e ∈ fresh, addition e.2 ∈ told run.2) := by
  intro run
  have synced_on : run.1.informer.synced = true → ∀ more, (run.1.run more).1.informer.synced = true :=
    fun synced more => run_synced synced more
  rcases (opened_unlisted resource).run inputs with
    ⟨none, unlisted, -⟩ | ⟨items, after, fresh, first, keys, synced, handed⟩
  · rw [none]
    refine ⟨?_, synced_on, nofun⟩
    rw [unlisted.informer]
    exact iff_of_false Bool.false_ne_true Bool.false_ne_true
  · rw [first]
    refine ⟨iff_of_true synced rfl, synced_on, fun _ _ same => ?_⟩
    cases same
    have length : (fresh.map fun e => addition e.2).length = fresh.length := List.length_map _
    have told_iff : (∀ e ∈ fresh, addition e.2 ∈ told run.2) ↔ fresh.length ≤ asks after + 1 := by
      rw [← length, ← handed.all_told_iff (nodup_additions (keyed_kept keys fun _ _ _ _ => trivial)),
        List.forall_mem_map]
    refine ⟨fresh, keys, length ▸ handed.take, told_iff, fun idle => told_iff.mpr ?_⟩
    exact length ▸ handed.of_idle idle

/-- A listing is refused, and the next brings two ingresses, which the consumer takes before a watch expires. -/
def listedAgain : List StreamInput :=
  [.turn false, .failed (.failed "Connection refused"), .rested, .turn false,
    .listed (.list [shop, copy]) (.str "2"), .taken, .taken, .failed (.expired "too old")]

theorem synced_ahead_of_delivery_shop :
    let run := (opened "ingresses").run listedAgain
    let asked := (opened "ingresses").run (listedAgain.take 4)
    (opened "ingresses").firstListing? listedAgain =
      some (.list [shop, copy], [.taken, .taken, .failed (.expired "too old")]) ∧
    run.1.informer.synced = true ∧ asked.1.informer.synced = false ∧ run.1.phase = .turning ∧
    addition copy ∈ told run.2 ∧
    (run.1.run [.turn false, .listed (.list []) (.str "3"), .taken]).1.informer.synced = true ∧
    (told ((opened "ingresses").run (listedAgain.take 5)).2).take 2 = [addition shop] := by
  intro run asked
  obtain ⟨synced_iff, on, delivered⟩ := synced_ahead_of_delivery "ingresses" listedAgain
  have first : (opened "ingresses").firstListing? listedAgain =
      some (.list [shop, copy], [.taken, .taken, .failed (.expired "too old")]) := rfl
  have synced : run.1.informer.synced = true := synced_iff.mpr (by rw [first]; rfl)
  have both : keyed (.list [shop, copy]) = .ok [("default/shop", shop), ("default/copy", copy)] := rfl
  obtain ⟨fresh, keys, -, -, idle⟩ := delivered _ _ first
  cases both.symm.trans keys
  have told_copy := idle (fun rest phase => nomatch phase) ("default/copy", copy) (by simp)
  obtain ⟨-, -, halfway⟩ := synced_ahead_of_delivery "ingresses" (listedAgain.take 5)
  obtain ⟨fresh, keys, taken, -⟩ := halfway (.list [shop, copy]) [] rfl
  cases both.symm.trans keys
  exact ⟨first, synced, rfl, rfl, told_copy, on synced _, taken⟩

/-- Two ingresses are listed. The informer counts as synced when the consumer has only one of them. -/
theorem synced_before_delivery :
    let run := (opened "ingresses").run [.turn false, .listed (.list [shop, copy]) (.str "2")]
    run.1.informer.synced = true ∧
    (opened "ingresses").firstListing? [.turn false, .listed (.list [shop, copy]) (.str "2")] =
      some (.list [shop, copy], []) ∧
    run.1.phase = .delivering [addition copy] ∧ addition copy ∉ told run.2 := by
  intro run
  have told_shop : told run.2 = [addition shop] := rfl
  refine ⟨rfl, rfl, rfl, fun told_copy => ?_⟩
  rw [told_shop, List.mem_singleton] at told_copy
  exact key_shop_ne.1 (congrArg (fun e => key e.obj) told_copy).symm

end EventStream

end ClusterMdns
