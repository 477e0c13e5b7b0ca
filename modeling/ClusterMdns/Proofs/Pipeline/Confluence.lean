import ClusterMdns.Proofs.Pipeline.Order
import ClusterMdns.Proofs.Publication.Dispatch
import ClusterMdns.Proofs.Publication.Sync

/-! The responder behind the pipeline. What a resource leaves under one key of the table depends on what was
under that key and on nothing else, and resources that have no record of the key leave it alone. So feeds that
share no key make the same table however their resources are mixed. -/

namespace ClusterMdns

open Dns

/-- Items that change nothing may be left out. -/
theorem foldl_eq_self {α β : Type} {f : β → α → β} {xs : List α} (h : ∀ x ∈ xs, ∀ b, f b x = b) (b : β) :
    xs.foldl f b = b := by
  induction xs with
  | nil => rfl
  | cons x rest ih =>
    obtain ⟨first, later⟩ := List.forall_mem_cons.mp h
    rw [List.foldl_cons, first]
    exact ih later

/-! ### What is left under one key -/

namespace Responder

variable {r : Responder}

theorem callAll_effect (nodup : r.table.keys.Nodup) (op : Operation) {lines : List String}
    (hout : (publisher.callAll op lines r).2.outcome = .ok ()) :
    (publisher.callAll op lines r).1.table.keys.Nodup ∧
      ∀ k, (publisher.callAll op lines r).1.table.find? k =
        lines.foldl (fun held line => effect op line k held) (r.table.find? k) := by
  induction lines generalizing r with
  | nil => exact ⟨nodup, fun k => rfl⟩
  | cons line rest ih =>
    cases hc : (publisher.call op line r).2.outcome with
    | error cause =>
      rw [Publisher.callAll_of_refused hc] at hout
      cases hout
    | ok _ =>
      rw [Publisher.callAll_of_accepted hc] at hout ⊢
      obtain ⟨nodup, first⟩ := call_effect nodup op hc
      obtain ⟨nodup, later⟩ := ih nodup hout
      refine ⟨nodup, fun k => ?_⟩
      rw [later k, first k, List.foldl_cons]

end Responder

namespace RecordPolicy

/-- What dispatching a resource leaves under a key. -/
def effect (policy : RecordPolicy) (k : RecordKey) (held : Option Record) (r : Resource) : Option Record :=
  match r.action.operation?, (policy.lines r).outcome with
  | some op, .ok lines => (lines.map RecordLine.text).foldl (fun held line => Responder.effect op line k held) held
  | _, _ => held

variable {policy : RecordPolicy}

theorem effect_of_not_writes {res : Resource} {k : RecordKey} (h : ¬ policy.Writes res k) (held : Option Record) :
    policy.effect k held res = held := by
  unfold effect
  split
  · rename_i op lines _ hl
    refine foldl_eq_self (fun line hline held => ?_) held
    obtain ⟨l, hm, rfl⟩ := List.mem_map.mp hline
    exact Responder.effect_of_not_names (fun hn => h ⟨lines, hl, l, hm, hn⟩) held
  · rfl

end RecordPolicy

namespace Responder

theorem dispatch_effect {policy : RecordPolicy} {r : Responder} (nodup : r.table.keys.Nodup) {res : Resource}
    (hout : (publisher.dispatch policy res r).2.outcome = .ok ()) :
    (publisher.dispatch policy res r).1.table.keys.Nodup ∧
      ∀ k, (publisher.dispatch policy res r).1.table.find? k = policy.effect k (r.table.find? k) res := by
  unfold RecordPolicy.effect
  cases hop : res.action.operation? with
  | none =>
    rw [(Publisher.dispatch_of_none publisher policy hop r).1]
    exact ⟨nodup, fun k => rfl⟩
  | some op =>
    cases hl : (policy.lines res).outcome with
    | error f => cases hout.symm.trans (Publisher.dispatch_of_fault hop hl r).2
    | ok lines =>
      obtain ⟨state, outcome⟩ := Publisher.dispatch_of_lines (p := publisher) hop hl r
      rw [outcome] at hout
      rw [state]
      exact callAll_effect nodup op hout

end Responder

/-! ### Runs -/

namespace Controller

variable {policy : RecordPolicy} {start : Responder} {c : Controller Responder}

/-- Unless a dispatch has failed, what was taken has left its effects in the table. -/
def Recorded (policy : RecordPolicy) (start : Responder) (c : Controller Responder) : Prop :=
  (∀ e, c.outcome? ≠ some (.error e)) → c.publisher.table.keys.Nodup ∧
    ∀ k, c.publisher.table.find? k = c.taken.foldl (policy.effect k) (start.table.find? k)

theorem Recorded.dispatched (h : Recorded policy start c) (running : c.outcome? = none) (r : Resource)
    (rest : Pipeline Resource) : Recorded policy start (c.dispatched Responder.publisher policy r rest) := by
  obtain ⟨nodup, found⟩ := h fun e => by simp [running]
  unfold Controller.dispatched
  dsimp only
  cases hd : (Responder.publisher.dispatch policy r c.publisher).2.outcome with
  | error e => exact fun unharmed => absurd (outcome_settle e _) (unharmed e)
  | ok u =>
    intro _
    obtain ⟨nodup, after⟩ := Responder.dispatch_effect nodup hd
    refine ⟨nodup, fun k => (after k).trans ?_⟩
    rw [found k, settle, log, List.foldl_append]
    rfl

theorem Recorded.step (h : Recorded policy start c) (move : ControllerMove) :
    Recorded policy start (c.step Responder.publisher policy move) := by
  rcases step_cases Responder.publisher policy c move with ⟨r, rest, taking, -, next⟩ | rests
  · exact next ▸ h.dispatched (by rw [outcome?, taking]) r rest
  · intro unharmed
    rw [rests.publisher, rests.taken]
    refine h fun e => ?_
    rcases rests.outcome with same | ⟨-, running, -⟩
    · exact same ▸ unharmed e
    · simp [running]

theorem Recorded.run (h : Recorded policy start c) (moves : List ControllerMove) :
    Recorded policy start (c.run Responder.publisher policy moves) := by
  induction moves generalizing c with
  | nil => exact h
  | cons move rest ih => exact ih (h.step move)

/-- Everything that was put has been dispatched, and nothing went wrong. -/
structure Settled (c : Controller Responder) : Prop where
  empty : c.pipeline.items = []
  unharmed : ∀ e, c.outcome? ≠ some (.error e)

/-- Resources of different feeds have records of different keys. -/
def Apart (policy : RecordPolicy) (sequences : List (List Resource)) : Prop :=
  ∀ (i j : Nat) (rs qs : List Resource), sequences[i]? = some rs → sequences[j]? = some qs → i ≠ j →
    ∀ r ∈ rs, ∀ q ∈ qs, ∀ k, policy.Writes r k → ¬ policy.Writes q k

variable {sequences : List (List Resource)} {history : List (Nat × Resource)}

theorem Conserves.mem {σ : Type} {c : Controller σ} (h : Conserves sequences history c) {e : Nat × Resource}
    (he : e ∈ history) : ∃ rs, sequences[e.1]? = some rs ∧ e.2 ∈ rs := by
  obtain ⟨put, rs, hrs, follows⟩ := h.feed e.1 _ (List.getElem?_eq_getElem (h.known e he))
  refine ⟨rs, hrs, ?_⟩
  rw [← follows.sequence, put]
  refine List.mem_append_left _ (List.mem_append_left _ ?_)
  exact List.mem_map.mpr ⟨e, List.mem_filter.mpr ⟨he, beq_self_eq_true _⟩, rfl⟩

/-- What is queued is of the sequences. -/
theorem Conserves.queued {σ : Type} {c : Controller σ} (h : Conserves sequences history c) {r : Resource}
    (hr : r ∈ c.pipeline.items) : ∃ rs ∈ sequences, r ∈ rs := by
  have known : r ∈ history.map (·.2) := h.flow ▸ List.mem_append_right _ hr
  obtain ⟨e, he, rfl⟩ := List.mem_map.mp known
  obtain ⟨rs, hrs, own⟩ := h.mem he
  exact ⟨rs, List.mem_of_getElem? hrs, own⟩

/-- Under a key that one feed has records of, a run leaves what this feed alone would leave. -/
theorem foldl_history {α : Type} {f : α → Resource → α} {i : Nat} (history : List (Nat × Resource))
    (others : ∀ e ∈ history, e.1 ≠ i → ∀ held, f held e.2 = held) (held : α) :
    (history.map (·.2)).foldl f held = (ofFeed i history).foldl f held := by
  induction history generalizing held with
  | nil => rfl
  | cons e rest ih =>
    obtain ⟨first, later⟩ := List.forall_mem_cons.mp others
    rw [List.map_cons, List.foldl_cons, ofFeed_cons]
    split
    · exact ih later _
    · rename_i hi
      rw [first hi]
      exact ih later held

theorem find?_of_settled (conserves : Conserves sequences history c) (recorded : Recorded policy start c)
    (settled : Settled c) (k : RecordKey) :
    c.publisher.table.find? k = (history.map (·.2)).foldl (policy.effect k) (start.table.find? k) := by
  rw [(recorded settled.unharmed).2 k, ← conserves.flow, settled.empty, List.append_nil]

/-- Runs that have put and dispatched the same make the same table, if no key is shared by feeds. -/
theorem same_records {d : Controller Responder} {before : List (Nat × Resource)}
    (apart : Apart policy sequences) (hc : Conserves sequences history c) (hd : Conserves sequences before d)
    (rc : Recorded policy start c) (rd : Recorded policy start d) (sc : Settled c) (sd : Settled d)
    (puts : c.feeds.map Feed.put = d.feeds.map Feed.put) (k : RecordKey) :
    c.publisher.table.find? k = d.publisher.table.find? k := by
  rw [find?_of_settled hc rc sc, find?_of_settled hd rd sd]
  by_cases own : ∃ (i : Nat) (rs : List Resource) (r : Resource), sequences[i]? = some rs ∧ r ∈ rs ∧
      policy.Writes r k
  · obtain ⟨i, rs, r, hrs, hr, hw⟩ := own
    have others : ∀ {c : Controller Responder} {history : List (Nat × Resource)},
        Conserves sequences history c → ∀ e ∈ history, e.1 ≠ i → ∀ held, policy.effect k held e.2 = held := by
      intro c history h e he hne held
      obtain ⟨qs, hqs, hq⟩ := h.mem he
      exact RecordPolicy.effect_of_not_writes (apart i e.1 rs qs hrs hqs (Ne.symm hne) r hr e.2 hq k hw) held
    have part : ofFeed i history = ofFeed i before := by
      have hi : i < sequences.length := (List.getElem?_eq_some_iff.mp hrs).1
      have hf := List.getElem?_eq_getElem (hc.length.symm ▸ hi : i < c.feeds.length)
      have hg := List.getElem?_eq_getElem (hd.length.symm ▸ hi : i < d.feeds.length)
      have same := congrArg (·[i]?) puts
      simp only [List.getElem?_map, hf, hg, Option.map_some, Option.some.injEq] at same
      rw [← (hc.feed i _ hf).1, ← (hd.feed i _ hg).1, same]
    rw [foldl_history history (others hc), foldl_history before (others hd), part]
  · have untouched : ∀ {c : Controller Responder} {history : List (Nat × Resource)},
        Conserves sequences history c → ∀ r ∈ history.map (·.2), ∀ held, policy.effect k held r = held := by
      intro c history h r hr held
      obtain ⟨e, he, rfl⟩ := List.mem_map.mp hr
      obtain ⟨qs, hqs, hq⟩ := h.mem he
      exact RecordPolicy.effect_of_not_writes (fun hw => own ⟨e.1, qs, e.2, hqs, hq, hw⟩) held
    rw [foldl_eq_self (untouched hc), foldl_eq_self (untouched hd)]

/-- Schedules under which the feeds put the same, and all of it is dispatched, make the same records. -/
theorem same_entries (nodup : start.table.keys.Nodup) (apart : Apart policy sequences)
    (capacity other : Option Nat) (xs ys : List ControllerMove) :
    let left := (opened sequences capacity start).run Responder.publisher policy xs
    let right := (opened sequences other start).run Responder.publisher policy ys
    Settled left → Settled right → left.feeds.map Feed.put = right.feeds.map Feed.put →
    ∀ e, e ∈ left.publisher.table ↔ e ∈ right.publisher.table := by
  intro left right sl sr puts e
  have recorded : ∀ capacity, Recorded policy start (opened sequences capacity start) :=
    fun _ _ => ⟨nodup, fun k => rfl⟩
  have rl := (recorded capacity).run xs
  have rr := (recorded other).run ys
  have same : left.publisher.table.find? e.1 = right.publisher.table.find? e.1 :=
    same_records apart (run_conserves _ policy sequences capacity start xs)
      (run_conserves _ policy sequences other start ys) rl rr sl sr puts e.1
  constructor
  · intro he
    exact Table.mem_of_find? (same.symm.trans (Table.find?_of_mem (rl sl.unharmed).1 he))
  · intro he
    exact Table.mem_of_find? (same.trans (Table.find?_of_mem (rr sr.unharmed).1 he))

/-! ### Any schedule -/

/-- However the feeds, the controller and the signal to stop are mixed: what was taken and what is queued are
what was put, in the order of time, and each feed has put a front part of its sequence, in order. A put that sees
the signal puts nothing, nor does the feed later. If feeds share no key and all that was put was dispatched, the
records depend on what each feed has put and not on the schedule. -/
theorem in_order_under_any_schedule {σ : Type} (p : Publisher σ) (policy : RecordPolicy)
    (sequences : List (List Resource)) (capacity : Option Nat) (s : σ) (moves : List ControllerMove) :
    let first := opened sequences capacity s
    let c := first.run p policy moves
    let history := first.enqueued p policy moves
    let taken := history.take c.taken.length
    let queued := history.drop c.taken.length
    (c.taken = taken.map (·.2) ∧ c.pipeline.items = queued.map (·.2)) ∧
    (∀ i rs, sequences[i]? = some rs → ∃ f, c.feeds[i]? = some f ∧
      ofFeed i taken ++ ofFeed i queued = f.put ∧ f.put <+: rs ∧ RetractsFirst rs f.put) ∧
    (∀ (queue : Pipeline Resource) r looks, (queue.put r looks).2 = false → (queue.put r looks).1 = queue) ∧
    (∀ before i after f, moves = before ++ .look i :: after → (first.run p policy before).stopped = true →
      (first.run p policy before).feeds[i]? = some f → f.waiting ≠ [] →
      ∀ g, c.feeds[i]? = some g → g.put = f.put) ∧
    ∀ (start : Responder) (other : Option Nat) (xs ys : List ControllerMove),
      let left := (opened sequences capacity start).run Responder.publisher policy xs
      let right := (opened sequences other start).run Responder.publisher policy ys
      start.table.keys.Nodup → Apart policy sequences → Settled left → Settled right →
      left.feeds.map Feed.put = right.feeds.map Feed.put →
      ∀ e, e ∈ left.publisher.table ↔ e ∈ right.publisher.table := by
  intro first c history taken queued
  have conserves : Conserves sequences history c := run_conserves p policy sequences capacity s moves
  refine ⟨conserves.parts, fun i rs hrs => ?_, fun _ _ _ => Pipeline.put_refused, ?_, ?_⟩
  · obtain ⟨f, hf, put, front⟩ := conserves.front hrs
    refine ⟨f, hf, ?_, front, retractsFirst_of_prefix front⟩
    rw [← ofFeed_append, List.take_append_drop, put]
  · rintro before i after f rfl stopped hf waiting g hg
    exact run_refusal p policy sequences capacity s stopped hf waiting after hg
  · intro start other xs ys left right nodup apart
    exact same_entries nodup apart capacity other xs ys

/-! ### One resource after the other -/

/-- A resource of one feed, from the feed to the publisher. -/
def roundOf (i : Nat) : List ControllerMove :=
  [.look i, .offer i, .check, .take]

theorem run_append {σ : Type} (p : Publisher σ) (policy : RecordPolicy) (xs ys : List ControllerMove)
    (c : Controller σ) : c.run p policy (xs ++ ys) = (c.run p policy xs).run p policy ys :=
  List.foldl_append

theorem set_modify {α : Type} (l : List α) (i : Nat) (f : α → α) (a : α) :
    (l.modify i f).set i a = l.set i a := by
  refine List.ext_getElem? fun j => ?_
  rw [List.getElem?_set, List.getElem?_set, List.length_modify]
  by_cases hij : i = j
  · simp [hij]
  · simp [hij]

/-- While nothing is queued, a resource that is accepted goes straight to the publisher. -/
theorem run_roundOf {σ : Type} {p : Publisher σ} {c : Controller σ} (looking : c.phase = .looking)
    (going : c.stopped = false) (empty : c.pipeline.items = []) (room : c.pipeline.hasRoom = true) {i : Nat}
    {f : Feed} {r : Resource} {rest : List Resource} (hf : c.feeds[i]? = some f) (hw : f.waiting = r :: rest)
    (accepted : (p.dispatch policy r c.publisher).2.outcome = .ok ()) :
    c.run p policy (roundOf i) = { c with
      feeds := c.feeds.set i { f with waiting := rest, offering := false, put := f.put ++ [r] }
      publisher := (p.dispatch policy r c.publisher).1
      taken := c.taken ++ [r]
      lines := c.lines ++ (p.dispatch policy r c.publisher).2.lines } := by
  obtain ⟨feeds, ⟨capacity, items⟩, publisher, phase, stopped, taken, lines⟩ := c
  dsimp only at *
  subst looking going empty
  simp [run, roundOf, step, hf, hw, Feed.look, Feed.offer, Pipeline.offer?, room, take, Pipeline.take?, settle,
    accepted, log, set_modify]

/-! ### Two feeds with an ingress each -/

def oneEach : List (List Resource) :=
  [[hostResource "shop" .added], [hostResource "copy" .added]]

/-- The keys of the records of such an ingress. -/
def hostKeys (name : String) : List RecordKey :=
  (({} : RecordPolicy).owners (hostResource name .added)).flatMap fun owner =>
    [(({} : RecordPolicy).forward (.v4 ⟨192, 0, 2, 1⟩) owner).key,
      (({} : RecordPolicy).backward (AddressV4.reverseName ⟨192, 0, 2, 1⟩) owner).key]

theorem mem_hostKeys {name : String} (h : name = "shop" ∨ name = "copy") {k : RecordKey}
    (hw : ({} : RecordPolicy).Writes (hostResource name .added) k) : k ∈ hostKeys name := by
  obtain ⟨lines, made, l, hl, rfl⟩ := (writes_iff h k).mp hw
  obtain ⟨-, a, ha, owner, ho, hl⟩ := (RecordPolicy.mem_lines {} (host_address name .added) made l).mp hl
  cases List.mem_singleton.mp ha
  refine List.mem_flatMap.mpr ⟨owner, ho, ?_⟩
  rcases hl with rfl | rfl <;> simp

theorem oneEach_apart : Apart {} oneEach := by
  have disjoint : ∀ k ∈ hostKeys "shop", k ∉ hostKeys "copy" := by decide +kernel
  have shopCopy : ∀ k, ({} : RecordPolicy).Writes (hostResource "shop" .added) k →
      ¬ ({} : RecordPolicy).Writes (hostResource "copy" .added) k := fun k hs hc =>
    disjoint k (mem_hostKeys (Or.inl rfl) hs) (mem_hostKeys (Or.inr rfl) hc)
  intro i j rs qs hrs hqs hne r hr q hq k hw
  match i, j with
  | 0, 0 | 1, 1 => exact absurd rfl hne
  | 0, 1 =>
    cases hrs
    cases hqs
    cases List.mem_singleton.mp hr
    cases List.mem_singleton.mp hq
    exact shopCopy k hw
  | 1, 0 =>
    cases hrs
    cases hqs
    cases List.mem_singleton.mp hr
    cases List.mem_singleton.mp hq
    exact fun hs => shopCopy k hs hw
  | 0, j + 2 | 1, j + 2 => cases hqs
  | i + 2, _ => cases hrs

theorem host_accepted {name : String} (h : name = "shop" ∨ name = "copy") {r : Responder} (quiet : r.Quiet) :
    (Responder.publisher.dispatch {} (hostResource name .added) r).2.outcome = .ok () := by
  obtain ⟨lines, made, named⟩ := host_lines h .added
  exact (Responder.dispatch_accepted quiet rfl made).mpr fun l hl => Responder.reads_of_named (named l hl)

/-- The ingress of one feed goes to the responder, and then that of another. -/
def oneByOne (i j : Nat) : Controller Responder :=
  (opened oneEach (some 1) {}).run Responder.publisher {} (.sync [] false :: (roundOf i ++ roundOf j))

theorem oneByOne_settled {i j : Nat} {first second : String} (hf : first = "shop" ∨ first = "copy")
    (hs : second = "shop" ∨ second = "copy") (hne : i ≠ j)
    (hi : oneEach[i]? = some [hostResource first .added]) (hj : oneEach[j]? = some [hostResource second .added]) :
    Settled (oneByOne i j) ∧ (oneByOne i j).feeds = ((opened oneEach (some 1) ({} : Responder)).feeds.set i
      { waiting := [], put := [hostResource first .added] }).set j
      { waiting := [], put := [hostResource second .added] } := by
  let synced := (opened oneEach (some 1) {}).step Responder.publisher {} (.sync [] false)
  have feed : ∀ {k : Nat} {rs : List Resource}, oneEach[k]? = some rs →
      synced.feeds[k]? = some { waiting := rs } :=
    fun hk => (List.getElem?_map ..).trans (congrArg (Option.map _) hk)
  have accepted := host_accepted hf Responder.fresh_quiet
  have quiet := (Responder.dispatch_table Responder.fresh_quiet rfl accepted).1
  have later : (synced.feeds.set i { waiting := [], put := [hostResource first .added] })[j]? = _ :=
    (List.getElem?_set_ne hne).trans (feed hj)
  have made : oneByOne i j = _ := (run_append _ _ _ _ synced).trans
    ((congrArg _ (run_roundOf rfl rfl rfl rfl (feed hi) rfl accepted)).trans
      (run_roundOf rfl rfl rfl rfl later rfl (host_accepted hs quiet)))
  rw [made]
  exact ⟨⟨rfl, nofun⟩, rfl⟩

theorem oneByOne_shop : Settled (oneByOne 0 1) ∧ (oneByOne 0 1).feeds.map Feed.put = oneEach := by
  obtain ⟨settled, feeds⟩ := oneByOne_settled (Or.inl rfl) (Or.inr rfl) Nat.zero_ne_one rfl rfl
  exact ⟨settled, by rw [feeds]; rfl⟩

theorem oneByOne_copy : Settled (oneByOne 1 0) ∧ (oneByOne 1 0).feeds.map Feed.put = oneEach := by
  obtain ⟨settled, feeds⟩ := oneByOne_settled (Or.inr rfl) (Or.inl rfl) Nat.one_ne_zero rfl rfl
  exact ⟨settled, by rw [feeds]; rfl⟩

/-- Two schedules of the two feeds make the same records. A feed that sees the signal puts nothing, and an
ingress that moves is retracted before it is published again. -/
theorem in_order_under_any_schedule_hosts :
    let halted := (opened oneEach (some 1) {}).run Responder.publisher {}
      ([.look 0, .offer 0, .stop] ++ .look 1 :: [.offer 1])
    let moved := [hostResource "shop" .deleted, hostResource "copy" .added]
    let updated := (opened [moved] none {}).run Responder.publisher {} [.look 0, .offer 0, .look 0, .offer 0]
    (Apart {} oneEach ∧ Settled (oneByOne 0 1) ∧ Settled (oneByOne 1 0) ∧
      (oneByOne 0 1).feeds.map Feed.put = (oneByOne 1 0).feeds.map Feed.put ∧
      ∀ e, e ∈ (oneByOne 0 1).publisher.table ↔ e ∈ (oneByOne 1 0).publisher.table) ∧
    (∃ g, halted.feeds[1]? = some g ∧ g.put = []) ∧
    moved = (Adapter.putAll false (Adapter.ingresses.batches ⟨.updated, movedCopy, some copy⟩)).1.resources ∧
    ∃ f, updated.feeds[0]? = some f ∧ [hostResource "shop" .deleted] <+: f.put := by
  intro halted moved updated
  have puts : (oneByOne 0 1).feeds.map Feed.put = (oneByOne 1 0).feeds.map Feed.put :=
    oneByOne_shop.2.trans oneByOne_copy.2.symm
  obtain ⟨-, -, -, refusal, records⟩ := in_order_under_any_schedule Responder.publisher {} oneEach (some 1) {}
    ([.look 0, .offer 0, .stop] ++ .look 1 :: [.offer 1])
  obtain ⟨-, feeds, -, -, -⟩ := in_order_under_any_schedule Responder.publisher {} [moved] none {}
    [.look 0, .offer 0, .look 0, .offer 0]
  refine ⟨⟨oneEach_apart, oneByOne_shop.1, oneByOne_copy.1, puts, ?_⟩, ⟨_, rfl, ?_⟩, rfl, ?_⟩
  · exact records {} (some 1) _ _ List.nodup_nil oneEach_apart oneByOne_shop.1 oneByOne_copy.1 puts
  · exact refusal [.look 0, .offer 0, .stop] 1 [.offer 1] _ rfl rfl rfl (List.cons_ne_nil _ _) _ rfl
  · obtain ⟨f, hf, -, -, retracts⟩ := feeds 0 moved rfl
    refine ⟨f, hf, retracts .ingresses ⟨.updated, movedCopy, some copy⟩ [] [] _ rfl rfl rfl ?_⟩
    cases hf
    decide

end Controller

end ClusterMdns
