import ClusterMdns.Adapter.Run
import ClusterMdns.Controller
import Mathlib.Data.List.Basic

/-! The pipeline under any schedule of its feeds and the controller. The history of a run holds what was put, in
the order of time and each with its feed. Its front has been taken and the rest is queued; the part of one feed is
what this feed has put, in the order of its sequence. Nothing is put any more by a feed that has given a resource
up, because the signal to stop is never taken back. -/

namespace ClusterMdns

/-! ### The pipeline -/

namespace Pipeline

variable {α : Type} {a : α} {p q : Pipeline α}

theorem items_of_offer? (h : p.offer? a = some q) : q.items = p.items ++ [a] := by
  unfold offer? at h
  split at h
  · cases h
    rfl
  · cases h

theorem items_of_take? (h : p.take? = some (a, q)) : p.items = a :: q.items := by
  unfold take? at h
  split at h
  · cases h
  · cases h
    assumption

/-- A put that gives up leaves the pipeline as it was. -/
theorem put_refused {looks : List Bool} (h : (p.put a looks).2 = false) : (p.put a looks).1 = p := by
  induction looks with
  | nil => rfl
  | cons stopped later ih =>
    cases stopped with
    | true => rfl
    | false =>
      unfold put at h ⊢
      cases ho : p.offer? a with
      | some q => rw [ho] at h; cases h
      | none => rw [ho] at h; exact ih h

end Pipeline

/-! ### Feeds -/

namespace Feed

/-- The feed has put, given up and still to put its sequence, in this order. It puts nothing more once it has given
something up: the signal was given, and it has not looked before that. -/
structure Follows (sequence : List Resource) (stopped : Bool) (f : Feed) : Prop where
  sequence : f.put ++ f.refused ++ f.waiting = sequence
  halted : f.refused ≠ [] → stopped = true ∧ f.offering = false

variable {sequence : List Resource} {stopped : Bool} {f : Feed}

theorem look_put (stopped : Bool) (f : Feed) : (f.look stopped).put = f.put := by
  unfold look
  split
  · rfl
  · split <;> rfl

theorem look_refused (stopped : Bool) (f : Feed) : f.refused <+: (f.look stopped).refused := by
  unfold look
  split
  · exact List.prefix_rfl
  · split
    · exact List.prefix_append _ _
    · exact List.prefix_rfl

theorem Follows.look (h : f.Follows sequence stopped) : (f.look stopped).Follows sequence stopped := by
  unfold Feed.look
  split
  · exact h
  rename_i r rest hw
  split
  · rename_i hs
    refine ⟨?_, fun _ => ⟨hs, rfl⟩⟩
    rw [← h.sequence, hw]
    simp
  · rename_i hs
    exact ⟨h.sequence, fun hr => absurd (h.halted hr).1 hs⟩

/-- A feed puts its first resource, or it puts nothing. -/
theorem offer_cases (f : Feed) (p : Pipeline Resource) :
    (∃ b, f.offer p = ({ f with offering := b }, p) ∧ (b = true → f.offering = true)) ∨
    ∃ r rest q, f.offering = true ∧ f.waiting = r :: rest ∧ p.offer? r = some q ∧
      f.offer p = ({ f with waiting := rest, offering := false, put := f.put ++ [r] }, q) := by
  unfold offer
  split
  · rename_i r rest ho hw
    cases hq : p.offer? r with
    | some q => exact Or.inr ⟨r, rest, q, ho, hw, hq, rfl⟩
    | none => exact Or.inl ⟨false, rfl, nofun⟩
  · exact Or.inl ⟨f.offering, rfl, id⟩

theorem offer_refused (f : Feed) (p : Pipeline Resource) : (f.offer p).1.refused = f.refused := by
  rcases f.offer_cases p with ⟨b, ho, -⟩ | ⟨r, rest, q, -, -, -, ho⟩
  · rw [ho]
  · rw [ho]

end Feed

/-! ### One put -/

namespace Feed

/-- A look at the signal, and a try to put unless it was given. -/
def turn (s : Feed × Pipeline Resource) (stopped : Bool) : Feed × Pipeline Resource :=
  (s.1.look stopped).offer s.2

/-- One put of the first resource is some turns of its feed, if nothing else moves. -/
theorem put_eq_turns {f : Feed} {r : Resource} {rest : List Resource} (hw : f.waiting = r :: rest)
    (ho : f.offering = false) (looks : List Bool) (p : Pipeline Resource) :
    ∃ n ≤ looks.length, ((looks.take n).foldl turn (f, p)).2 = (p.put r looks).1 ∧
      ((looks.take n).foldl turn (f, p)).1.put = f.put ++ if (p.put r looks).2 then [r] else [] := by
  obtain ⟨waiting, offering, put, refused⟩ := f
  subst hw ho
  induction looks with
  | nil => exact ⟨0, Nat.le_refl 0, rfl, (List.append_nil _).symm⟩
  | cons stopped later ih =>
    cases stopped with
    | true => exact ⟨1, by simp, by simp [turn, look, offer, Pipeline.put]⟩
    | false =>
      unfold Pipeline.put
      cases hq : p.offer? r with
      | some q => exact ⟨1, by simp, by simp [turn, look, offer, hq]⟩
      | none =>
        obtain ⟨n, hn, done⟩ := ih
        have again : turn (⟨r :: rest, false, put, refused⟩, p) false =
            (⟨r :: rest, false, put, refused⟩, p) := by
          simp [turn, look, offer, hq]
        refine ⟨n + 1, Nat.succ_le_succ hn, ?_⟩
        rwa [List.take_succ_cons, List.foldl_cons, again]

end Feed

/-! ### Histories -/

/-- What one feed has put, of a history. -/
def ofFeed (i : Nat) (history : List (Nat × Resource)) : List Resource :=
  (history.filter (·.1 == i)).map (·.2)

theorem ofFeed_cons (i : Nat) (e : Nat × Resource) (rest : List (Nat × Resource)) :
    ofFeed i (e :: rest) = if e.1 = i then e.2 :: ofFeed i rest else ofFeed i rest := by
  unfold ofFeed
  rw [List.filter_cons]
  simp only [beq_iff_eq]
  split <;> rfl

theorem ofFeed_append (i : Nat) (xs ys : List (Nat × Resource)) :
    ofFeed i (xs ++ ys) = ofFeed i xs ++ ofFeed i ys := by
  rw [ofFeed, List.filter_append, List.map_append]
  rfl

theorem ofFeed_map (i : Nat) (rs : List Resource) : ofFeed i (rs.map (i, ·)) = rs := by
  rw [ofFeed, List.filter_eq_self.mpr (by simp), List.map_map]
  exact List.map_id _

theorem ofFeed_map_of_ne {i j : Nat} (h : i ≠ j) (rs : List Resource) : ofFeed j (rs.map (i, ·)) = [] := by
  rw [ofFeed, List.filter_eq_nil_iff.mpr (by simp [h]), List.map_nil]

/-! ### One move -/

/-- A move that a feed makes. -/
def ControllerMove.isOfFeed : ControllerMove → Bool
  | .look _ | .offer _ => true
  | _ => false

namespace Controller

variable {σ : Type} (p : Publisher σ) (policy : RecordPolicy)

/-- The controller after it has taken a resource, with the pipeline that is left, and has dispatched it. -/
def dispatched (r : Resource) (rest : Pipeline Resource) (c : Controller σ) : Controller σ :=
  let done := p.dispatch policy r c.publisher
  settle done.2.outcome
    ({ c with pipeline := rest, publisher := done.1, taken := c.taken ++ [r] }.log done.2.lines)

/-- What a move leaves alone that takes no resource. It ends the controller only at the signal to stop. -/
structure Rests (move : ControllerMove) (c d : Controller σ) : Prop where
  taken : d.taken = c.taken
  publisher : d.publisher = c.publisher
  outcome : d.outcome? = c.outcome? ∨ c.stopped = true ∧ c.outcome? = none ∧ d.outcome? = some (.ok ())
  halted : c.stopped = true → d.stopped = true
  unsignalled : move ≠ .stop → d.stopped = c.stopped
  feeds : move.isOfFeed = false → d.feeds = c.feeds ∧ d.pipeline = c.pipeline

theorem Rests.refl (move : ControllerMove) (c : Controller σ) : Rests move c c :=
  ⟨rfl, rfl, Or.inl rfl, id, fun _ => rfl, fun _ => ⟨rfl, rfl⟩⟩

theorem Rests.ofFeed {move : ControllerMove} (h : move.isOfFeed = true) (c : Controller σ) (feeds : List Feed)
    (pipeline : Pipeline Resource) : Rests move c { c with feeds, pipeline } := by
  refine ⟨rfl, rfl, Or.inl rfl, id, fun _ => rfl, fun own => ?_⟩
  cases h.symm.trans own

/-- A controller that has not ended goes into another phase, and logs something. -/
theorem Rests.phase {c : Controller σ} (running : c.outcome? = none) (move : ControllerMove)
    {phase : ControllerPhase} {lines : List LogLine}
    (next : ({ c with phase, lines } : Controller σ).outcome? = none ∨
      c.stopped = true ∧ ({ c with phase, lines } : Controller σ).outcome? = some (.ok ())) :
    Rests move c { c with phase, lines } := by
  refine ⟨rfl, rfl, ?_, id, fun _ => rfl, fun _ => ⟨rfl, rfl⟩⟩
  rcases next with none | ⟨stopped, ended⟩
  · exact Or.inl (none.trans running.symm)
  · exact Or.inr ⟨stopped, running, ended⟩

/-- A move takes the foremost resource and dispatches it, or it takes none. -/
theorem step_cases (c : Controller σ) (move : ControllerMove) :
    (∃ r rest, c.phase = .taking ∧ c.pipeline.take? = some (r, rest) ∧
      c.step p policy move = c.dispatched p policy r rest) ∨
    Rests move c (c.step p policy move) := by
  cases move with
  | stop => exact Or.inr ⟨rfl, rfl, Or.inl rfl, fun _ => rfl, fun h => absurd rfl h, fun _ => ⟨rfl, rfl⟩⟩
  | look i => exact Or.inr (.ofFeed rfl c _ c.pipeline)
  | offer i =>
    refine Or.inr ?_
    simp only [step]
    split
    · exact .refl _ c
    · exact .ofFeed rfl c _ _
  | sync pending late =>
    refine Or.inr ?_
    simp only [step]
    split
    · rename_i hp
      unfold sync
      split
      · exact .refl _ c
      · exact .phase (by rw [outcome?, hp]) _ (Or.inl rfl)
    · exact .refl _ c
  | check =>
    refine Or.inr ?_
    simp only [step]
    split
    · rename_i hp
      split
      · rename_i stopped
        exact .phase (by rw [outcome?, hp]) _ (Or.inr ⟨stopped, rfl⟩)
      · exact .phase (by rw [outcome?, hp]) _ (Or.inl rfl)
    · exact .refl _ c
  | take =>
    simp only [step]
    split
    · rename_i hp
      unfold take
      split
      · exact Or.inr (.phase (by rw [outcome?, hp]) _ (Or.inl rfl))
      · rename_i r rest ht
        exact Or.inl ⟨r, rest, hp, ht, rfl⟩
    · exact Or.inr (.refl _ c)

theorem outcome_settle (e : DispatchFailure) (c : Controller σ) : (settle (.error e) c).outcome? = some (.error e) := by
  cases e <;> rfl

theorem feeds_dispatched (r : Resource) (rest : Pipeline Resource) (c : Controller σ) :
    (c.dispatched p policy r rest).feeds = c.feeds := by
  unfold dispatched settle
  dsimp only
  split <;> rfl

/-! ### What was put -/

/-- A controller with nothing on its pipeline and feeds that have sequences of resources to put. -/
def opened (sequences : List (List Resource)) (capacity : Option Nat) (s : σ) : Controller σ where
  feeds := sequences.map fun rs => { waiting := rs }
  pipeline := { capacity }
  publisher := s

/-- What a feed puts in one move. -/
def accepted (c : Controller σ) : ControllerMove → List (Nat × Resource)
  | .offer i => match c.feeds[i]? with
    | some f => ((f.offer c.pipeline).1.put.drop f.put.length).map (i, ·)
    | none => []
  | _ => []

/-- What the feeds put in the course of some moves. -/
def enqueued : List ControllerMove → Controller σ → List (Nat × Resource)
  | [], _ => []
  | move :: rest, c => c.accepted move ++ enqueued rest (c.step p policy move)

theorem enqueued_append (xs ys : List ControllerMove) (c : Controller σ) :
    c.enqueued p policy (xs ++ ys) = c.enqueued p policy xs ++ (c.run p policy xs).enqueued p policy ys := by
  induction xs generalizing c with
  | nil => rfl
  | cons move rest ih =>
    rw [List.cons_append, enqueued, ih, enqueued, List.append_assoc]
    rfl

/-- After some history: what was taken and what is queued are what was put, one after the other, and every feed has
put its part of it. -/
structure Conserves (sequences : List (List Resource)) (history : List (Nat × Resource)) (c : Controller σ) :
    Prop where
  flow : c.taken ++ c.pipeline.items = history.map (·.2)
  feed : ∀ i f, c.feeds[i]? = some f → f.put = ofFeed i history ∧
    ∃ rs, sequences[i]? = some rs ∧ f.Follows rs c.stopped
  length : c.feeds.length = sequences.length
  known : ∀ e ∈ history, e.1 < c.feeds.length

variable {p policy} {sequences : List (List Resource)} {history : List (Nat × Resource)} {c d : Controller σ}

theorem opened_conserves (sequences : List (List Resource)) (capacity : Option Nat) (s : σ) :
    Conserves sequences [] (opened sequences capacity s) := by
  refine ⟨rfl, fun i f hf => ?_, List.length_map _, nofun⟩
  obtain ⟨rs, hrs, rfl⟩ := Option.map_eq_some_iff.mp ((List.getElem?_map ..).symm.trans hf)
  exact ⟨rfl, rs, hrs, by simp, nofun⟩

/-- Moves that leave the feeds as they are and take from the pipeline what they dispatch. -/
theorem Conserves.frame (h : Conserves sequences history c) (feeds : d.feeds = c.feeds)
    (flow : d.taken ++ d.pipeline.items = c.taken ++ c.pipeline.items)
    (stopped : c.stopped = true → d.stopped = true) : Conserves sequences history d := by
  refine ⟨flow.trans h.flow, fun i f hf => ?_, feeds ▸ h.length, fun e he => feeds ▸ h.known e he⟩
  obtain ⟨put, rs, hrs, follows⟩ := h.feed i f (feeds ▸ hf)
  exact ⟨put, rs, hrs, follows.sequence, fun hr => (follows.halted hr).imp_left stopped⟩

theorem Conserves.dispatched (h : Conserves sequences history c) {r : Resource} {rest : Pipeline Resource}
    (ht : c.pipeline.take? = some (r, rest)) : Conserves sequences history (c.dispatched p policy r rest) := by
  have flow : c.taken ++ [r] ++ rest.items = c.taken ++ c.pipeline.items := by
    rw [Pipeline.items_of_take? ht, List.append_assoc, List.singleton_append]
  unfold Controller.dispatched settle
  dsimp only
  split
  · exact h.frame rfl flow id
  · exact h.frame rfl flow fun _ => rfl
  · exact h.frame rfl flow id

theorem Conserves.look (h : Conserves sequences history c) (i : Nat) :
    Conserves sequences history (c.step p policy (.look i)) := by
  refine ⟨h.flow, fun j f hf => ?_, (List.length_modify ..).trans h.length, fun e he => ?_⟩
  · rw [step, List.getElem?_modify] at hf
    obtain ⟨g, hg, rfl⟩ := Option.map_eq_some_iff.mp hf
    obtain ⟨put, rs, hrs, follows⟩ := h.feed j g hg
    split
    · exact ⟨(Feed.look_put _ g).trans put, rs, hrs, follows.look⟩
    · exact ⟨put, rs, hrs, follows⟩
  · rw [step, List.length_modify]
    exact h.known e he

/-- A feed in place of another that has put, given up and still to put the same. -/
theorem Conserves.set (h : Conserves sequences history c) {i : Nat} {f g : Feed} {q : Pipeline Resource}
    (hf : c.feeds[i]? = some f) {more : List Resource}
    (flow : q.items = c.pipeline.items ++ more) (put : g.put = f.put ++ more)
    (follows : ∀ rs, f.Follows rs c.stopped → g.Follows rs c.stopped) :
    Conserves sequences (history ++ more.map (i, ·)) { c with feeds := c.feeds.set i g, pipeline := q } := by
  refine ⟨?_, fun j d hd => ?_, (List.length_set ..).trans h.length, fun e he => ?_⟩
  · rw [List.map_append, ← h.flow, List.append_assoc, List.map_map]
    simp [flow, Function.comp_def]
  · rw [List.getElem?_set] at hd
    rw [ofFeed_append]
    split at hd
    · rename_i hij
      subst hij
      split at hd
      · cases hd
        obtain ⟨before, rs, hrs, was⟩ := h.feed i f hf
        exact ⟨by rw [put, before, ofFeed_map], rs, hrs, follows rs was⟩
      · cases hd
    · rename_i hij
      obtain ⟨before, rs, hrs, was⟩ := h.feed j d hd
      exact ⟨by rw [before, ofFeed_map_of_ne hij, List.append_nil], rs, hrs, was⟩
  · rw [List.length_set]
    rcases List.mem_append.mp he with he | he
    · exact h.known e he
    · obtain ⟨r, -, rfl⟩ := List.mem_map.mp he
      exact (List.getElem?_eq_some_iff.mp hf).1

theorem Conserves.offer (h : Conserves sequences history c) (i : Nat) :
    Conserves sequences (history ++ c.accepted (.offer i)) (c.step p policy (.offer i)) := by
  cases hf : c.feeds[i]? with
  | none =>
    simp only [accepted, Controller.step, hf, List.append_nil]
    exact h
  | some f =>
    have now : Conserves sequences
        (history ++ ((f.offer c.pipeline).1.put.drop f.put.length).map (i, ·))
        { c with feeds := c.feeds.set i (f.offer c.pipeline).1, pipeline := (f.offer c.pipeline).2 } := by
      rcases f.offer_cases c.pipeline with ⟨b, ho, hb⟩ | ⟨r, rest, q, offering, waiting, hq, ho⟩
      · rw [ho, List.drop_length]
        refine h.set hf (List.append_nil _).symm (List.append_nil _).symm fun rs was => ?_
        refine ⟨was.sequence, fun hr => ⟨(was.halted hr).1, ?_⟩⟩
        exact Bool.eq_false_iff.mpr fun again => absurd (hb again) (by simp [(was.halted hr).2])
      · rw [ho, List.drop_left]
        refine h.set hf (Pipeline.items_of_offer? hq) rfl fun rs was => ?_
        -- a feed that offers has given nothing up
        have none : f.refused = [] := by
          by_contra hr
          exact absurd offering (by simp [(was.halted hr).2])
        refine ⟨?_, fun hr => absurd none hr⟩
        rw [← was.sequence, waiting, none]
        simp
    simpa only [accepted, Controller.step, hf] using now

/-- Every move keeps the account, with what it puts added to the history. -/
theorem Conserves.step (h : Conserves sequences history c) (move : ControllerMove) :
    Conserves sequences (history ++ c.accepted move) (c.step p policy move) := by
  have own : c.accepted move = [] → move.isOfFeed = false →
      Conserves sequences (history ++ c.accepted move) (c.step p policy move) := by
    intro nothing own
    rw [nothing, List.append_nil]
    rcases step_cases p policy c move with ⟨r, rest, -, ht, next⟩ | rests
    · exact next ▸ h.dispatched ht
    · obtain ⟨feeds, pipeline⟩ := rests.feeds own
      exact h.frame feeds (by rw [rests.taken, pipeline]) rests.halted
  cases move with
  | offer i => exact h.offer i
  | look i =>
    have look : Conserves sequences history (c.step p policy (.look i)) := h.look i
    rwa [← List.append_nil history] at look
  | stop | sync pending late | check | take => exact own rfl rfl

theorem Conserves.run (h : Conserves sequences history c) (moves : List ControllerMove) :
    Conserves sequences (history ++ c.enqueued p policy moves) (c.run p policy moves) := by
  induction moves generalizing c history with
  | nil =>
    rw [enqueued, List.append_nil]
    exact h
  | cons move rest ih =>
    rw [enqueued, ← List.append_assoc]
    exact ih (h.step move)

variable (p policy) in
theorem run_conserves (sequences : List (List Resource)) (capacity : Option Nat) (s : σ)
    (moves : List ControllerMove) :
    Conserves sequences ((opened sequences capacity s).enqueued p policy moves)
      ((opened sequences capacity s).run p policy moves) :=
  (opened_conserves sequences capacity s).run moves

/-- What was taken is the front of what was put, and what is queued is the rest. -/
theorem Conserves.parts (h : Conserves sequences history c) :
    c.taken = (history.take c.taken.length).map (·.2) ∧
      c.pipeline.items = (history.drop c.taken.length).map (·.2) := by
  constructor
  · rw [List.map_take, ← h.flow, List.take_left]
  · rw [List.map_drop, ← h.flow, List.drop_left]

/-- Every feed has put its part of the history, which is a front part of its sequence. -/
theorem Conserves.front (h : Conserves sequences history c) {i : Nat} {rs : List Resource}
    (hrs : sequences[i]? = some rs) : ∃ f, c.feeds[i]? = some f ∧ f.put = ofFeed i history ∧ f.put <+: rs := by
  have hi : i < c.feeds.length := h.length ▸ (List.getElem?_eq_some_iff.mp hrs).1
  have hf := List.getElem?_eq_getElem hi
  obtain ⟨put, qs, hqs, follows⟩ := h.feed i _ hf
  cases hrs.symm.trans hqs
  refine ⟨_, hf, put, ?_⟩
  rw [← follows.sequence, List.append_assoc]
  exact List.prefix_append _ _

/-! ### Feeds that gave up -/

variable (p policy) in
/-- What a feed has given up stays so. -/
theorem refused_step {i : Nat} {f : Feed} (hf : c.feeds[i]? = some f) (move : ControllerMove) :
    ∃ g, (c.step p policy move).feeds[i]? = some g ∧ f.refused <+: g.refused := by
  have unmoved : ∀ {d : Controller σ}, d.feeds = c.feeds →
      ∃ g, d.feeds[i]? = some g ∧ f.refused <+: g.refused :=
    fun same => ⟨f, same ▸ hf, List.prefix_rfl⟩
  have own : move.isOfFeed = false → ∃ g, (c.step p policy move).feeds[i]? = some g ∧ f.refused <+: g.refused := by
    intro own
    rcases step_cases p policy c move with ⟨r, rest, -, -, next⟩ | rests
    · exact unmoved (next ▸ feeds_dispatched p policy r rest c)
    · exact unmoved (rests.feeds own).1
  cases move with
  | look j =>
    simp only [Controller.step]
    rw [List.getElem?_modify, hf]
    by_cases hij : j = i
    · exact ⟨f.look c.stopped, by simp [hij], f.look_refused c.stopped⟩
    · exact ⟨f, by simp [hij], List.prefix_rfl⟩
  | offer j =>
    simp only [Controller.step]
    cases hj : c.feeds[j]? with
    | none => exact unmoved rfl
    | some g =>
      by_cases hij : j = i
      · subst hij
        cases hf.symm.trans hj
        refine ⟨(f.offer c.pipeline).1, ?_, (f.offer_refused c.pipeline).symm ▸ List.prefix_rfl⟩
        rw [List.getElem?_set_self (List.getElem?_eq_some_iff.mp hf).1]
      · exact ⟨f, (List.getElem?_set_ne hij).trans hf, List.prefix_rfl⟩
  | stop | sync pending late | check | take => exact own rfl

theorem Conserves.accepts_nothing (h : Conserves sequences history c) {i : Nat} {f : Feed}
    (hf : c.feeds[i]? = some f) (hr : f.refused ≠ []) (move : ControllerMove) :
    ofFeed i (c.accepted move) = [] := by
  cases move with
  | offer j =>
    simp only [accepted]
    cases hj : c.feeds[j]? with
    | none => rfl
    | some g =>
      by_cases hij : j = i
      · subst hij
        cases hf.symm.trans hj
        obtain ⟨-, rs, -, follows⟩ := h.feed j f hf
        have idle : f.offer c.pipeline = (f, c.pipeline) := by
          unfold Feed.offer
          rw [(follows.halted hr).2]
        simp only [idle, List.drop_length]
        rfl
      · exact ofFeed_map_of_ne hij _
  | _ => rfl

/-- A feed that has given something up puts nothing more. -/
theorem Conserves.enqueues_nothing (h : Conserves sequences history c) {i : Nat} {f : Feed}
    (hf : c.feeds[i]? = some f) (hr : f.refused ≠ []) (moves : List ControllerMove) :
    ofFeed i (c.enqueued p policy moves) = [] := by
  induction moves generalizing c history f with
  | nil => rfl
  | cons move rest ih =>
    obtain ⟨g, hg, kept⟩ := refused_step p policy hf move
    rw [enqueued, ofFeed_append, h.accepts_nothing hf hr move,
      ih (h.step move) hg fun none => hr (List.prefix_nil.mp (none ▸ kept))]
    rfl

theorem Conserves.refusal (h : Conserves sequences history c) (stopped : c.stopped = true) {i : Nat} {f : Feed}
    (hf : c.feeds[i]? = some f) (waiting : f.waiting ≠ []) (after : List ControllerMove) :
    ofFeed i (c.enqueued p policy (.look i :: after)) = [] := by
  have looked : (c.step p policy (.look i)).feeds[i]? = some (f.look c.stopped) := by
    simp [Controller.step, hf]
  have refused : (f.look c.stopped).refused ≠ [] := by
    unfold Feed.look
    split
    · exact absurd ‹_› waiting
    · rw [if_pos stopped]
      exact List.append_ne_nil_of_right_ne_nil _ (List.cons_ne_nil _ _)
  exact (h.look i).enqueues_nothing looked refused after

variable (p policy) in
/-- A put that sees the signal to stop puts nothing, and neither does any later put of the feed. -/
theorem run_refusal (sequences : List (List Resource)) (capacity : Option Nat) (s : σ)
    {before : List ControllerMove} {i : Nat} {f g : Feed}
    (stopped : ((opened sequences capacity s).run p policy before).stopped = true)
    (hf : ((opened sequences capacity s).run p policy before).feeds[i]? = some f) (waiting : f.waiting ≠ [])
    (after : List ControllerMove)
    (hg : ((opened sequences capacity s).run p policy (before ++ .look i :: after)).feeds[i]? = some g) :
    g.put = f.put := by
  have earlier := run_conserves p policy sequences capacity s before
  have later := run_conserves p policy sequences capacity s (before ++ .look i :: after)
  have nothing : ofFeed i (((opened sequences capacity s).run p policy before).enqueued p policy
      (.look i :: after)) = [] := earlier.refusal stopped hf waiting after
  rw [(later.feed i g hg).1, (earlier.feed i f hf).1, enqueued_append, ofFeed_append, nothing, List.append_nil]

end Controller

/-! ### Updates -/

/-- An update puts what the old object contributed before anything else. -/
theorem Adapter.putAll_updated (a : Adapter) {e : MembershipEvent} (he : e.action = .updated)
    {gone : List Resource} (hg : (a.contribution (e.old.getD .null) .updated .deleted).outcome = .ok gone) :
    ∃ made, (putAll false (a.batches e)).1.resources = gone ++ made := by
  unfold batches
  rw [he]
  simp only [putAll, hg]
  exact ⟨_, rfl⟩

/-- Wherever an update stands in the sequence, all that it retracts was put before anything that it adds. -/
def RetractsFirst (sequence put : List Resource) : Prop :=
  ∀ (a : Adapter) (e : MembershipEvent) (front back gone : List Resource), e.action = .updated →
    sequence = front ++ (Adapter.putAll false (a.batches e)).1.resources ++ back →
    (a.contribution (e.old.getD .null) .updated .deleted).outcome = .ok gone →
    (front ++ gone).length < put.length → front ++ gone <+: put

theorem retractsFirst_of_prefix {sequence put : List Resource} (h : put <+: sequence) :
    RetractsFirst sequence put := by
  intro a e front back gone he split hg longer
  obtain ⟨made, hm⟩ := a.putAll_updated he hg
  refine List.prefix_of_prefix_length_le ⟨made ++ back, ?_⟩ h (Nat.le_of_lt longer)
  rw [split, hm]
  simp

end ClusterMdns
