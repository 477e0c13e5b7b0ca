import ClusterMdns.Document.Value
import ClusterMdns.Log

/-! Computations that fail, and computations that log on the way, taken apart. A sequence of steps succeeds
exactly if every step does, and what was logged has no influence on that. -/

namespace ClusterMdns

open Document

variable {ε ε' α β : Type}

theorem bind_eq_ok {first : Except ε α} {later : α → Except ε β} {out : β} :
    first >>= later = .ok out ↔ ∃ a, first = .ok a ∧ later a = .ok out := by
  constructor
  · intro h
    cases first with
    | error e => cases h
    | ok a => exact ⟨a, rfl, h⟩
  · rintro ⟨a, rfl, h⟩
    exact h

@[simp] theorem ok_bind (a : α) (later : α → Except ε β) : (Except.ok a >>= later) = later a := rfl

theorem map_eq_ok {first : Except ε α} {f : α → β} {out : β} :
    first.map f = .ok out ↔ ∃ a, first = .ok a ∧ f a = out := by
  constructor
  · intro h
    cases first with
    | error e => cases h
    | ok a => exact ⟨a, rfl, Except.ok.inj h⟩
  · rintro ⟨a, rfl, rfl⟩
    rfl

theorem map_bind {γ : Type} (first : Except ε α) (later : α → Except ε β) (f : β → γ) :
    (first >>= later).map f = first >>= fun a => (later a).map f := by
  cases first <;> rfl

theorem eq_ok_of_toOption {first : Except ε α} {a : α} (h : first.toOption = some a) : first = .ok a := by
  cases first with
  | error e => cases h
  | ok b => exact congrArg Except.ok (Option.some.inj h)

theorem mapM_eq_ok {f : α → Except ε β} {xs : List α} {ys : List β} (h : xs.mapM f = .ok ys) :
    ∀ y ∈ ys, ∃ x ∈ xs, f x = .ok y := by
  induction xs generalizing ys with
  | nil => cases h; simp
  | cons x xs ih =>
    rw [List.mapM_cons] at h
    obtain ⟨y, hy, h⟩ := bind_eq_ok.mp h
    obtain ⟨rest, hrest, h⟩ := bind_eq_ok.mp h
    cases h
    intro z hz
    rcases List.mem_cons.mp hz with rfl | hz
    · exact ⟨x, List.mem_cons_self, hy⟩
    · obtain ⟨w, hw, hz⟩ := ih hrest z hz
      exact ⟨w, List.mem_cons_of_mem _ hw, hz⟩

theorem mapM_of_forall {f : α → Except ε β} {g : α → β} {xs : List α} (h : ∀ x ∈ xs, f x = .ok (g x)) :
    xs.mapM f = .ok (xs.map g) := by
  induction xs with
  | nil => rfl
  | cons x xs ih =>
    obtain ⟨hx, hxs⟩ := List.forall_mem_cons.mp h
    rw [List.mapM_cons, hx, ok_bind, ih hxs]
    rfl

theorem bind_pure_eq_error {first : Except ε α} {f : α → β} {e : ε} :
    (first >>= fun a => Except.ok (f a)) = .error e ↔ first = .error e := by
  cases first with
  | error e' => simp [bind, Except.bind]
  | ok a => simp

theorem bind_eq_error {first : Except ε α} {later : α → Except ε β} {e : ε} :
    first >>= later = .error e ↔ first = .error e ∨ ∃ a, first = .ok a ∧ later a = .error e := by
  cases first with
  | error e' => simp [bind, Except.bind]
  | ok a => simp

/-- What holds of the result, if there is one. -/
def Ensures (P : α → Prop) (x : Except ε α) : Prop :=
  ∀ a, x = .ok a → P a

namespace Ensures

variable {P : α → Prop} {Q : β → Prop}

theorem ok {a : α} (h : P a) : Ensures P (Except.ok a : Except ε α) := by
  rintro _ ⟨⟩
  exact h

theorem error (e : ε) : Ensures P (Except.error e) := nofun

theorem bind {first : Except ε α} {later : α → Except ε β} (h : Ensures P first)
    (next : ∀ a, P a → Ensures Q (later a)) : Ensures Q (first >>= later) := by
  intro b hb
  obtain ⟨a, ha, hb⟩ := bind_eq_ok.mp hb
  exact next a (h a ha) b hb

theorem ite {c : Prop} [Decidable c] {x y : Except ε α} (hx : Ensures P x) (hy : Ensures P y) :
    Ensures P (if c then x else y) := by
  split
  · exact hx
  · exact hy

/-- Where only the success of the first step matters. -/
theorem after {first : Except ε α} {later : α → Except ε β} (next : ∀ a, first = .ok a → Ensures Q (later a)) :
    Ensures Q (first >>= later) :=
  bind (fun _ => id) next

end Ensures

/-- What comes later matters only after a success. -/
theorem bind_congr_of_ok {first : Except ε α} {later other : α → Except ε β}
    (h : ∀ a, first = .ok a → later a = other a) : first >>= later = first >>= other := by
  cases first with
  | error e => rfl
  | ok a => exact h a rfl

/-- If all steps can only fail in the same way, it does not matter which of them fails first. -/
theorem mapM_eq_error {f : α → Except ε β} {e₀ : ε} (uniform : ∀ x e, f x = .error e → e = e₀) {xs : List α}
    {e : ε} : xs.mapM f = .error e ↔ e = e₀ ∧ ∃ x ∈ xs, f x = .error e₀ := by
  induction xs with
  | nil => simp [pure, Except.pure]
  | cons x xs ih =>
    rw [List.mapM_cons]
    cases first : f x with
    | error e' =>
      cases uniform x e' first
      simp [first, bind, Except.bind, eq_comm]
    | ok y =>
      have rest : (do let ys ← xs.mapM f; pure (y :: ys)) = Except.error e ↔ xs.mapM f = .error e :=
        bind_pure_eq_error
      rw [ok_bind, rest, ih]
      simp [first]

/-! ### Computations that log -/

namespace Logged

@[simp] theorem outcome_pure (a : α) : (pure a : Logged ε α).outcome = .ok a := rfl

@[simp] theorem outcome_bind (x : Logged ε α) (f : α → Logged ε β) :
    (x >>= f).outcome = x.outcome >>= fun a => (f a).outcome := by
  cases x with
  | mk lines outcome => cases outcome <;> rfl

@[simp] theorem outcome_lift (x : Except ε α) : (liftM x : Logged ε α).outcome = x := rfl

@[simp] theorem outcome_recover (x : Logged ε α) (f : ε → Logged ε' α) :
    (x.recover f).outcome = match x.outcome with
      | .ok a => .ok a
      | .error e => (f e).outcome := by
  cases x with
  | mk lines outcome => cases outcome <;> rfl

theorem lift_ok_bind (a : α) (f : α → Logged ε β) : ((liftM (Except.ok a : Except ε α) : Logged ε α) >>= f) = f a :=
  rfl

/-- Steps that cannot log may be taken together. -/
theorem lift_bind_lift {γ : Type} (first : Except ε α) (later : α → Except ε β) (f : β → Logged ε γ) :
    ((liftM first : Logged ε α) >>= fun a => (liftM (later a) : Logged ε β) >>= f) =
      (liftM (first >>= later) : Logged ε β) >>= f := by
  cases first <;> rfl

end Logged

/-! ### Looking into values -/

namespace Document.Value

theorem isText_iff {v : Value} {s : String} : v.isText s = true ↔ v = .str s := by
  unfold isText
  split
  · simp
  · rename_i h
    exact ⟨nofun, fun hv => absurd hv (h s)⟩

/-- A value that can be asked for one entry can be asked for any. -/
theorem get?_of_get? {v : Value} {key : String} {found : Option Value} (h : v.get? key = .ok found)
    (other : String) : ∃ found, v.get? other = .ok found := by
  unfold get? at h ⊢
  split at h
  · exact ⟨_, rfl⟩
  · cases h

theorem section?_of_get {v : Value} {key : String} {found : Value} (h : v.get key = .ok found)
    (other : String) : ∃ w, v.section? other = .ok w := by
  obtain ⟨_, hf, -⟩ := map_eq_ok.mp h
  obtain ⟨_, ho⟩ := get?_of_get? hf other
  exact ⟨_, map_eq_ok.mpr ⟨_, map_eq_ok.mpr ⟨_, ho, rfl⟩, rfl⟩⟩

theorem orElse_of_truthy {v : Value} (h : v.truthy = true) (other : Value) : v.orElse other = v :=
  if_pos h

theorem orElse_of_not_truthy {v : Value} (h : v.truthy = false) (other : Value) :
    v.orElse other = other :=
  if_neg (by simp [h])

end Document.Value

end ClusterMdns
