import ClusterMdns.Document.Comparison
import ClusterMdns.Proofs.Outcome

/-! How a value fails that is asked for its entries or its items, or compared with another. Each of these fails in one
way only. -/

namespace ClusterMdns

open Document

namespace Document.Value

/-- The value can be asked for its entries. -/
def IsMapping (v : Value) : Prop :=
  ∃ entries, v.opened = .dict entries

theorem get?_eq_error {v : Value} {key : String} {f : Fault} :
    v.get? key = .error f ↔ ¬ v.IsMapping ∧ f = .noOperation := by
  unfold get? IsMapping
  split
  · rename_i entries mapping
    simp [mapping]
  · rename_i other
    constructor
    · intro h
      cases h
      exact ⟨fun ⟨entries, mapping⟩ => other entries mapping, rfl⟩
    · rintro ⟨-, rfl⟩
      rfl

theorem get_eq_error {v : Value} {key : String} {f : Fault} :
    v.get key = .error f ↔ ¬ v.IsMapping ∧ f = .noOperation := by
  have looked_up : v.get? key = .error f ↔ _ := get?_eq_error
  rw [← looked_up, get]
  cases v.get? key <;> simp [Except.map]

theorem isMapping_of_get? {v : Value} {key : String} {found : Option Value} (h : v.get? key = .ok found) :
    v.IsMapping := by
  unfold get? at h
  split at h
  · exact ⟨_, ‹_›⟩
  · cases h

theorem isMapping_of_get {v : Value} {key : String} {found : Value} (h : v.get key = .ok found) : v.IsMapping := by
  obtain ⟨entry, h, -⟩ := map_eq_ok.mp h
  exact isMapping_of_get? h

/-- What has no items to step through is of the wrong kind. -/
theorem elements_eq_error {v : Value} {f : Fault} :
    v.elements = .error f ↔ (∀ items, v.elements ≠ .ok items) ∧ f = .wrongKind := by
  constructor
  · intro h
    refine ⟨fun items => by rw [h]; exact nofun, ?_⟩
    unfold elements at h
    split at h
    all_goals cases h
    rfl
  · rintro ⟨none, rfl⟩
    cases h : v.elements with
    | ok items => exact absurd h (none items)
    | error f =>
      unfold elements at h
      split at h
      all_goals cases h
      rfl

/-! ### Comparisons without end -/

theorem equalItems_eq_error {equal : Value → Value → Except Fault Bool} {f₀ f : Fault}
    (only : ∀ v w f, equal v w = .error f → f = f₀) {xs ys : List Value} (h : equalItems equal xs ys = .error f) :
    f = f₀ := by
  induction xs generalizing ys with
  | nil => cases ys <;> cases h
  | cons x xs ih =>
    cases ys with
    | nil => cases h
    | cons y ys =>
      rw [equalItems, bind_eq_error] at h
      rcases h with h | ⟨same, -, h⟩
      · exact only x y f h
      · split at h
        · exact ih h
        · cases h

theorem equalEntries_eq_error {equal : Value → Value → Except Fault Bool} {f₀ f : Fault}
    (only : ∀ v w f, equal v w = .error f → f = f₀) {xs ys : List (Scalar × Value)}
    (h : equalEntries equal xs ys = .error f) : f = f₀ := by
  induction xs with
  | nil => cases h
  | cons e xs ih =>
    obtain ⟨k, x⟩ := e
    rw [equalEntries] at h
    split at h
    · rename_i l y found
      rcases bind_eq_error.mp h with h | ⟨same, -, h⟩
      · exact only x y f h
      · split at h
        · exact ih h
        · cases h
    · cases h

/-- A comparison fails in one way only. -/
theorem equalWithin_eq_error {fuel : Nat} {v w : Value} {f : Fault} (h : equalWithin fuel v w = .error f) :
    f = .tooDeep := by
  induction fuel generalizing v w f with
  | zero =>
    cases h
    rfl
  | succ fuel ih =>
    have part (x y : Value) (f : Fault) (h : equalPart (equalWithin fuel) x y = .error f) : f = .tooDeep := by
      unfold equalPart at h
      split at h
      · cases h
      · exact ih h
    have collections {x y : Value}
        (h : equalWithin.equalCollections (equalPart (equalWithin fuel)) x y = .error f) : f = .tooDeep := by
      unfold equalWithin.equalCollections at h
      split at h
      · split at h
        · exact equalItems_eq_error part h
        · cases h
      · split at h
        · exact equalEntries_eq_error part h
        · cases h
      · exact equalItems_eq_error part h
      · cases h
      · cases h
    unfold equalWithin at h
    split at h
    · cases h
    · split at h
      · cases h
      · exact collections h
    · exact collections h

end Document.Value

end ClusterMdns
