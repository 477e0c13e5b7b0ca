import ClusterMdns.Document.Comparison

/-! Values are equal if they are built alike, which can be decided. -/

namespace ClusterMdns.Document.Value

mutual

/-- Whether two values are built alike. -/
def isAlike : Value → Value → Bool
  | scalar s, scalar t => s == t
  | list xs, list ys => areAlike xs ys
  | dict xs, dict ys => entriesAreAlike xs ys
  | pair k v, pair l w => isAlike k l && isAlike v w
  | set xs, set ys => xs == ys
  | tied l v, tied m w => l == m && isAlike v w
  | back l, back m => l == m
  | _, _ => false

def areAlike : List Value → List Value → Bool
  | [], [] => true
  | x :: xs, y :: ys => isAlike x y && areAlike xs ys
  | _, _ => false

def entriesAreAlike : List (Scalar × Value) → List (Scalar × Value) → Bool
  | [], [] => true
  | (k, x) :: xs, (l, y) :: ys => k == l && isAlike x y && entriesAreAlike xs ys
  | _, _ => false

end

mutual

theorem isAlike_self : ∀ v : Value, isAlike v v = true
  | scalar _ => by simp [isAlike]
  | list items => areAlike_self items
  | dict entries => entriesAreAlike_self entries
  | pair k v => by simp [isAlike, isAlike_self k, isAlike_self v]
  | set _ => by simp [isAlike]
  | tied _ v => by simp [isAlike, isAlike_self v]
  | back _ => by simp [isAlike]

theorem areAlike_self : ∀ items : List Value, areAlike items items = true
  | [] => rfl
  | v :: rest => by simp [areAlike, isAlike_self v, areAlike_self rest]

theorem entriesAreAlike_self : ∀ entries : List (Scalar × Value), entriesAreAlike entries entries = true
  | [] => rfl
  | (_, v) :: rest => by simp [entriesAreAlike, isAlike_self v, entriesAreAlike_self rest]

end

mutual

theorem eq_of_isAlike : ∀ v w : Value, isAlike v w = true → v = w
  | scalar s, w, h => by cases w <;> simp_all [isAlike]
  | list xs, w, h => by
    cases w with
    | list ys => rw [eq_of_areAlike xs ys h]
    | _ => cases h
  | dict xs, w, h => by
    cases w with
    | dict ys => rw [eq_of_entriesAreAlike xs ys h]
    | _ => cases h
  | pair k v, w, h => by
    cases w with
    | pair l u =>
      rw [isAlike, Bool.and_eq_true] at h
      rw [eq_of_isAlike k l h.1, eq_of_isAlike v u h.2]
    | _ => cases h
  | set xs, w, h => by cases w <;> simp_all [isAlike]
  | tied l v, w, h => by
    cases w with
    | tied m u =>
      rw [isAlike, Bool.and_eq_true, beq_iff_eq] at h
      rw [h.1, eq_of_isAlike v u h.2]
    | _ => cases h
  | back l, w, h => by cases w <;> simp_all [isAlike]

theorem eq_of_areAlike : ∀ xs ys : List Value, areAlike xs ys = true → xs = ys
  | [], [], _ => rfl
  | x :: xs, y :: ys, h => by
    rw [areAlike, Bool.and_eq_true] at h
    rw [eq_of_isAlike x y h.1, eq_of_areAlike xs ys h.2]

theorem eq_of_entriesAreAlike :
    ∀ xs ys : List (Scalar × Value), entriesAreAlike xs ys = true → xs = ys
  | [], [], _ => rfl
  | (k, x) :: xs, (l, y) :: ys, h => by
    rw [entriesAreAlike, Bool.and_eq_true, Bool.and_eq_true, beq_iff_eq] at h
    rw [h.1.1, eq_of_isAlike x y h.1.2, eq_of_entriesAreAlike xs ys h.2]

end

instance : DecidableEq Value := fun v w =>
  decidable_of_iff (isAlike v w = true) ⟨eq_of_isAlike v w, fun h => h ▸ isAlike_self v⟩

end ClusterMdns.Document.Value
