import ClusterMdns.Hostname
import ClusterMdns.Proofs.Outcome

/-! Checks of names. A name passes if each of its labels does, and passing leaves it as it is; the name that is
taken from a host under `.local` passes as well. -/

namespace ClusterMdns.Hostname

theorem checkLabels_eq_ok_iff (host : String) {labels : List String} :
    checkLabels host labels = .ok () ↔ ∀ label ∈ labels, isLabel label.toList = true := by
  induction labels with
  | nil => simp [checkLabels]
  | cons label rest ih =>
    unfold checkLabels
    split
    · rename_i hl
      simp [ih, hl]
    · rename_i hl
      simp [hl]

/-- A valid name is given back as it was. -/
theorem validate_eq_ok_iff {name out : String} :
    validate name = .ok out ↔
      out = name ∧ ∀ label ∈ Text.splitOn '.' name, isLabel label.toList = true := by
  rw [← checkLabels_eq_ok_iff name, validate, bind_eq_ok]
  constructor
  · rintro ⟨⟨⟩, checked, h⟩
    cases h
    exact ⟨rfl, checked⟩
  · rintro ⟨rfl, checked⟩
    exact ⟨(), checked, rfl⟩

theorem validate_self {name out : String} (h : validate name = .ok out) : validate out = .ok out := by
  obtain ⟨rfl, labels⟩ := validate_eq_ok_iff.mp h
  exact h

/-- The name that a host under `.local` advertises is valid. -/
theorem validate_ofLocalHost {host name : String} (h : ofLocalHost host = .ok name) :
    validate name = .ok name := by
  unfold ofLocalHost at h
  dsimp only at h
  split at h
  · obtain ⟨⟨⟩, checked, h⟩ := bind_eq_ok.mp h
    obtain rfl := Except.ok.inj h
    exact validate_eq_ok_iff.mpr ⟨rfl, (checkLabels_eq_ok_iff _).mp checked⟩
  · cases h

end ClusterMdns.Hostname
