import ClusterMdns.Proofs.Outcome
import ClusterMdns.Settings.Load

/-! When a setting can take its content from a value. A value that can be written, and is no infinite number,
is refused only by settings that are whole numbers, and only if it stands for none. -/

namespace ClusterMdns

open Document

/-! ### Values that can be written -/

namespace Document.Value

mutual

theorem isWritable_fill {label : Nat} {w : Value} (hw : w.isWritable = true) :
    ∀ v : Value, v.isWritable = true → (fill label w v).isWritable = true
  | scalar _, h => h
  | list items, h => areWritable_fillItems hw items h
  | dict entries, h => entriesAreWritable_fillEntries hw entries h
  | pair k v, h => by
    rw [isWritable, Bool.and_eq_true] at h
    rw [fill, isWritable, Bool.and_eq_true]
    exact ⟨isWritable_fill hw k h.1, isWritable_fill hw v h.2⟩
  | set _, h => h
  | tied l v, h => by
    unfold fill
    split
    · exact h
    · exact isWritable_fill hw v h
  | back l, h => by
    unfold fill
    split
    · exact hw
    · exact h

theorem areWritable_fillItems {label : Nat} {w : Value} (hw : w.isWritable = true) :
    ∀ items : List Value, areWritable items = true → areWritable (fillItems label w items) = true
  | [], h => h
  | v :: rest, h => by
    rw [areWritable, Bool.and_eq_true] at h
    rw [fillItems, areWritable, Bool.and_eq_true]
    exact ⟨isWritable_fill hw v h.1, areWritable_fillItems hw rest h.2⟩

theorem entriesAreWritable_fillEntries {label : Nat} {w : Value} (hw : w.isWritable = true) :
    ∀ entries : List (Scalar × Value), entriesAreWritable entries = true →
      entriesAreWritable (fillEntries label w entries) = true
  | [], h => h
  | (k, v) :: rest, h => by
    rw [entriesAreWritable, Bool.and_eq_true, Bool.and_eq_true] at h
    rw [fillEntries, entriesAreWritable, Bool.and_eq_true, Bool.and_eq_true]
    exact ⟨⟨h.1.1, isWritable_fill hw v h.1.2⟩, entriesAreWritable_fillEntries hw rest h.2⟩

end

/-- What is inside a collection that is part of itself can be written if the collection can. -/
theorem isWritable_opened {v : Value} (h : v.isWritable = true) : v.opened.isWritable = true := by
  unfold opened
  split
  · exact isWritable_fill h _ h
  · exact h

theorem isWritable_of_mem {items : List Value} (h : (list items).isWritable = true) :
    ∀ v ∈ items, v.isWritable = true := by
  rw [isWritable] at h
  induction items with
  | nil => exact nofun
  | cons v items ih =>
    rw [areWritable, Bool.and_eq_true] at h
    exact List.forall_mem_cons.mpr ⟨h.1, ih h.2⟩

theorem text?_of_isWritable {v : Value} (h : v.isWritable = true) : v.text? = .ok v.text :=
  if_pos h

end Document.Value

/-! ### Contents -/

namespace Settings

variable {v : Value}

theorem itemsOf_of_isWritable (h : v.isWritable = true) : ∃ items, itemsOf v = .ok items := by
  unfold itemsOf
  split
  · rename_i vs opened
    have inside : ∀ w ∈ vs, w.isWritable = true :=
      Value.isWritable_of_mem (opened ▸ Value.isWritable_opened h)
    rw [mapM_of_forall fun w hw => Value.text?_of_isWritable (inside w hw)]
    exact ⟨_, rfl⟩
  · rw [Value.text?_of_isWritable h]
    exact ⟨_, rfl⟩

/-- Items that name no source are passed over, so collecting sources never fails. -/
theorem collectSources_outcome (ε : Type) (found : List SourceType) (items : List String) :
    ∃ sources, (collectSources found items : Logged ε _).outcome = .ok sources := by
  induction items generalizing found with
  | nil => exact ⟨found, rfl⟩
  | cons item items ih =>
    unfold collectSources
    split
    · obtain ⟨sources, hs⟩ := ih found
      exact ⟨sources, by rw [Logged.outcome_bind, hs]; rfl⟩
    · exact ih _

theorem boolOf_of_isWritable (h : v.isWritable = true) (default : Bool) : ∃ b, boolOf default v = .ok b := by
  unfold boolOf
  split
  · exact ⟨_, rfl⟩
  · exact ⟨_, rfl⟩
  · rw [Value.text?_of_isWritable h]
    exact ⟨_, rfl⟩

theorem textOf_of_isWritable (h : v.isWritable = true) : ∃ s, textOf v = .ok s := by
  unfold textOf
  split
  · exact ⟨_, rfl⟩
  · rw [Value.text?_of_isWritable h]
    exact ⟨_, rfl⟩

theorem sourcesOf_of_isWritable (h : v.isWritable = true) : ∃ sources, (sourcesOf v).outcome = .ok sources := by
  obtain ⟨items, hi⟩ := itemsOf_of_isWritable h
  obtain ⟨sources, hs⟩ := collectSources_outcome Fault [] items
  exact ⟨sources, by rw [sourcesOf, Logged.outcome_bind, Logged.outcome_lift, hi, ok_bind, hs]⟩

/-- A whole number, or what is wrong with the value. -/
theorem coerceAs_number (name : String) (default : Int) (v : Value) :
    (coerceAs .number name default v).outcome = match integerOf v with
      | .ok (some n) => .ok n
      | .ok none =>
        .error (if v.isWritable then .config (.noInteger name v) else .fault .badValue)
      | .error f => .error (.fault f) := by
  unfold coerceAs orFault
  rw [Logged.outcome_bind]
  cases integerOf v with
  | error f => rfl
  | ok n =>
    cases n with
    | some n => rfl
    | none => cases v.isWritable <;> rfl

/-- An error of the settings is that a value stands for no whole number where one is needed. -/
theorem coerceAs_eq_config {kind : Setting.Kind} {name : String} {default : kind.Content} {c : ConfigError}
    (h : (coerceAs kind name default v).outcome = .error (.config c)) :
    kind = .number ∧ integerOf v = .ok none ∧ c = .noInteger name v := by
  have foreign {α : Type} (x : Except Fault α) : x.mapError SettingsError.fault ≠ .error (.config c) := by
    cases x <;> exact nofun
  cases kind with
  | switch => exact absurd h (foreign _)
  | text => exact absurd h (foreign _)
  | sources => exact absurd h (foreign _)
  | number =>
    rw [coerceAs_number] at h
    split at h
    · cases h
    · rename_i unreadable
      rw [Except.error.injEq] at h
      split at h
      · cases h
        exact ⟨rfl, unreadable, rfl⟩
      · cases h
    · cases h

/-- The value, with all that is inside it, can be written, and it is no infinite number. -/
structure Ordinary (v : Value) : Prop where
  writable : v.isWritable = true
  finite : ∀ negative, v ≠ .scalar (.float (.infinite negative))

theorem integerOf_of_finite (h : ∀ negative, v ≠ .scalar (.float (.infinite negative))) :
    ∃ n, integerOf v = .ok n := by
  unfold integerOf
  split
  case h_3 negative => exact absurd rfl (h negative)
  all_goals exact ⟨_, rfl⟩

/-- What is wrong with an ordinary value is an error of the settings. -/
theorem coerceAs_ne_fault (h : Ordinary v) (kind : Setting.Kind) (name : String) (default : kind.Content)
    (f : Fault) : (coerceAs kind name default v).outcome ≠ .error (.fault f) := by
  cases kind with
  | switch =>
    obtain ⟨b, hb⟩ := boolOf_of_isWritable h.writable default
    unfold coerceAs
    simp only [orFault, hb]
    exact nofun
  | text =>
    obtain ⟨s, hs⟩ := textOf_of_isWritable h.writable
    unfold coerceAs
    simp only [orFault, hs]
    exact nofun
  | sources =>
    obtain ⟨sources, hs⟩ := sourcesOf_of_isWritable h.writable
    unfold coerceAs
    simp only [Logged.mapError, hs]
    exact nofun
  | number =>
    obtain ⟨n, hn⟩ := integerOf_of_finite h.finite
    rw [coerceAs_number, hn, h.writable]
    cases n <;> exact nofun

/-- A value that stands for no whole number is not taken where one is needed. -/
theorem coerceAs_of_no_integer {kind : Setting.Kind} (hk : kind = .number) (h : integerOf v = .ok none)
    (name : String) (default content : kind.Content) : (coerceAs kind name default v).outcome ≠ .ok content := by
  subst hk
  rw [coerceAs_number, h]
  exact nofun

end Settings

end ClusterMdns
