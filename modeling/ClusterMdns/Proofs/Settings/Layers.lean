import ClusterMdns.Proofs.Settings.Coercion
import ClusterMdns.Proofs.Table

/-! Which value counts for a setting: a flag, or else a variable of the environment, or else an entry of the
settings file. The content of every setting depends on that value alone, and loading fails only for such a
value, or if there is no source to watch. -/

namespace ClusterMdns

open Document

/-! ### Names of settings -/

namespace Setting

theorem ofName?_name (s : Setting) : ofName? s.name = some s := by
  cases s <;> rfl

theorem name_of_ofName? {name : String} {s : Setting} (h : ofName? name = some s) : s.name = name :=
  eq_of_beq (List.find?_some (p := fun s : Setting => s.name == name) h)

theorem name_inj {s t : Setting} (h : s.name = t.name) : s = t := by
  have same := ofName?_name s
  rw [h, ofName?_name] at same
  exact (Option.some.inj same).symm

theorem mem_all (s : Setting) : s ∈ all := by
  cases s <;> decide

end Setting

namespace Settings

@[ext] theorem ext {σ τ : Settings} (h : ∀ s, σ.get s = τ.get s) : σ = τ := by
  cases σ
  cases τ
  exact congrArg Settings.mk (funext h)

theorem get_set_self (σ : Settings) (s : Setting) (content : s.Content) : (σ.set s content).get s = content :=
  dif_pos rfl

theorem get_set_of_ne (σ : Settings) {s t : Setting} (h : s ≠ t) (content : s.Content) :
    (σ.set s content).get t = σ.get t :=
  dif_neg h

/-! ### The value that counts -/

def isNull : Value → Bool
  | .null => true
  | _ => false

/-- Dashes in the keys of a settings file are read as underscores. -/
def dashless (entries : List (String × Value)) : List (String × Value) :=
  entries.map fun e => (Text.replaceChar '-' '_' e.1, e.2)

/-- What is set for a setting: by a flag that is not null, or else in the environment, or else by the last
entry of the file under its name. -/
def winner (flags : List (String × Value)) (env : Environment) (entries : List (String × Value))
    (s : Setting) : Option Value :=
  (Table.last? s.name (flags.filter (!isNull ·.2))).or
    (((env.get? s.variableName).map Value.str).or (Table.last? s.name (dashless entries)))

/-- The content that a setting takes from a value that is set for it, or else the other one. -/
def contentOr (s : Setting) (other : s.Content) : Option Value → Except SettingsError s.Content
  | none => .ok other
  | some v => (coerce s v).outcome

section
variable (flags : List (String × Value)) (env : Environment) (entries : List (String × Value))

/-- What is said under other names makes no difference. -/
theorem winner_filter {s : Setting} {p q : String → Bool} (hp : p s.name = true)
    (hq : q s.variableName = true) :
    winner (flags.filter (p ·.1)) (env.filter (q ·.1))
      (entries.filter fun e => p (Text.replaceChar '-' '_' e.1)) s = winner flags env entries s := by
  have fromFlags : (flags.filter (p ·.1)).filter (!isNull ·.2) = (flags.filter (!isNull ·.2)).filter (p ·.1) :=
    List.filter_comm ..
  have fromEnvironment :
      Environment.get? s.variableName (env.filter (q ·.1)) = env.get? s.variableName := by
    rw [Environment.get?, List.find?_filter, Environment.get?]
    refine congrArg (Option.map (·.2)) (congrArg (List.find? · env) (funext fun e => ?_))
    by_cases he : e.1 = s.variableName
    · simp [he, hq]
    · simp [he]
  have fromFile : dashless (entries.filter fun e => p (Text.replaceChar '-' '_' e.1)) =
      (dashless entries).filter (p ·.1) := by
    rw [dashless, dashless, List.filter_map]
    rfl
  rw [winner, fromFlags, fromEnvironment, fromFile, Table.last?_filter hp, Table.last?_filter hp, winner]

end

/-! ### Layers -/

theorem last?_environmentLayer (env : Environment) (s : Setting) :
    Table.last? s.name (environmentLayer env) = (env.get? s.variableName).map Value.str := by
  suffices h : ∀ settings : List Setting, Table.last? s.name (settings.filterMap fun t =>
      (env.get? t.variableName).map fun text => (t.name, Value.str text)) =
      if s ∈ settings then (env.get? s.variableName).map Value.str else none by
    rw [environmentLayer, h, if_pos s.mem_all]
  intro settings
  induction settings with
  | nil => rfl
  | cons t settings ih =>
    by_cases ht : t = s
    · subst ht
      rw [if_pos List.mem_cons_self]
      cases hv : env.get? t.variableName with
      | none => rw [List.filterMap_cons_none (by rw [hv]; rfl), ih, hv, Option.map_none, ite_self]
      | some text =>
        rw [List.filterMap_cons_some (by rw [hv]; rfl), Table.last?_cons, ih, hv, if_pos rfl]
        split <;> rfl
    · have names : t.name ≠ s.name := fun h => ht (Setting.name_inj h)
      have mem : s ∈ t :: settings ↔ s ∈ settings := by
        rw [List.mem_cons, or_iff_right (Ne.symm ht)]
      simp only [mem]
      rw [← ih]
      cases hv : env.get? t.variableName with
      | none => rw [List.filterMap_cons_none (by rw [hv]; rfl)]
      | some text =>
        rw [List.filterMap_cons_some (by rw [hv]; rfl), Table.last?_cons, if_neg names, Option.or_none]

theorem flagLayer_eq (flags : List (String × Value)) :
    flagLayer flags = Table.ofList (flags.filter (!isNull ·.2)) := by
  have given (v : Value) : (match v with | .null => false | _ => true) = !isNull v := by
    unfold isNull
    split <;> rfl
  exact congrArg Table.ofList (List.filter_congr fun e _ => given e.2)

/-- The table of all layers, above what the file says. -/
def above (content : Layer) (flags : List (String × Value)) (env : Environment) : Layer :=
  (content.setAll (environmentLayer env)).setAll (flagLayer flags)

/-- What is set by a flag that is not null counts, or else what is set in the environment, or else in the file. -/
theorem find?_above (content : Layer) (flags : List (String × Value)) (env : Environment) (s : Setting) :
    (above content flags env).find? s.name = (Table.last? s.name (flags.filter (!isNull ·.2))).or
      (((env.get? s.variableName).map Value.str).or (content.find? s.name)) := by
  rw [above, Table.find?_setAll_last, Table.find?_setAll_last, last?_environmentLayer, flagLayer_eq,
    Table.last?_of_nodup (Table.nodup_ofList _), Table.find?_ofList_last]

theorem nodup_above {content : Layer} (nodup : content.keys.Nodup) (flags : List (String × Value))
    (env : Environment) : (above content flags env).keys.Nodup :=
  Table.nodup_setAll (Table.nodup_setAll nodup _) _

/-- The table of all layers. -/
def merged (flags : List (String × Value)) (env : Environment) (entries : List (String × Value)) : Layer :=
  ((Table.ofList (dashless entries)).setAll (environmentLayer env)).setAll (flagLayer flags)

section
variable (flags : List (String × Value)) (env : Environment) (entries : List (String × Value))

theorem find?_merged (s : Setting) :
    (merged flags env entries).find? s.name = winner flags env entries s := by
  have layers : merged flags env entries = above (Table.ofList (dashless entries)) flags env := rfl
  rw [layers, find?_above, Table.find?_ofList_last, winner]

theorem nodup_merged : (merged flags env entries).keys.Nodup :=
  nodup_above (Table.nodup_ofList _) flags env

end

/-! ### Setting one after another -/

theorem apply_eq_ok_iff {layer : Layer} (nodup : layer.keys.Nodup) (σ τ : Settings) :
    (apply σ layer).outcome = .ok τ ↔
      ∀ s, contentOr s (σ.get s) (layer.find? s.name) = .ok (τ.get s) := by
  induction layer generalizing σ with
  | nil =>
    constructor
    · rintro ⟨⟩ s
      rfl
    · intro h
      exact congrArg Except.ok (ext fun s => Except.ok.inj (h s))
  | cons e rest ih =>
    obtain ⟨name, v⟩ := e
    obtain ⟨fresh, rested⟩ := List.nodup_cons.mp nodup
    unfold apply
    cases named : Setting.ofName? name with
    | none =>
      have other (s : Setting) : name ≠ s.name := by
        rintro rfl
        rw [Setting.ofName?_name] at named
        cases named
      simp only [ih rested, Table.find?, other, if_false]
    | some s =>
      obtain rfl := Setting.name_of_ofName? named
      have absent : Table.find? s.name rest = none := Table.find?_eq_none_iff.mpr fresh
      have other {t : Setting} (ht : s ≠ t) : s.name ≠ t.name := fun h => ht (Setting.name_inj h)
      simp only [Logged.outcome_bind, bind_eq_ok, ih rested]
      constructor
      · rintro ⟨content, hc, h⟩ t
        by_cases ht : s = t
        · subst ht
          have kept := h s
          rw [absent, contentOr, get_set_self, Except.ok.injEq] at kept
          rw [Table.find?, if_pos rfl, contentOr, hc, kept]
        · rw [Table.find?, if_neg (other ht), ← get_set_of_ne σ ht content]
          exact h t
      · intro h
        have here := h s
        rw [Table.find?, if_pos rfl] at here
        refine ⟨τ.get s, here, fun t => ?_⟩
        by_cases ht : s = t
        · subst ht
          rw [absent, contentOr, get_set_self]
        · have later := h t
          rw [Table.find?, if_neg (other ht)] at later
          rwa [get_set_of_ne σ ht]

/-- If setting fails, it is for a value that some setting does not take. -/
theorem apply_eq_error {layer : Layer} {σ : Settings} {e : SettingsError}
    (h : (apply σ layer).outcome = .error e) :
    ∃ (s : Setting) (v : Value), (s.name, v) ∈ layer ∧ (coerce s v).outcome = .error e := by
  induction layer generalizing σ with
  | nil => cases h
  | cons entry rest ih =>
    obtain ⟨name, v⟩ := entry
    unfold apply at h
    cases named : Setting.ofName? name with
    | none =>
      rw [named] at h
      obtain ⟨s, w, hm, hw⟩ := ih h
      exact ⟨s, w, List.mem_cons_of_mem _ hm, hw⟩
    | some s =>
      rw [named] at h
      simp only [Logged.outcome_bind] at h
      cases taken : (coerce s v).outcome with
      | error f =>
        rw [taken] at h
        cases h
        refine ⟨s, v, ?_, taken⟩
        rw [Setting.name_of_ofName? named]
        exact List.mem_cons_self
      | ok content =>
        rw [taken, ok_bind] at h
        obtain ⟨t, w, hm, hw⟩ := ih h
        exact ⟨t, w, List.mem_cons_of_mem _ hm, hw⟩

end Settings

end ClusterMdns
