import ClusterMdns.Proofs.Settings.Layers

/-! Loading the settings. What is loaded depends on the values that count and on nothing else; values that are
ordinary stop it only if they stand for no whole number where one is needed, or leave no source to watch. -/

namespace ClusterMdns

open Document

namespace Settings

/-! ### What is loaded -/

/-- There is no settings file, or there is one and it has these entries, whose keys are texts. -/
inductive FileHolds (host : Host) (file : String) : List (String × Value) → Prop
  | absent (found : findFile host file = .ok none) : FileHolds host file []
  | present {path : Path} {v : Value} {entries : List (String × Value)}
      (found : findFile host file = .ok (some path)) (read : readFile host path = .ok v)
      (mapping : (v.orElse (.dict [])).opened = .dict (entries.map fun e => (.str e.1, e.2))) :
      FileHolds host file entries

theorem warnUnknown_outcome (names : List String) : (warnUnknown names).outcome = .ok () := by
  induction names with
  | nil => rfl
  | cons name names ih =>
    rw [warnUnknown, Logged.outcome_bind, ih]
    rfl

/-- What the settings file says, if there is one. -/
def fileContent (host : Host) (file : String) : Logged SettingsError Layer := do
  match ← orFault (findFile host file) with
  | some path => fileLayer host path
  | none => pure []

/-- Settings without a source to watch are refused, unless this is a test. -/
def watching (σ : Settings) : Except SettingsError Settings :=
  if σ.sources.isEmpty && !σ.test then .error (.config .noSources) else .ok σ

/-- Loading reads the file, sets what the layers say and then asks for sources. -/
theorem load_steps (host : Host) (flags : List (String × Value)) (env : Environment) (file : String) :
    (load host flags env file).outcome = (fileContent host file).outcome >>= fun content =>
      (apply default (above content flags env)).outcome >>= watching := by
  have last (σ : Settings) :
      (if σ.sources.isEmpty && !σ.test then Logged.fail (.config .noSources) else pure σ :
        Logged SettingsError Settings).outcome = watching σ := by
    unfold watching
    split <;> rfl
  have name (found : Except Fault (Option Path)) : (orFault found).outcome = found.mapError .fault := rfl
  simp only [load, fileContent, Logged.outcome_bind, name]
  cases findFile host file with
  | error f => rfl
  | ok found =>
    cases found with
    | none =>
      simp only [Except.mapError, ok_bind, Logged.outcome_bind, Logged.outcome_pure, warnUnknown_outcome, last]
      rfl
    | some path =>
      simp only [Except.mapError, ok_bind, Logged.outcome_bind, warnUnknown_outcome, last]
      rfl

section
variable {host : Host} {file : String} {entries : List (String × Value)}

theorem fileLayer_outcome {path : Path} {v : Value} (read : readFile host path = .ok v)
    (mapping : (v.orElse (.dict [])).opened = .dict (entries.map fun e => (.str e.1, e.2))) :
    (fileLayer host path).outcome = .ok (Table.ofList (dashless entries)) := by
  have names : (entries.map fun e => (Scalar.str e.1, e.2)).mapM
      (fun e => do pure (← keyName e.1, e.2)) = Except.ok (dashless entries) := by
    rw [mapM_of_forall (g := fun e => (Text.replaceChar '-' '_' e.1.text, e.2))]
    · rw [List.map_map]
      rfl
    · exact List.forall_mem_map.mpr fun e _ => rfl
  simp only [fileLayer, Logged.outcome_bind, Logged.outcome_lift, read, ok_bind, mapping, names]
  rfl

theorem FileHolds.content (h : FileHolds host file entries) :
    (fileContent host file).outcome = .ok (Table.ofList (dashless entries)) := by
  have name {found : Option Path} : (orFault (.ok found)).outcome = .ok found := rfl
  cases h with
  | absent found =>
    simp only [fileContent, Logged.outcome_bind, found, name, ok_bind]
    rfl
  | present found read mapping =>
    simp only [fileContent, Logged.outcome_bind, found, name, ok_bind, fileLayer_outcome read mapping]

/-- Loading sets what the layers say and then asks for sources. -/
theorem load_outcome (h : FileHolds host file entries) (flags : List (String × Value)) (env : Environment) :
    (load host flags env file).outcome = (apply default (merged flags env entries)).outcome >>= fun σ =>
      if σ.sources.isEmpty && !σ.test then .error (.config .noSources) else .ok σ := by
  rw [load_steps, h.content]
  rfl

theorem sourceless_iff (σ : Settings) :
    (σ.sources.isEmpty && !σ.test) = true ↔ σ.sources = [] ∧ σ.test = false := by
  rw [Bool.and_eq_true, List.isEmpty_iff, Bool.not_eq_true']

theorem apply_merged_iff (flags : List (String × Value)) (env : Environment)
    (entries : List (String × Value)) (σ : Settings) :
    (apply default (merged flags env entries)).outcome = .ok σ ↔
      ∀ s, contentOr s s.default (winner flags env entries s) = .ok (σ.get s) := by
  rw [apply_eq_ok_iff (nodup_merged flags env entries)]
  simp only [find?_merged]
  rfl

/-- Every setting has the content of the value that counts for it, and there is a source unless this is a
test. -/
theorem load_eq_ok_iff (h : FileHolds host file entries) (flags : List (String × Value)) (env : Environment)
    (σ : Settings) : (load host flags env file).outcome = .ok σ ↔
      (∀ s, contentOr s s.default (winner flags env entries s) = .ok (σ.get s)) ∧
        ¬ (σ.sources = [] ∧ σ.test = false) := by
  rw [load_outcome h, bind_eq_ok, ← apply_merged_iff]
  simp only [sourceless_iff]
  constructor
  · rintro ⟨τ, applied, h⟩
    split at h
    · cases h
    · cases h
      exact ⟨applied, ‹_›⟩
  · rintro ⟨applied, some_source⟩
    exact ⟨σ, applied, if_neg some_source⟩

/-! ### What is refused -/

/-- What can be wrong with the values that count: one stands for no whole number where one is needed, or they
leave no source to watch, and this is no test. -/
inductive Objection (won : Setting → Option Value) : ConfigError → Prop
  | number {s : Setting} {v : Value} (kind : s.kind = .number) (given : won s = some v)
      (unreadable : integerOf v = .ok none) : Objection won (.noInteger s.name v)
  | sources (none_left : contentOr .source Setting.source.default (won .source) = .ok [])
      (no_test : contentOr .test Setting.test.default (won .test) = .ok false) : Objection won .noSources

/-- Loading fails for a value that some setting does not take, or for want of sources. -/
theorem load_error_cases (h : FileHolds host file entries) {flags : List (String × Value)} {env : Environment}
    {e : SettingsError} (he : (load host flags env file).outcome = .error e) :
    (∃ s v, winner flags env entries s = some v ∧ (coerce s v).outcome = .error e) ∨
      e = .config .noSources ∧ Objection (winner flags env entries) .noSources := by
  rw [load_outcome h] at he
  cases applied : (apply default (merged flags env entries)).outcome with
  | error f =>
    rw [applied] at he
    cases he
    obtain ⟨s, v, hm, hv⟩ := apply_eq_error applied
    refine .inl ⟨s, v, ?_, hv⟩
    rw [← find?_merged, Table.find?_of_mem (nodup_merged flags env entries) hm]
  | ok σ =>
    have contents := (apply_merged_iff flags env entries σ).mp applied
    rw [applied, ok_bind] at he
    split at he
    · rename_i refused
      cases he
      obtain ⟨none_left, no_test⟩ := (sourceless_iff σ).mp refused
      refine .inr ⟨rfl, .sources ?_ ?_⟩
      · rw [← none_left]
        exact contents .source
      · rw [← no_test]
        exact contents .test
    · cases he

theorem load_eq_config (h : FileHolds host file entries) {flags : List (String × Value)} {env : Environment}
    {c : ConfigError} (hc : (load host flags env file).outcome = .error (.config c)) :
    Objection (winner flags env entries) c := by
  obtain ⟨s, v, given, hv⟩ | ⟨hn, objection⟩ := load_error_cases h hc
  · obtain ⟨kind, unreadable, rfl⟩ := coerceAs_eq_config hv
    exact .number kind given unreadable
  · cases hn
    exact objection

/-- No fault comes of values that are ordinary. -/
theorem load_ne_fault (h : FileHolds host file entries) {flags : List (String × Value)} {env : Environment}
    (ordinary : ∀ s, ∀ v ∈ winner flags env entries s, Ordinary v) (f : Fault) :
    (load host flags env file).outcome ≠ .error (.fault f) := by
  intro hf
  obtain ⟨s, v, given, hv⟩ | ⟨hn, -⟩ := load_error_cases h hf
  · exact coerceAs_ne_fault (ordinary s v given) s.kind s.name s.default f hv
  · cases hn

/-- Nothing is loaded if there is an objection. -/
theorem load_ne_ok (h : FileHolds host file entries) {flags : List (String × Value)} {env : Environment}
    {c : ConfigError} (objection : Objection (winner flags env entries) c) (σ : Settings) :
    (load host flags env file).outcome ≠ .ok σ := by
  rw [Ne, load_eq_ok_iff h]
  rintro ⟨contents, some_source⟩
  cases objection with
  | @number s v kind given unreadable =>
    have content := contents s
    rw [given] at content
    exact coerceAs_of_no_integer kind unreadable _ _ _ content
  | sources none_left no_test =>
    refine some_source ⟨?_, ?_⟩
    · exact Except.ok.inj ((contents .source).symm.trans none_left)
    · exact Except.ok.inj ((contents .test).symm.trans no_test)

/-- What is loaded is the content of the values that count, and depends on nothing else. -/
theorem load_by_layers (h : FileHolds host file entries) (flags : List (String × Value)) (env : Environment) :
    (∀ σ, (load host flags env file).outcome = .ok σ ↔
      (∀ s, contentOr s s.default (winner flags env entries s) = .ok (σ.get s)) ∧
        ¬ (σ.sources = [] ∧ σ.test = false)) ∧
    (∀ (host' : Host) (file' : String) (entries' : List (String × Value)), FileHolds host' file' entries' →
      ∀ (flags' : List (String × Value)) (env' : Environment),
        (∀ s σ τ, (load host flags env file).outcome = .ok σ → (load host' flags' env' file').outcome = .ok τ →
          winner flags' env' entries' s = winner flags env entries s → τ.get s = σ.get s) ∧
        ((∀ s, winner flags' env' entries' s = winner flags env entries s) →
          ∀ σ, (load host' flags' env' file').outcome = .ok σ ↔ (load host flags env file).outcome = .ok σ)) ∧
    (∀ (s : Setting) (p q : String → Bool), p s.name = true → q s.variableName = true →
      winner (flags.filter (p ·.1)) (env.filter (q ·.1))
        (entries.filter fun e => p (Text.replaceChar '-' '_' e.1)) s = winner flags env entries s) ∧
    (∀ c, (load host flags env file).outcome = .error (.config c) → Objection (winner flags env entries) c) ∧
    ((∀ s, ∀ v ∈ winner flags env entries s, Ordinary v) →
      (∀ f, (load host flags env file).outcome ≠ .error (.fault f)) ∧
      ((∃ c, (load host flags env file).outcome = .error (.config c)) ↔
        ∃ c, Objection (winner flags env entries) c)) := by
  refine ⟨load_eq_ok_iff h flags env, ?_, ?_, fun c => load_eq_config h, ?_⟩
  · intro host' file' entries' h' flags' env'
    constructor
    · intro s σ τ hσ hτ same
      have first := ((load_eq_ok_iff h flags env σ).mp hσ).1 s
      have second := ((load_eq_ok_iff h' flags' env' τ).mp hτ).1 s
      rw [same, first] at second
      exact (Except.ok.inj second).symm
    · intro same σ
      rw [load_eq_ok_iff h', load_eq_ok_iff h]
      simp only [same]
  · exact fun s p q => winner_filter flags env entries
  · intro ordinary
    refine ⟨load_ne_fault h ordinary, ?_⟩
    constructor
    · rintro ⟨c, hc⟩
      exact ⟨c, load_eq_config h hc⟩
    · rintro ⟨c, objection⟩
      cases outcome : (load host flags env file).outcome with
      | ok σ => exact absurd outcome (load_ne_ok h objection σ)
      | error e =>
        cases e with
        | config c => exact ⟨c, rfl⟩
        | fault f => exact absurd outcome (load_ne_fault h ordinary f)

end

/-! ### A file that is partly hidden -/

/-- The entries of a mapping whose values are scalars. -/
def scalarEntries? : Value → Option (List (Scalar × Scalar))
  | .dict entries => entries.mapM fun e => match e.2 with
    | .scalar s => some (e.1, s)
    | _ => none
  | _ => none

theorem eq_of_scalarEntries? {v : Value} {found : List (Scalar × Scalar)} (h : scalarEntries? v = some found) :
    v = .dict (found.map fun e => (e.1, .scalar e.2)) := by
  unfold scalarEntries? at h
  split at h
  · rename_i entries
    refine congrArg Value.dict ?_
    induction entries generalizing found with
    | nil =>
      cases h
      rfl
    | cons e entries ih =>
      rw [List.mapM_cons] at h
      obtain ⟨first, hf, h⟩ := Option.bind_eq_some_iff.mp h
      obtain ⟨rest, hr, h⟩ := Option.bind_eq_some_iff.mp h
      cases h
      obtain ⟨k, v⟩ := e
      rw [ih hr, List.map_cons]
      dsimp only at hf
      split at hf
      · cases hf
        rfl
      · cases hf
  · cases h

def mixedHost : Host where
  files := { here := [(["settings.yaml"], .file (Text.Utf8.encode
    "record-ttl: often\nrecord_ttl: 60\nresync-period: never\nweird: 1\n".toList))] }
  environment := []

def mixedEntries : List (String × Value) :=
  [("record-ttl", .str "often"), ("record_ttl", .int 60), ("resync-period", .str "never"), ("weird", .int 1)]

theorem mixed_file : FileHolds mixedHost "settings.yaml" mixedEntries := by
  have read : (readFile mixedHost (.ofString "settings.yaml")).toOption.bind scalarEntries? =
      some [(.str "record-ttl", .str "often"), (.str "record_ttl", .int 60),
        (.str "resync-period", .str "never"), (.str "weird", .int 1)] := by
    decide +kernel
  obtain ⟨v, hv, found⟩ := Option.bind_eq_some_iff.mp read
  have content := eq_of_scalarEntries? found
  subst content
  exact .present rfl (eq_ok_of_toOption hv) rfl

def mixedFlags : List (String × Value) := [("test", .bool true), ("record_ttl", .null)]

def mixedEnvironment : Environment := [("EXTERNAL_MDNS_RESYNC_PERIOD", " 30 ")]

def mixedSettings : Settings :=
  ((default.set .recordTtl (60 : Int)).set .resyncPeriod (30 : Int)).set .test true

instance (kind : Setting.Kind) : DecidableEq kind.Content :=
  match kind with
  | .switch => inferInstanceAs (DecidableEq Bool)
  | .number => inferInstanceAs (DecidableEq Int)
  | .text => inferInstanceAs (DecidableEq String)
  | .sources => inferInstanceAs (DecidableEq (List SourceType))

theorem ordinary_of_asText {v : Value} (h : v.asText.toOption.isSome = true) : Ordinary v := by
  unfold Value.asText at h
  split at h
  · exact ⟨rfl, nofun⟩
  · cases h
  · cases h

/-- What the file says twice counts once, and what it says badly is hidden by the environment. A flag that is
no number hides what the file says well. -/
theorem load_by_layers_mixed :
    (load mixedHost mixedFlags mixedEnvironment "settings.yaml").outcome = .ok mixedSettings ∧
      ∃ c, (load mixedHost [("record_ttl", .str "often")] mixedEnvironment "settings.yaml").outcome =
        .error (.config c) := by
  constructor
  · refine ((load_by_layers mixed_file mixedFlags mixedEnvironment).1 mixedSettings).mpr ⟨fun s => ?_, ?_⟩
    · have contents : ∀ s ∈ Setting.all, (contentOr s s.default
          (winner mixedFlags mixedEnvironment mixedEntries s)).toOption = some (mixedSettings.get s) := by
        decide +kernel
      exact eq_ok_of_toOption (contents s s.mem_all)
    · decide
  · have texts : ∀ s ∈ Setting.all, (winner [("record_ttl", .str "often")] mixedEnvironment mixedEntries s).all
        (·.asText.toOption.isSome) = true := by
      decide +kernel
    have ordinary : ∀ s, ∀ v ∈ winner [("record_ttl", .str "often")] mixedEnvironment mixedEntries s,
        Ordinary v := by
      intro s v hv
      have text := texts s s.mem_all
      rw [Option.mem_def.mp hv] at text
      exact ordinary_of_asText text
    obtain ⟨-, refused⟩ := (load_by_layers mixed_file _ mixedEnvironment).2.2.2.2 ordinary
    exact refused.mpr ⟨_, .number (s := .recordTtl) (v := .str "often") rfl rfl rfl⟩

end Settings

end ClusterMdns
