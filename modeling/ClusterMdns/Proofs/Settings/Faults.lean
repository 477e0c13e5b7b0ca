import ClusterMdns.Launch
import ClusterMdns.Proofs.Settings.Load

/-! How loading the settings fails in a way that no rule of the configuration foresees. Each such fault comes of the
path of the file, of its bytes, of its text or of a key in it, or else of the first value in the table of all layers
that its setting does not take. The program ends with a report of every error of the configuration, and of no
fault. -/

namespace ClusterMdns

open Document

variable {α : Type}

theorem mapError_eq_fault {x : Except Fault α} {f : Fault} :
    x.mapError SettingsError.fault = .error (.fault f) ↔ x = .error f := by
  cases x <;> simp [Except.mapError]

namespace Document.Value

/-! ### Values that cannot be written -/

mutual

/-- Filling in a collection for its label puts something for what can be written, so it hides no number. -/
theorem isWritable_of_fill {label : Nat} {w : Value} :
    ∀ v : Value, (fill label w v).isWritable = true → v.isWritable = true
  | scalar _, h => h
  | list items, h => areWritable_of_fillItems items h
  | dict entries, h => entriesAreWritable_of_fillEntries entries h
  | pair k v, h => by
    rw [fill, isWritable, Bool.and_eq_true] at h
    rw [isWritable, Bool.and_eq_true]
    exact ⟨isWritable_of_fill k h.1, isWritable_of_fill v h.2⟩
  | set _, h => h
  | tied l v, h => by
    unfold fill at h
    split at h
    · exact h
    · exact isWritable_of_fill v h
  | back _, _ => rfl

theorem areWritable_of_fillItems {label : Nat} {w : Value} :
    ∀ items : List Value, areWritable (fillItems label w items) = true → areWritable items = true
  | [], h => h
  | v :: rest, h => by
    rw [fillItems, areWritable, Bool.and_eq_true] at h
    rw [areWritable, Bool.and_eq_true]
    exact ⟨isWritable_of_fill v h.1, areWritable_of_fillItems rest h.2⟩

theorem entriesAreWritable_of_fillEntries {label : Nat} {w : Value} :
    ∀ entries : List (Scalar × Value), entriesAreWritable (fillEntries label w entries) = true →
      entriesAreWritable entries = true
  | [], h => h
  | (k, v) :: rest, h => by
    rw [fillEntries, entriesAreWritable, Bool.and_eq_true, Bool.and_eq_true] at h
    rw [entriesAreWritable, Bool.and_eq_true, Bool.and_eq_true]
    exact ⟨⟨h.1.1, isWritable_of_fill v h.1.2⟩, entriesAreWritable_of_fillEntries rest h.2⟩

end

theorem isWritable_of_opened {v : Value} (h : v.opened.isWritable = true) : v.isWritable = true := by
  unfold opened at h
  split at h
  · rename_i inner
    exact isWritable_of_fill inner h
  · exact h

theorem isWritable_list {items : List Value} :
    (list items).isWritable = true ↔ ∀ v ∈ items, v.isWritable = true := by
  refine ⟨isWritable_of_mem, fun h => ?_⟩
  rw [isWritable]
  induction items with
  | nil => rfl
  | cons v items ih =>
    obtain ⟨hv, hitems⟩ := List.forall_mem_cons.mp h
    rw [areWritable, hv, ih hitems, Bool.and_self]

theorem text?_eq_error {v : Value} {f : Fault} :
    v.text? = .error f ↔ v.isWritable = false ∧ f = .badValue := by
  unfold text?
  split_ifs with writable
  · simp [writable]
  · simp [writable, eq_comm]

end Document.Value

namespace Settings

/-! ### Values that a setting neither takes nor refuses -/

/-- A value for which a kind of setting has neither a content nor an error of the configuration. -/
inductive Unfit : Setting.Kind → Value → Fault → Prop
  /-- An infinite number, of which there is no whole part. -/
  | infinite (negative : Bool) : Unfit .number (.scalar (.float (.infinite negative))) .overflow
  /-- A value that stands for no whole number, and that the error would have to show. -/
  | refusal {v : Value} (unreadable : integerOf v = .ok none) (unwritable : v.isWritable = false) :
      Unfit .number v .badValue
  /-- A value that would have to be read as a text. -/
  | text {kind : Setting.Kind} {v : Value} (textual : kind ≠ .number) (unwritable : v.isWritable = false) :
      Unfit kind v .badValue

section
variable {v : Value} {f : Fault}

theorem boolOf_eq_error {default : Bool} :
    boolOf default v = .error f ↔ v.isWritable = false ∧ f = .badValue := by
  unfold boolOf
  split
  · simp [Value.isWritable, Scalar.isWritable]
  · simp [Value.isWritable, Scalar.isWritable]
  · rw [bind_pure_eq_error, Value.text?_eq_error]

theorem textOf_eq_error : textOf v = .error f ↔ v.isWritable = false ∧ f = .badValue := by
  unfold textOf
  split
  · simp [Value.isWritable, Scalar.isWritable]
  · rw [← Value.text?_eq_error]
    cases v.text? <;> simp [Except.map]

theorem itemsOf_eq_error : itemsOf v = .error f ↔ v.isWritable = false ∧ f = .badValue := by
  have same : v.opened.isWritable = v.isWritable :=
    Bool.eq_iff_iff.mpr ⟨Value.isWritable_of_opened, Value.isWritable_opened⟩
  unfold itemsOf
  split
  · rename_i vs opened
    rw [bind_pure_eq_error, mapM_eq_error fun w e h => (Value.text?_eq_error.mp h).2, ← same, opened,
      Bool.eq_false_iff, ne_eq, Value.isWritable_list, and_comm]
    simp [Value.text?_eq_error]
  · exact bind_pure_eq_error.trans Value.text?_eq_error

theorem sourcesOf_eq_error : (sourcesOf v).outcome = .error f ↔ v.isWritable = false ∧ f = .badValue := by
  rw [sourcesOf, Logged.outcome_bind, bind_eq_error, Logged.outcome_lift, itemsOf_eq_error]
  refine or_iff_left ?_
  rintro ⟨items, -, failed⟩
  obtain ⟨sources, collected⟩ := collectSources_outcome Fault [] items
  rw [collected] at failed
  cases failed

theorem unfit_of_ne_number {kind : Setting.Kind} (textual : kind ≠ .number) :
    Unfit kind v f ↔ v.isWritable = false ∧ f = .badValue := by
  constructor
  · intro h
    cases h with
    | infinite => exact absurd rfl textual
    | refusal => exact absurd rfl textual
    | text _ unwritable => exact ⟨unwritable, rfl⟩
  · rintro ⟨unwritable, rfl⟩
    exact .text textual unwritable

theorem integerOf_eq_error :
    integerOf v = .error f ↔ f = .overflow ∧ ∃ negative, v = .scalar (.float (.infinite negative)) := by
  constructor
  · intro h
    by_cases finite : ∀ negative, v ≠ .scalar (.float (.infinite negative))
    · obtain ⟨n, hn⟩ := integerOf_of_finite finite
      rw [hn] at h
      cases h
    · push Not at finite
      obtain ⟨negative, rfl⟩ := finite
      cases h
      exact ⟨rfl, negative, rfl⟩
  · rintro ⟨rfl, negative, rfl⟩
    rfl

theorem unfit_number_iff : Unfit .number v f ↔
    integerOf v = .error f ∨ integerOf v = .ok none ∧ v.isWritable = false ∧ f = .badValue := by
  rw [integerOf_eq_error]
  constructor
  · intro h
    cases h with
    | infinite negative => exact .inl ⟨rfl, negative, rfl⟩
    | refusal unreadable unwritable => exact .inr ⟨unreadable, unwritable, rfl⟩
    | text textual => exact absurd rfl textual
  · rintro (⟨rfl, negative, rfl⟩ | ⟨unreadable, unwritable, rfl⟩)
    · exact .infinite negative
    · exact .refusal unreadable unwritable

/-- A setting fails to treat a value exactly if the value is unfit for its kind. -/
theorem coerceAs_eq_fault {kind : Setting.Kind} {name : String} {default : kind.Content} :
    (coerceAs kind name default v).outcome = .error (.fault f) ↔ Unfit kind v f := by
  cases kind with
  | switch => exact mapError_eq_fault.trans (boolOf_eq_error.trans (unfit_of_ne_number (by decide)).symm)
  | text => exact mapError_eq_fault.trans (textOf_eq_error.trans (unfit_of_ne_number (by decide)).symm)
  | sources => exact mapError_eq_fault.trans (sourcesOf_eq_error.trans (unfit_of_ne_number (by decide)).symm)
  | number =>
    rw [coerceAs_number, unfit_number_iff]
    cases integerOf v with
    | error f' => simp
    | ok found =>
      cases found with
      | some n => simp
      | none => cases v.isWritable <;> simp [eq_comm]

end

/-! ### Where loading fails -/

/-- The first value of a layer that its setting does not take is unfit for it. Nothing is asked of values under the
names of no setting. -/
inductive FirstUnfit : Layer → Fault → Prop
  | here {name : String} {v : Value} {rest : Layer} {s : Setting} {f : Fault}
      (named : Setting.ofName? name = some s) (unfit : Unfit s.kind v f) : FirstUnfit ((name, v) :: rest) f
  | later {name : String} {v : Value} {rest : Layer} {f : Fault}
      (taken : ∀ s, Setting.ofName? name = some s → ∃ content, (coerce s v).outcome = .ok content)
      (h : FirstUnfit rest f) : FirstUnfit ((name, v) :: rest) f

theorem apply_eq_fault {σ : Settings} {layer : Layer} {f : Fault} :
    (apply σ layer).outcome = .error (.fault f) ↔ FirstUnfit layer f := by
  induction layer generalizing σ with
  | nil => exact ⟨nofun, nofun⟩
  | cons entry rest ih =>
    obtain ⟨name, v⟩ := entry
    unfold apply
    cases named : Setting.ofName? name with
    | none =>
      rw [ih]
      constructor
      · exact .later fun s hs => by rw [named] at hs; cases hs
      · intro h
        cases h with
        | here named' => rw [named] at named'; cases named'
        | later _ h => exact h
    | some s =>
      have failed : (coerce s v).outcome = .error (.fault f) ↔ Unfit s.kind v f := coerceAs_eq_fault
      simp only [Logged.outcome_bind, bind_eq_error, ih]
      rw [failed]
      constructor
      · rintro (unfit | ⟨content, taken, h⟩)
        · exact .here named unfit
        · refine .later (fun t ht => ?_) h
          rw [named] at ht
          cases ht
          exact ⟨content, taken⟩
      · intro h
        cases h with
        | here named' unfit =>
          rw [named] at named'
          cases named'
          exact .inl unfit
        | later taken h =>
          obtain ⟨content, taken⟩ := taken s named
          exact .inr ⟨content, taken, h⟩

/-- How the settings file under a path fails to be read, other than by an error of the configuration. -/
inductive Illegible (host : Host) (path : Path) : Fault → Prop
  | path (h : host.files.readBytes path.text = .error .badPath) : Illegible host path .badValue
  /-- What is read of it is no text, or holds a value that is none of its type. -/
  | document {content : List UInt8} {f : Fault} (h : host.files.readBytes path.text = .ok content)
      (fails : Yaml.read (.ofBytes content) = .error (.fault f)) : Illegible host path f
  | key {v : Value} {entries : List (Scalar × Value)} (h : readFile host path = .ok v)
      (mapping : (v.orElse (.dict [])).opened = .dict entries)
      (unwritable : ∃ e ∈ entries, e.1.isWritable = false) : Illegible host path .badValue

theorem readFile_eq_fault {host : Host} {path : Path} {f : Fault} :
    readFile host path = .error (.fault f) ↔
      host.files.readBytes path.text = .error .badPath ∧ f = .badValue ∨
      ∃ content, host.files.readBytes path.text = .ok content ∧
        Yaml.read (.ofBytes content) = .error (.fault f) := by
  unfold readFile
  cases host.files.readBytes path.text with
  | ok content =>
    simp only [Except.ok.injEq, exists_eq_left', reduceCtorEq, false_and, false_or]
    cases Yaml.read (.ofBytes content) with
    | ok v => simp
    | error e => cases e <;> simp
  | error e => cases e <;> simp [eq_comm]

theorem keyName_eq_error {key : Scalar} {f : Fault} :
    keyName key = .error f ↔ key.isWritable = false ∧ f = .badValue := by
  unfold keyName Scalar.text?
  split_ifs with writable
  · simp [writable, Except.map]
  · simp [writable, Except.map, eq_comm]

/-- The entries of a mapping make a layer, unless a key cannot be written. -/
theorem keys_eq_fault {entries : List (Scalar × Value)} {line : String} {f : Fault} :
    (do
      Logged.info line
      orFault do pure (Table.ofList (← entries.mapM fun (k, v) => do pure (← keyName k, v))) :
        Logged SettingsError Layer).outcome = .error (.fault f) ↔
      f = .badValue ∧ ∃ e ∈ entries, e.1.isWritable = false := by
  have each (e : Scalar × Value) (f : Fault) :
      (do pure (← keyName e.1, e.2)) = Except.error f ↔ e.1.isWritable = false ∧ f = .badValue :=
    bind_pure_eq_error.trans keyName_eq_error
  refine mapError_eq_fault.trans (bind_pure_eq_error.trans ?_)
  rw [mapM_eq_error fun e f h => ((each e f).mp h).2]
  simp only [each, and_true]

theorem fileLayer_eq_fault {host : Host} {path : Path} {f : Fault} :
    (fileLayer host path).outcome = .error (.fault f) ↔ Illegible host path f := by
  rw [fileLayer, Logged.outcome_bind, bind_eq_error, Logged.outcome_lift, readFile_eq_fault]
  constructor
  · rintro ((⟨h, rfl⟩ | ⟨content, h, fails⟩) | ⟨v, read, h⟩)
    · exact .path h
    · exact .document h fails
    · split at h
      · rename_i entries mapping
        obtain ⟨rfl, unwritable⟩ := keys_eq_fault.mp h
        exact .key read mapping unwritable
      · cases h
  · intro h
    cases h with
    | path h => exact .inl (.inl ⟨h, rfl⟩)
    | document h fails => exact .inl (.inr ⟨_, h, fails⟩)
    | key read mapping unwritable =>
      refine .inr ⟨_, read, ?_⟩
      rw [mapping]
      exact keys_eq_fault.mpr ⟨rfl, unwritable⟩

/-- What makes loading fail with a fault. -/
inductive Escape (host : Host) (flags : List (String × Value)) (env : Environment) (file : String) :
    Fault → Prop
  /-- It cannot be asked whether there is a file. -/
  | search {f : Fault} (h : findFile host file = .error f) : Escape host flags env file f
  | reading {path : Path} {f : Fault} (found : findFile host file = .ok (some path))
      (h : Illegible host path f) : Escape host flags env file f
  | value {content : Layer} {f : Fault} (read : (fileContent host file).outcome = .ok content)
      (h : FirstUnfit (above content flags env) f) : Escape host flags env file f

theorem fileContent_eq_fault {host : Host} {file : String} {f : Fault} :
    (fileContent host file).outcome = .error (.fault f) ↔
      findFile host file = .error f ∨ ∃ path, findFile host file = .ok (some path) ∧ Illegible host path f := by
  have name (found : Except Fault (Option Path)) : (orFault found).outcome = found.mapError .fault := rfl
  rw [fileContent, Logged.outcome_bind, bind_eq_error, name, mapError_eq_fault]
  refine or_congr_right ?_
  cases findFile host file with
  | error f' => simp [Except.mapError]
  | ok found =>
    cases found with
    | none => simp [Except.mapError]
    | some path => simp [Except.mapError, fileLayer_eq_fault]

theorem watching_ne_fault (σ : Settings) (f : Fault) : watching σ ≠ .error (.fault f) := by
  unfold watching
  split <;> exact nofun

theorem load_eq_fault {host : Host} {flags : List (String × Value)} {env : Environment} {file : String}
    {f : Fault} : (load host flags env file).outcome = .error (.fault f) ↔ Escape host flags env file f := by
  rw [load_steps, bind_eq_error, fileContent_eq_fault]
  simp only [bind_eq_error, apply_eq_fault, watching_ne_fault, and_false, exists_false, or_false]
  constructor
  · rintro ((h | ⟨path, found, h⟩) | ⟨content, read, h⟩)
    · exact .search h
    · exact .reading found h
    · exact .value read h
  · intro h
    cases h with
    | search h => exact .inl (.inl h)
    | reading found h => exact .inl (.inr ⟨_, found, h⟩)
    | value read h => exact .inr ⟨_, read, h⟩

end Settings

/-! ### What the program makes of it -/

namespace Launch

/-- The settings that a command line asks for. -/
def loaded (l : Launch) (p : CommandLine.Parsed) : Logged SettingsError Settings :=
  Settings.load l.host p.flags l.host.environment (p.config.getD "")

theorem configure_of_error {host : Host} {p : CommandLine.Parsed} {e : SettingsError}
    (h : (Settings.load host p.flags host.environment (p.config.getD "")).outcome = .error e) :
    configure host p = ⟨(Settings.load host p.flags host.environment (p.config.getD "")).lines, .error e⟩ := by
  change Logged.bind _ _ = _
  rw [Logged.bind, h]

variable {l : Launch} {p : CommandLine.Parsed}

theorem start_of_config (parsed : CommandLine.parse l.arguments = .ok p) {c : ConfigError}
    (h : (l.loaded p).outcome = .error (.config c)) :
    l.start = .over none ⟨shownAt l.firstLevel (l.loaded p).lines ++
      shownAt l.firstLevel [⟨.error, "Configuration error: " ++ c.message⟩], {}, .exit 1⟩ := by
  rw [start, parsed]
  dsimp only
  rw [configure_of_error h]
  rfl

theorem start_of_fault (parsed : CommandLine.parse l.arguments = .ok p) {f : Fault}
    (h : (l.loaded p).outcome = .error (.fault f)) :
    l.start = .over none ⟨shownAt l.firstLevel (l.loaded p).lines, {}, .fault f⟩ := by
  rw [start, parsed]
  dsimp only
  rw [configure_of_error h]
  rfl

end Launch

namespace Settings

/-- Loading fails with a fault in the ways of `Escape` and in no other. The program reports what is wrong with the
configuration, as far as the level of its log lets it, and ends with 1, unless there is such a fault: of that it
says nothing. -/
theorem load_eq_fault_iff (host : Host) (flags : List (String × Value)) (env : Environment) (file : String) :
    (∀ f, (load host flags env file).outcome = .error (.fault f) ↔ Escape host flags env file f) ∧
    ∀ (l : Launch) (p : CommandLine.Parsed), CommandLine.parse l.arguments = .ok p →
      (∀ c, (l.loaded p).outcome = .error (.config c) →
        l.start = .over none ⟨shownAt l.firstLevel (l.loaded p).lines ++
          shownAt l.firstLevel [⟨.error, "Configuration error: " ++ c.message⟩], {}, .exit 1⟩) ∧
      ∀ f, Escape l.host p.flags l.host.environment (p.config.getD "") f →
        l.start = .over none ⟨shownAt l.firstLevel (l.loaded p).lines, {}, .fault f⟩ := by
  refine ⟨fun f => load_eq_fault, fun l p parsed => ⟨fun c => ?_, fun f escape => ?_⟩⟩
  · exact Launch.start_of_config parsed
  · exact Launch.start_of_fault parsed (load_eq_fault.mpr escape)

/-! ### A settings file with an infinite number -/

/-- A machine with a settings file. -/
def hostHolding (content : List UInt8) : Host where
  files := { here := [(["settings.yaml"], .file content)] }
  environment := []

def infiniteTtl : Host := hostHolding (Text.Utf8.encode "record_ttl: .inf\n".toList)

theorem infinite_file : FileHolds infiniteTtl "settings.yaml"
    [("record_ttl", .scalar (.float (.infinite false)))] := by
  have read : (readFile infiniteTtl (.ofString "settings.yaml")).toOption.bind scalarEntries? =
      some [(.str "record_ttl", .float (.infinite false))] := by
    decide +kernel
  obtain ⟨v, hv, found⟩ := Option.bind_eq_some_iff.mp read
  have content := eq_of_scalarEntries? found
  subst content
  exact .present rfl (eq_ok_of_toOption hv) rfl

def infiniteLaunch : Launch := { host := infiniteTtl, arguments := ["--config=settings.yaml"] }

/-- No time to live is infinite, but the program ends without a word about it. -/
theorem load_eq_fault_iff_infinite :
    (load infiniteTtl [] [] "settings.yaml").outcome = .error (.fault .overflow) ∧
    ∃ p, CommandLine.parse infiniteLaunch.arguments = .ok p ∧
      infiniteLaunch.start =
        .over none ⟨[⟨.info, "Using config file: settings.yaml"⟩], {}, .fault .overflow⟩ := by
  have unfit : Unfit Setting.recordTtl.kind (.scalar (.float (.infinite false))) .overflow := .infinite false
  have first : FirstUnfit [("record_ttl", .scalar (.float (.infinite false)))] .overflow := .here rfl unfit
  have key : Text.replaceChar '-' '_' "record_ttl" = "record_ttl" := by
    decide +kernel
  have layer : above (Table.ofList (dashless [("record_ttl", .scalar (.float (.infinite false)))])) [] [] =
      [("record_ttl", .scalar (.float (.infinite false)))] := by
    rw [dashless, List.map_singleton, key]
    rfl
  have escape : Escape infiniteTtl [] [] "settings.yaml" .overflow := by
    refine .value infinite_file.content ?_
    rw [layer]
    exact first
  have parsed : (CommandLine.parse infiniteLaunch.arguments).toOption.map
      (fun p => (p.flags.isEmpty, p.config)) = some (true, some "settings.yaml") := by
    decide +kernel
  obtain ⟨p, hp, fields⟩ := Option.map_eq_some_iff.mp parsed
  obtain ⟨no_flag, config⟩ := Prod.mk.inj fields
  rw [List.isEmpty_iff] at no_flag
  have lines : shownAt infiniteLaunch.firstLevel (infiniteLaunch.loaded p).lines =
      [⟨.info, "Using config file: settings.yaml"⟩] := by
    rw [Launch.loaded, no_flag, config]
    decide +kernel
  obtain ⟨faults, program⟩ := load_eq_fault_iff infiniteTtl [] [] "settings.yaml"
  refine ⟨(faults .overflow).mpr escape, p, eq_ok_of_toOption hp, ?_⟩
  rw [(program infiniteLaunch p (eq_ok_of_toOption hp)).2 .overflow (by rw [no_flag, config]; exact escape),
    lines]

def fault? {α : Type} : Except SettingsError α → Option Fault
  | .error (.fault f) => some f
  | _ => none

theorem eq_fault_of_fault? {α : Type} {x : Except SettingsError α} {f : Fault} (h : fault? x = some f) :
    x = .error (.fault f) := by
  unfold fault? at h
  split at h
  · cases h
    rfl
  · cases h

/-- Faults of three kinds come of what a settings file holds: an infinite number, a byte that is no text, and a day
that is in no calendar. -/
theorem faults_of_file :
    (load infiniteTtl [] [] "settings.yaml").outcome = .error (.fault .overflow) ∧
    (load (hostHolding [0xFF]) [] [] "settings.yaml").outcome = .error (.fault .undecodable) ∧
    (load (hostHolding (Text.Utf8.encode "debug: 2024-02-30\n".toList)) [] [] "settings.yaml").outcome =
      .error (.fault .badValue) :=
  ⟨eq_fault_of_fault? (by decide +kernel), eq_fault_of_fault? (by decide +kernel),
    eq_fault_of_fault? (by decide +kernel)⟩

end Settings

end ClusterMdns
