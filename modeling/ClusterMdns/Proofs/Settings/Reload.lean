import ClusterMdns.Proofs.Number.Decimal
import ClusterMdns.Proofs.Settings.Load
import ClusterMdns.Proofs.Text.Blank
import ClusterMdns.Proofs.Text.Fields
import ClusterMdns.Settings.Logging

/-! Settings that were loaded, given once more: as flags, or as texts in the environment. Contents that a setting
took from some value are tidy, and a tidy content is taken from its own value, and from its own text, as it is.
So the same settings are loaded again. -/

namespace ClusterMdns

open Document

namespace Setting

/-- The content as a text: a list with commas, all else as messages show it. -/
def written (kind : Kind) (content : kind.Content) : String :=
  match kind, content with
  | .sources, ss => Text.join "," (ss.map SourceType.name)
  | .switch, b => (Value.bool b).text
  | .number, n => (Value.int n).text
  | .text, s => s

/-- What a setting makes of any value: texts have no blanks at their ends, and no source is named twice. -/
def Tidy : (kind : Kind) → kind.Content → Prop
  | .switch, _ => True
  | .number, _ => True
  | .text, s => Text.trim s = s
  | .sources, ss => ss.Nodup

theorem tidy_default (s : Setting) : Tidy s.kind s.default := by
  cases s <;> simp only [Tidy, kind, default]
  all_goals decide

end Setting

namespace Settings

/-- All settings as variables of an environment. -/
def asEnvironment (σ : Settings) : Environment :=
  Setting.all.map fun s => (s.variableName, Setting.written s.kind (σ.get s))

/-! ### Contents that were taken are tidy -/

theorem nodup_collectSources {ε : Type} {found sources : List SourceType} (nodup : found.Nodup)
    {items : List String} (h : (collectSources found items : Logged ε _).outcome = .ok sources) :
    sources.Nodup := by
  induction items generalizing found with
  | nil =>
    cases h
    exact nodup
  | cons item items ih =>
    unfold collectSources at h
    split at h
    · rw [Logged.outcome_bind] at h
      exact ih nodup h
    · rename_i s _
      refine ih ?_ h
      split_ifs with known
      · exact nodup
      · rw [List.contains_iff_mem] at known
        rw [← List.concat_eq_append]
        exact nodup.concat known

theorem trim_of_textOf {v : Value} {s : String} (h : textOf v = .ok s) : Text.trim s = s := by
  unfold textOf at h
  split at h
  · cases h
    decide
  · obtain ⟨t, -, rfl⟩ := map_eq_ok.mp h
    exact Text.trim_trim t

theorem tidy_of_coerceAs {kind : Setting.Kind} {name : String} {default content : kind.Content} {v : Value}
    (h : (coerceAs kind name default v).outcome = .ok content) : Setting.Tidy kind content := by
  cases kind with
  | switch => trivial
  | number => trivial
  | text =>
    cases taken : textOf v with
    | error f =>
      rw [coerceAs, orFault, taken] at h
      cases h
    | ok s =>
      rw [coerceAs, orFault, taken] at h
      cases h
      exact trim_of_textOf taken
  | sources =>
    cases taken : (sourcesOf v).outcome with
    | error f =>
      rw [coerceAs, Logged.mapError, taken] at h
      cases h
    | ok sources =>
      rw [coerceAs, Logged.mapError, taken] at h
      cases h
      rw [sourcesOf, Logged.outcome_bind, bind_eq_ok] at taken
      obtain ⟨items, -, collected⟩ := taken
      exact nodup_collectSources List.nodup_nil collected

theorem tidy_of_apply {layer : Layer} {σ τ : Settings} (tidy : ∀ s : Setting, Setting.Tidy s.kind (σ.get s))
    (h : (apply σ layer).outcome = .ok τ) (s : Setting) : Setting.Tidy s.kind (τ.get s) := by
  induction layer generalizing σ with
  | nil =>
    cases h
    exact tidy s
  | cons e rest ih =>
    obtain ⟨name, v⟩ := e
    unfold apply at h
    split at h
    · exact ih tidy h
    · rename_i t _
      rw [Logged.outcome_bind, bind_eq_ok] at h
      obtain ⟨content, taken, h⟩ := h
      refine ih (fun u => ?_) h
      by_cases same : t = u
      · subst same
        rw [get_set_self]
        exact tidy_of_coerceAs taken
      · rw [get_set_of_ne σ same]
        exact tidy u

theorem watching_eq_ok_iff {σ τ : Settings} :
    watching σ = .ok τ ↔ σ = τ ∧ ¬ (σ.sources = [] ∧ σ.test = false) := by
  rw [← sourceless_iff, watching]
  split_ifs with h
  · simp [h]
  · simp [h]

/-- Settings that were loaded are tidy, and there is a source to watch unless they are for a test. -/
theorem tidy_of_load {host : Host} {flags : List (String × Value)} {env : Environment} {file : String}
    {σ : Settings} (h : (load host flags env file).outcome = .ok σ) :
    (∀ s : Setting, Setting.Tidy s.kind (σ.get s)) ∧ ¬ (σ.sources = [] ∧ σ.test = false) := by
  rw [load_steps, bind_eq_ok] at h
  obtain ⟨content, -, h⟩ := h
  obtain ⟨τ, applied, h⟩ := bind_eq_ok.mp h
  obtain ⟨rfl, some_source⟩ := watching_eq_ok_iff.mp h
  exact ⟨tidy_of_apply Setting.tidy_default applied, some_source⟩

/-! ### Tidy contents are taken as they are -/

theorem ofName?_sourceName (s : SourceType) : SourceType.ofName? s.name = some s := by
  cases s <;> rfl

/-- The names of sources come through the reading of a list unchanged. -/
theorem plain_sourceName (s : SourceType) : Text.trim s.name = s.name ∧ s.name ≠ "" ∧
    Text.lower s.name = s.name := by
  cases s <;> decide

theorem ne_comma_of_sourceName (s : SourceType) : ∀ c ∈ s.name.toList, (c == ',') = false := by
  cases s <;> simp [SourceType.name]

theorem items_of_sources (ss : List SourceType) :
    (((ss.map SourceType.name).map Text.trim).filter (· != "")).map Text.lower = ss.map SourceType.name := by
  have kept : ((ss.map SourceType.name).map Text.trim).filter (· != "") = ss.map SourceType.name := by
    have trimmed : ∀ s ∈ ss, (Text.trim ∘ SourceType.name) s = s.name := fun s _ => (plain_sourceName s).1
    rw [List.map_map, List.map_congr_left trimmed]
    refine List.filter_eq_self.mpr (List.forall_mem_map.mpr fun s _ => ?_)
    exact bne_iff_ne.mpr (plain_sourceName s).2.1
  rw [kept, List.map_map]
  exact List.map_congr_left fun s _ => (plain_sourceName s).2.2

theorem collectSources_names {ε : Type} {found ss : List SourceType} (nodup : (found ++ ss).Nodup) :
    (collectSources found (ss.map SourceType.name) : Logged ε _).outcome = .ok (found ++ ss) := by
  induction ss generalizing found with
  | nil =>
    rw [List.append_nil]
    rfl
  | cons s ss ih =>
    have fresh : found.contains s = false := by
      rw [Bool.eq_false_iff, ne_eq, List.contains_iff_mem]
      intro known
      exact (List.nodup_append.mp nodup).2.2 s known s List.mem_cons_self rfl
    rw [List.append_cons] at nodup ⊢
    simp only [List.map_cons, collectSources, ofName?_sourceName, fresh, Bool.false_eq_true, if_false]
    exact ih nodup

theorem sourcesOf_items {ss : List SourceType} (nodup : ss.Nodup) {v : Value}
    (h : itemsOf v = .ok (ss.map SourceType.name)) : (sourcesOf v).outcome = .ok ss := by
  have distinct : ([] ++ ss : List SourceType).Nodup := nodup
  rw [sourcesOf, Logged.outcome_bind, Logged.outcome_lift, h, ok_bind]
  exact collectSources_names distinct

theorem itemsOf_list (ss : List SourceType) :
    itemsOf (.list (ss.map fun s => .str s.name)) = .ok (ss.map SourceType.name) := by
  have texts : (ss.map fun s => Value.str s.name).mapM Value.text? = .ok (ss.map SourceType.name) := by
    rw [mapM_of_forall (g := Value.text) (List.forall_mem_map.mpr fun s _ => rfl), List.map_map]
    rfl
  have opened : (Value.list (ss.map fun s => .str s.name)).opened = .list (ss.map fun s => .str s.name) := rfl
  rw [itemsOf, opened]
  dsimp only
  rw [texts, ok_bind, items_of_sources]

/-- A list that is written with commas is cut at them again; an empty one leaves a single blank piece. -/
theorem itemsOf_joined (ss : List SourceType) :
    itemsOf (.str (Text.join "," (ss.map SourceType.name))) = .ok (ss.map SourceType.name) := by
  have pieces : itemsOf (.str (Text.join "," (ss.map SourceType.name))) =
      .ok ((((Text.splitOn ',' (Text.join "," (ss.map SourceType.name))).map Text.trim).filter
        (· != "")).map Text.lower) := rfl
  rw [pieces]
  by_cases none : ss = []
  · subst none
    decide
  · have cut : Text.splitOn ',' (Text.join "," (ss.map SourceType.name)) = ss.map SourceType.name := by
      have some_piece : (ss.map SourceType.name).map String.toList ≠ [] := by
        simpa using none
      have plain : ∀ cs ∈ (ss.map SourceType.name).map String.toList, ∀ c ∈ cs, (c == ',') = false := by
        simp only [List.map_map, List.forall_mem_map]
        intro s _
        exact ne_comma_of_sourceName s
      have comma : ",".toList = [','] := rfl
      rw [Text.splitOn, Text.toList_join, comma, Text.splitChars_joinChars some_piece plain rfl, List.map_map]
      simp
    rw [cut, items_of_sources]

/-- Truth values are written with words that are read as they are meant. -/
theorem boolOf_text (default b : Bool) : boolOf default (.str (Value.bool b).text) = .ok b := by
  have read : boolOf default (.str (Value.bool b).text) =
      .ok (trueWords.contains (Text.lower (Text.trim (Value.bool b).text))) := rfl
  rw [read]
  cases b <;> decide

theorem writeLimit_eq : writeLimit = 10 ^ Number.digitLimit := by
  unfold writeLimit
  -- the power is never to be computed
  generalize Number.digitLimit = digits
  rfl

theorem integerOf_text {n : Int} (h : (Value.int n).isWritable = true) :
    integerOf (.str (Value.int n).text) = .ok (some n) := by
  simp only [Value.isWritable, Scalar.isWritable, decide_eq_true_eq] at h
  rw [writeLimit_eq] at h
  exact congrArg Except.ok (Number.readInt?_intText h)

section
variable {kind : Setting.Kind} (name : String) (default : kind.Content) {content : kind.Content}

theorem coerceAs_valueOf (tidy : Setting.Tidy kind content) :
    (coerceAs kind name default (Setting.valueOf kind content)).outcome = .ok content := by
  cases kind with
  | switch => rfl
  | number => rfl
  | text =>
    change Except.ok (Text.trim content) = _
    rw [tidy]
  | sources =>
    have read : (sourcesOf (Setting.valueOf .sources content)).outcome = .ok content :=
      sourcesOf_items tidy (itemsOf_list content)
    rw [coerceAs, Logged.mapError, read]
    rfl

theorem coerceAs_written (tidy : Setting.Tidy kind content)
    (writable : (Setting.valueOf kind content).isWritable = true) :
    (coerceAs kind name default (.str (Setting.written kind content))).outcome = .ok content := by
  cases kind with
  | switch =>
    rw [coerceAs, Setting.written, boolOf_text]
    rfl
  | number => rw [coerceAs_number, Setting.written, integerOf_text writable]
  | text =>
    change Except.ok (Text.trim content) = _
    rw [tidy]
  | sources =>
    have read : (sourcesOf (.str (Setting.written .sources content))).outcome = .ok content :=
      sourcesOf_items tidy (itemsOf_joined content)
    rw [coerceAs, Logged.mapError, read]
    rfl

end

/-! ### The value that counts -/

theorem last?_all (f : Setting → Value) (s : Setting) :
    Table.last? s.name (Setting.all.map fun t => (t.name, f t)) = some (f s) := by
  have nodup : (Table.keys (Setting.all.map fun t => (t.name, f t))).Nodup := by
    have names : (Setting.all.map Setting.name).Nodup := by decide
    rw [Table.keys, List.map_map]
    exact names
  rw [Table.last?_of_nodup nodup]
  exact Table.find?_of_mem nodup (List.mem_map.mpr ⟨s, s.mem_all, rfl⟩)

/-- Every flag counts, for none is null. -/
theorem winner_entries (σ : Settings) (s : Setting) :
    winner σ.entries [] [] s = some (Setting.valueOf s.kind (σ.get s)) := by
  have given (kind : Setting.Kind) (content : kind.Content) : isNull (Setting.valueOf kind content) = false := by
    cases kind <;> rfl
  have all : σ.entries.filter (!isNull ·.2) = σ.entries := by
    refine List.filter_eq_self.mpr (List.forall_mem_map.mpr fun t _ => ?_)
    rw [given, Bool.not_false]
  rw [winner, all, entries, last?_all, Option.some_or]

/-- No two settings share a variable, so each is found by its own. -/
theorem find?_variableName (s : Setting) :
    (Setting.all.find? fun t => t.variableName == s.variableName) = some s := by
  have distinct : (Setting.all.map Setting.variableName).Nodup := by decide +kernel
  obtain ⟨t, found⟩ : ∃ t, (Setting.all.find? fun t => t.variableName == s.variableName) = some t :=
    Option.isSome_iff_exists.mp (List.find?_isSome.mpr ⟨s, s.mem_all, beq_self_eq_true _⟩)
  have same : t.variableName = s.variableName := by
    simpa using List.find?_some found
  rw [found, List.inj_on_of_nodup_map distinct t.mem_all s.mem_all same]

theorem winner_asEnvironment (σ : Settings) (s : Setting) :
    winner [] σ.asEnvironment [] s = some (.str (Setting.written s.kind (σ.get s))) := by
  have found : σ.asEnvironment.get? s.variableName = some (Setting.written s.kind (σ.get s)) := by
    have hit : σ.asEnvironment.find? (fun e => e.1 == s.variableName) =
        (Setting.all.find? fun t => t.variableName == s.variableName).map
          fun t => (t.variableName, Setting.written t.kind (σ.get t)) := by
      rw [asEnvironment, List.find?_map]
      rfl
    rw [Environment.get?, hit, find?_variableName]
    rfl
  rw [winner, found]
  rfl

/-- Settings that were loaded are loaded again when they are given as flags, and also when they are given as texts
in the environment, if every number among them can be written. -/
theorem reload_unchanged {host : Host} {flags : List (String × Value)} {env : Environment} {file : String}
    {σ : Settings} (loaded : (load host flags env file).outcome = .ok σ) {other : Host}
    (no_file : findFile other "" = .ok none) :
    (load other σ.entries [] "").outcome = .ok σ ∧
      (σ.isWritable = true → (load other [] σ.asEnvironment "").outcome = .ok σ) := by
  obtain ⟨tidy, some_source⟩ := tidy_of_load loaded
  have absent : FileHolds other "" [] := .absent no_file
  constructor
  · refine (load_eq_ok_iff absent _ _ _).mpr ⟨fun s => ?_, some_source⟩
    rw [winner_entries]
    exact coerceAs_valueOf s.name s.default (tidy s)
  · intro writable
    have each := List.all_eq_true.mp writable
    refine (load_eq_ok_iff absent _ _ _).mpr ⟨fun s => ?_, some_source⟩
    rw [winner_asEnvironment]
    exact coerceAs_written s.name s.default (tidy s) (each _ (List.mem_map.mpr ⟨s, s.mem_all, rfl⟩))

/-! ### Settings of a household -/

/-- A machine without a settings file. -/
def bareHost : Host := { files := {}, environment := [] }

def householdFlags : List (String × Value) :=
  [("source", .list [.str " Ingress ", .str "service", .str "ingress"]), ("record_ttl", .str " 6_0 "),
    ("namespace", .str " home "), ("expose_ipv6", .str "Yes")]

def householdEnvironment : Environment := [("EXTERNAL_MDNS_RESYNC_PERIOD", "-1")]

def household : Settings :=
  ((((default.set .source [.ingress, .service]).set .recordTtl (60 : Int)).set .namespaceName "home").set
    .exposeV6 true).set .resyncPeriod (-1 : Int)

theorem bareHost_no_file : findFile bareHost "" = .ok none := by
  rfl

theorem household_loaded :
    (load bareHost householdFlags householdEnvironment "").outcome = .ok household := by
  refine (load_eq_ok_iff (.absent bareHost_no_file) _ _ _).mpr ⟨fun s => ?_, by decide⟩
  have contents : ∀ s ∈ Setting.all, (contentOr s s.default
      (winner householdFlags householdEnvironment [] s)).toOption = some (household.get s) := by
    decide +kernel
  exact eq_ok_of_toOption (contents s s.mem_all)

/-- What was given with blanks, in capitals or twice is loaded in its tidy form, which loads as it is. -/
theorem reload_unchanged_household :
    (load bareHost householdFlags householdEnvironment "").outcome = .ok household ∧
      (load bareHost household.entries [] "").outcome = .ok household ∧
      (load bareHost [] household.asEnvironment "").outcome = .ok household := by
  obtain ⟨as_flags, as_texts⟩ := reload_unchanged household_loaded bareHost_no_file
  exact ⟨household_loaded, as_flags, as_texts (by decide +kernel)⟩

end Settings

end ClusterMdns
