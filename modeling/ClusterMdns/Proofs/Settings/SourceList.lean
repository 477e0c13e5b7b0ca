import ClusterMdns.CommandLine
import ClusterMdns.Proofs.Settings.Reload

/-! Lists of sources. However their items are spread over arguments of the command line, or over a list of a
settings file, the sources are those that the items name, each where it is named first; every other item that is
not blank gets one warning. -/

namespace ClusterMdns

open Document

/-! ### Arguments joined with commas -/

theorem Text.splitOn_append_comma (s t : String) :
    splitOn ',' (s ++ "," ++ t) = splitOn ',' s ++ splitOn ',' t := by
  have chars : (s ++ "," ++ t).toList = s.toList ++ ',' :: t.toList := by simp
  rw [splitOn, chars, splitChars_append rfl, List.map_append]
  rfl

/-- The pieces of arguments that are joined with commas are those of each argument, in order. -/
theorem Text.splitOn_join {ss : List String} (some_text : ss ≠ []) :
    splitOn ',' (join "," ss) = ss.flatMap (splitOn ',') := by
  induction ss with
  | nil => exact absurd rfl some_text
  | cons s ss ih =>
    cases ss with
    | nil => exact (List.flatMap_singleton _ _).symm
    | cons t ss =>
      have step : join "," (s :: t :: ss) = s ++ "," ++ join "," (t :: ss) := rfl
      rw [step, splitOn_append_comma, ih (List.cons_ne_nil _ _), List.flatMap_cons (x := s)]

namespace CommandLine

def sourceOption : CommandOption := ⟨["--source"], .texts⟩

/-- An argument of the option stands behind an equals sign, or as a word of its own. Two dashes alone are no
argument. -/
inductive SpellsSource (s : String) : List String → Prop
  | joined (some_value : s ≠ "--") : SpellsSource s ["--source=" ++ s]
  | apart (is_value : classify s = .ok (.value s)) : SpellsSource s ["--source", s]

/-- What the command line says if nothing but sources is given. -/
def ofSources (given : String) : Parsed where
  flags := [("source", .str given)]

theorem take_source (s : String) (p : Parsed) : take sourceOption (some s) p = .ok (collect "source" s p) := by
  have setting : sourceOption.setting = "source" := by decide +kernel
  rw [← setting]
  rfl

/-- No name of an option holds an equals sign, so the first one ends the name. -/
theorem classify_joined (s : String) : classify ("--source=" ++ s) = .ok (.option sourceOption (some s)) := by
  have chars : ("--source=" ++ s).toList = "--source".toList ++ '=' :: s.toList := by simp
  have unnamed : named.lookup ("--source=" ++ s) = none := by
    have plain : ∀ e ∈ named, '=' ∉ e.1.toList := by decide +kernel
    refine List.lookup_eq_none_iff.mpr fun e he => bne_iff_ne.mpr ?_
    intro same
    refine plain e he ?_
    rw [← same, chars]
    exact List.mem_append_right _ List.mem_cons_self
  have cut : splitEquals? ("--source=" ++ s) = some ("--source", s) := by
    simp [splitEquals?]
  have found : named.lookup "--source" = some sourceOption := by decide +kernel
  simp only [classify, chars, unnamed, cut, found]
  rfl

theorem classify_source : classify "--source" = .ok (.option sourceOption none) := by
  decide +kernel

/-- Wherever an argument stands, and however it is spelled, it is added to the list. -/
theorem consume_spelled {s : String} {words : List String} (h : SpellsSource s words) :
    ∃ front, (∀ rest, classifyAll (words ++ rest) = (classifyAll rest).map (front ++ ·)) ∧
      ∀ p later, consume p (front ++ later) = consume (collect "source" s p) later := by
  cases h with
  | joined some_value =>
    refine ⟨[.option sourceOption (some s)], fun rest => ?_, fun p later => ?_⟩
    · have no_mark : ("--source=" ++ s == "--") = false := by
        refine beq_eq_false_iff_ne.mpr fun same => ?_
        simpa using congrArg String.toList same
      rw [List.singleton_append, classifyAll, no_mark, classify_joined]
      rfl
    · have value : (s == "--") = false := beq_eq_false_iff_ne.mpr some_value
      rw [List.singleton_append, consume, takeJoined, value]
      simp only [Bool.false_eq_true, if_false, take_source, ok_bind]
  | apart is_value =>
    refine ⟨[.option sourceOption none, .value s], fun rest => ?_, fun p later => ?_⟩
    · have no_mark : (s == "--") = false := by
        refine beq_eq_false_iff_ne.mpr ?_
        rintro rfl
        have ambiguous : (classify "--").toOption = none := by decide +kernel
        rw [is_value] at ambiguous
        cases ambiguous
      have option : ("--source" == "--") = false := by decide
      rw [List.cons_append, List.singleton_append, classifyAll, option, classify_source, classifyAll, no_mark,
        is_value]
      simp only [Bool.false_eq_true, if_false, ok_bind]
      cases classifyAll rest <;> rfl
    · have takes : takesValue sourceOption = true := rfl
      rw [List.cons_append, List.singleton_append, consume, takes]
      simp only [if_true, take_source, ok_bind]

theorem collectAll_eq (s : String) (ss : List String) :
    ss.foldl (fun p s => collect "source" s p) (ofSources s) = ofSources (Text.join "," (s :: ss)) := by
  induction ss generalizing s with
  | nil => rfl
  | cons t ss ih =>
    have added : collect "source" t (ofSources s) = ofSources (s ++ "," ++ t) := rfl
    have joined : Text.join "," ((s ++ "," ++ t) :: ss) = Text.join "," (s :: t :: ss) := by
      cases ss <;> simp [Text.join, String.append_assoc]
    rw [List.foldl_cons, added, ih, joined]

/-- The flag of the sources holds all arguments of the option, with commas between them. -/
theorem parse_sources {args : List String} {spellings : List (List String)}
    (spelled : List.Forall₂ SpellsSource args spellings) (some_arg : args ≠ []) :
    parse spellings.flatten = .ok (ofSources (Text.join "," args)) := by
  have read : ∀ {args : List String} {spellings : List (List String)}, List.Forall₂ SpellsSource args spellings →
      ∃ words, classifyAll spellings.flatten = .ok words ∧
        ∀ p, consume p words = .ok (args.foldl (fun p s => collect "source" s p) p) := by
    intro args spellings spelled
    induction spelled with
    | nil => exact ⟨[], rfl, fun _ => rfl⟩
    | cons first _ ih =>
      obtain ⟨words, classified, consumed⟩ := ih
      obtain ⟨front, here, taken⟩ := consume_spelled first
      refine ⟨front ++ words, ?_, fun p => ?_⟩
      · rw [List.flatten_cons, here, classified]
        rfl
      · rw [taken, consumed, List.foldl_cons]
  obtain ⟨words, classified, consumed⟩ := read spelled
  obtain ⟨s, ss, rfl⟩ := List.exists_cons_of_ne_nil some_arg
  have first : collect "source" s {} = ofSources s := rfl
  rw [parse, classified, ok_bind, consumed, List.foldl_cons, first, collectAll_eq]
  rfl

end CommandLine

namespace Settings

/-! ### Items and sources -/

/-- Items without blanks around them, in lower case. Blank ones are left out. -/
def cleaned (items : List String) : List String :=
  ((items.map Text.trim).filter (· != "")).map Text.lower

/-- Items that name no source. -/
def unknown (items : List String) : List String :=
  items.filter fun item => (SourceType.ofName? item).isNone

/-- The sources that items name, each where it is named first. -/
def firstNamed (items : List String) : List SourceType :=
  (items.filterMap SourceType.ofName?).eraseDups

/-- The sources of a list, and a warning for each item that names none. -/
def collected {ε : Type} (items : List String) : Logged ε (List SourceType) :=
  ⟨(unknown items).map fun item => ⟨.warning, unknownSource item⟩, .ok (firstNamed items)⟩

theorem itemsOf_text (s : String) : itemsOf (.str s) = .ok (cleaned (Text.splitOn ',' s)) := rfl

theorem itemsOf_items {vs : List Value} {items : List String} (h : vs.mapM Value.text? = .ok items) :
    itemsOf (.list vs) = .ok (cleaned items) := by
  have opened : (Value.list vs).opened = .list vs := rfl
  rw [itemsOf, opened]
  dsimp only
  rw [h, ok_bind]
  rfl

/-- Sources that were found before stay in front of those that are named first in the rest of the list. -/
theorem collectSources_eq {ε : Type} {found : List SourceType} (distinct : found.eraseDups = found)
    (items : List String) : (collectSources found items : Logged ε _) =
      ⟨(unknown items).map fun item => ⟨.warning, unknownSource item⟩,
        .ok (found ++ items.filterMap SourceType.ofName?).eraseDups⟩ := by
  induction items generalizing found with
  | nil =>
    rw [List.filterMap_nil, List.append_nil, distinct]
    rfl
  | cons item items ih =>
    unfold collectSources
    cases named : SourceType.ofName? item with
    | none =>
      rw [ih distinct]
      simp [unknown, named]
      rfl
    | some s =>
      dsimp only
      by_cases known : s ∈ found
      · have again : (found ++ s :: items.filterMap SourceType.ofName?).eraseDups =
            (found ++ items.filterMap SourceType.ofName?).eraseDups := by
          simp [List.eraseDups_append, List.cons_removeAll, known]
        rw [if_pos (List.contains_iff_mem.mpr known), ih distinct]
        simp [unknown, named, again]
      · have longer : (found ++ [s]).eraseDups = found ++ [s] := by
          simp [List.eraseDups_append, List.cons_removeAll, known, distinct, List.eraseDups_cons]
        rw [if_neg (mt List.contains_iff_mem.mp known), ih longer]
        simp [unknown, named]

theorem sourcesOf_cleaned {v : Value} {items : List String} (h : itemsOf v = .ok items) :
    sourcesOf v = collected items := by
  rw [sourcesOf, h, Logged.lift_ok_bind, collectSources_eq rfl]
  rfl

theorem eraseDups_of_nodup {ss : List SourceType} (nodup : ss.Nodup) : ss.eraseDups = ss := by
  induction ss with
  | nil => rfl
  | cons s ss ih =>
    obtain ⟨fresh, nodup⟩ := List.nodup_cons.mp nodup
    have others : ss.filter (fun t => !t == s) = ss := by
      refine List.filter_eq_self.mpr fun t ht => ?_
      simpa using ne_of_mem_of_not_mem ht fresh
    rw [List.eraseDups_cons, others, ih nodup]

theorem nodup_firstNamed (items : List String) : (firstNamed items).Nodup := by
  have distinct : ([] : List SourceType).eraseDups = [] := rfl
  have outcome : (collectSources [] items : Logged Fault _).outcome = .ok (firstNamed items) := by
    rw [collectSources_eq distinct]
    rfl
  exact nodup_collectSources List.nodup_nil outcome

/-- The names of sources, each once, name just these sources. -/
theorem collected_names {ε : Type} {ss : List SourceType} (nodup : ss.Nodup) :
    (collected (ss.map SourceType.name) : Logged ε _) = .ok ss := by
  have none_unknown : unknown (ss.map SourceType.name) = [] := by
    simp [unknown, ofName?_sourceName]
  have named : firstNamed (ss.map SourceType.name) = ss := by
    have each : ∀ s ∈ ss, (SourceType.ofName? ∘ SourceType.name) s = some s := fun s _ => ofName?_sourceName s
    rw [firstNamed, List.filterMap_map, List.filterMap_congr each, List.filterMap_some, eraseDups_of_nodup nodup]
  rw [collected, none_unknown, named]
  rfl

/-! ### Arguments -/

/-- The items of arguments, between their commas. -/
def itemsOfArguments (args : List String) : List String :=
  args.flatMap (Text.splitOn ',')

theorem sourcesOf_joined {args : List String} (some_arg : args ≠ []) :
    sourcesOf (.str (Text.join "," args)) = collected (cleaned (itemsOfArguments args)) := by
  rw [sourcesOf_cleaned (itemsOf_text _), Text.splitOn_join some_arg]
  rfl

/-- The arguments of the option for sources, joined with commas, give the sources that their items name, each once
and where it is named first, and one warning for every other item that is not blank. The same items, spread over
other arguments or one by one in a list of values, give the same; and the sources found are found again in the list
of their names. -/
theorem sources_of_arguments {args : List String} (some_arg : args ≠ []) :
    (∀ spellings, List.Forall₂ CommandLine.SpellsSource args spellings →
      CommandLine.parse spellings.flatten = .ok (CommandLine.ofSources (Text.join "," args))) ∧
    let items := cleaned (itemsOfArguments args)
    let found := firstNamed items
    sourcesOf (.str (Text.join "," args)) =
      ⟨(unknown items).map fun item => ⟨.warning, unknownSource item⟩, .ok found⟩ ∧
    (∀ others ≠ [], cleaned (itemsOfArguments others) = items →
      sourcesOf (.str (Text.join "," others)) = sourcesOf (.str (Text.join "," args))) ∧
    (∀ vs texts, vs.mapM Value.text? = .ok texts → cleaned texts = items →
      sourcesOf (.list vs) = sourcesOf (.str (Text.join "," args))) ∧
    sourcesOf (.list (found.map fun s => .str s.name)) = .ok found ∧
    sourcesOf (.str (Text.join "," (found.map SourceType.name))) = .ok found := by
  refine ⟨fun spellings spelled => CommandLine.parse_sources spelled some_arg, ?_⟩
  intro items found
  have joined : sourcesOf (.str (Text.join "," args)) = collected items := sourcesOf_joined some_arg
  have distinct : found.Nodup := nodup_firstNamed items
  refine ⟨joined, ?_, ?_, ?_, ?_⟩
  · intro others some_other same
    rw [joined, sourcesOf_joined some_other, same]
  · intro vs texts written same
    rw [joined, sourcesOf_cleaned (itemsOf_items written), same]
  · rw [sourcesOf_cleaned (itemsOf_list found), collected_names distinct]
  · rw [sourcesOf_cleaned (itemsOf_joined found), collected_names distinct]

/-- Two arguments, of which one has blanks, capitals and an item that names nothing. -/
theorem sources_of_arguments_web :
    CommandLine.parse ["--source", "Ingress, ,service", "--source= INGRESS,web"] =
      .ok (CommandLine.ofSources "Ingress, ,service, INGRESS,web") ∧
    sourcesOf (.str "Ingress, ,service, INGRESS,web") =
      ⟨[⟨.warning, "Ignoring unknown source 'web' (options: service, ingress)"⟩], .ok [.ingress, .service]⟩ ∧
    sourcesOf (.list [.str "ingress", .str "service", .str "ingress ", .str "web"]) =
      sourcesOf (.str "Ingress, ,service, INGRESS,web") ∧
    sourcesOf (.str "ingress,service") = .ok [.ingress, .service] := by
  have some_arg : ["Ingress, ,service", " INGRESS,web"] ≠ [] := List.cons_ne_nil _ _
  obtain ⟨parsed, found, -, listed, -, again⟩ := sources_of_arguments some_arg
  have value : CommandLine.classify "Ingress, ,service" = .ok (.value "Ingress, ,service") := by
    decide +kernel
  have spelled : List.Forall₂ CommandLine.SpellsSource ["Ingress, ,service", " INGRESS,web"]
      [["--source", "Ingress, ,service"], ["--source= INGRESS,web"]] :=
    .cons (.apart value) (.cons (.joined (by decide)) .nil)
  have items : cleaned (itemsOfArguments ["Ingress, ,service", " INGRESS,web"]) =
      ["ingress", "service", "ingress", "web"] := by
    decide +kernel
  have named : firstNamed ["ingress", "service", "ingress", "web"] = [.ingress, .service] := by
    decide +kernel
  have others : unknown ["ingress", "service", "ingress", "web"] = ["web"] := by
    decide +kernel
  rw [items, named, others] at found
  rw [items, named] at again
  have texts : cleaned ["ingress", "service", "ingress ", "web"] =
      cleaned (itemsOfArguments ["Ingress, ,service", " INGRESS,web"]) := by
    decide +kernel
  exact ⟨parsed _ spelled, found, listed _ _ rfl texts, again⟩

end Settings

end ClusterMdns
