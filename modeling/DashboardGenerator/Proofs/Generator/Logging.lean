import DashboardGenerator.Proofs.Generator.Composition
import DashboardGenerator.Proofs.Generator.KeyOrder

/-!
# The log of a run

The variable of the log is none of a setting, so it chooses what is shown of a run and changes
nothing else (`run_of_same_elsewhere`). A run logs how it makes its dashboard, and then how it ends:
`Closes` lists the ends with their events, and `run_closes` says that every run has one of them. So an
error is logged by the runs alone that refuse their dashboard, and a written document by those alone
that do not fail.
-/

namespace DashboardGenerator

namespace Log

variable {threshold other : Threshold} {environment others : Environment}

/-- The place of a threshold in the order from none to the least severe level. -/
def Threshold.rank : Threshold → Nat
  | none => 0
  | some level => level.rank

/-- The plain name of a threshold, in lower case. -/
def Threshold.word : Threshold → String
  | none => "off"
  | some .error => "error"
  | some .warn => "warn"
  | some .info => "info"
  | some .debug => "debug"
  | some .trace => "trace"

/-- The environment sets the threshold by its plain name, in any case. -/
def Threshold.IsSetIn (threshold : Threshold) (environment : Environment) : Prop :=
  ∃ word, environment.text? variableName = some word ∧ word.toLower = threshold.word

/-- The environments differ in the variable of the log alone. -/
def SameElsewhere (environment others : Environment) : Prop :=
  environment.filter (fun entry => entry.1 != variableName) =
    others.filter fun entry => entry.1 != variableName

instance (environment others : Environment) : Decidable (SameElsewhere environment others) :=
  inferInstanceAs (Decidable (_ = _))

/-- The event tells that a document was written. -/
def Event.tellsOfWriting (event : Event) : Bool :=
  "Wrote ".toList.isPrefixOf event.message.toList

/-- The lines that show one event. -/
def Event.lines (event : Event) : List String :=
  (event.text.toList.splitOn '\n').map String.ofList

/-- A level is named by the word of its threshold, in any case of its letters. -/
theorem of_word_of_toLower {word : String} (hword : word.toLower = threshold.word) :
    Threshold.ofWord? word = some threshold := by
  have hascii : ∀ character ∈ threshold.word.toList, Text.IsAscii character := by
    cases threshold with
    | none => simp [Threshold.word, Text.IsAscii]
    | some level => cases level <;> simp [Threshold.word, Text.IsAscii]
  have hlower : Text.lowercase word = threshold.word := by
    rw [← hword, Text.lowercase_of_ascii]
    exact Text.is_ascii_of_map_toLower (by rw [← Text.toList_toLower, hword]) hascii
  rw [Threshold.ofWord?, hlower]
  cases threshold with
  | none => rfl
  | some level => cases level <;> rfl

/-- The threshold that the environment names is the one that holds, whatever directives mean. -/
theorem of_environment_of_is_set (hset : threshold.IsSetIn environment)
    (directives : String → Option Filter) :
    Filter.ofEnvironment directives environment = threshold.filter := by
  obtain ⟨word, hlookup, hword⟩ := hset
  simp only [Filter.ofEnvironment, hlookup, of_word_of_toLower hword]

/-- An event is shown if its level is not above the threshold. -/
theorem is_shown_iff {event : Event} :
    event.isShown threshold = true ↔ event.level.rank ≤ threshold.rank := by
  cases threshold with
  | none =>
      have hpos : event.level.rank ≠ 0 := by cases event.level <;> decide
      simp [Event.isShown, Threshold.rank, hpos]
  | some level => simp [Event.isShown, Threshold.rank]

/-- What is shown at a threshold is what it admits of the events shown at a higher one. -/
theorem filter_is_shown (hrank : threshold.rank ≤ other.rank) (events : List Event) :
    events.filter (·.isShown threshold) =
      (events.filter (·.isShown other)).filter (·.isShown threshold) := by
  rw [List.filter_filter]
  refine List.filter_congr fun event _ => ?_
  cases hshown : event.isShown threshold with
  | false => rfl
  | true => exact (is_shown_iff.mpr ((is_shown_iff.mp hshown).trans hrank)).symm

/-- The lines of a log are those of the events that are shown. -/
theorem lines_eq (events : List Event) (filter : Filter) :
    lines events filter = (events.filter filter).flatMap Event.lines :=
  List.flatMap_def.symm

end Log

/-- The variable of the log gives no value to a key. -/
theorem Settings.variable_key_log : variableKey? Log.variableName = none := by
  decide +kernel

/-- What an environment gives to keys does not depend on the variable of the log. -/
theorem Settings.variable_entries_filter (environment : Environment) :
    variableEntries (environment.filter fun entry => entry.1 != Log.variableName) =
      variableEntries environment := by
  rw [variableEntries, variableEntries, List.filterMap_filter]
  refine List.filterMap_congr fun entry _ => ?_
  obtain ⟨name, value⟩ := entry
  by_cases hname : name = Log.variableName
  · simp [hname, variable_key_log]
  · simp [hname]

namespace Machine

variable {World : Type} {machine : Machine World} {world : World} {environment others : Environment}

/-- The events of a run that are shown. -/
def logged (machine : Machine World) (world : World) (environment : Environment) :
    List Log.Event :=
  (machine.run world environment).1.events.filter
    (Log.Filter.ofEnvironment machine.directives environment)

/-! ## What the log depends on -/

/-- A run takes from the environment nothing but the settings, and these do not depend on the
variable of the log. -/
theorem run_of_same_elsewhere (machine : Machine World) (world : World)
    (hsame : Log.SameElsewhere environment others) :
    machine.run world environment = machine.run world others := by
  have hentries : Settings.variableEntries environment = Settings.variableEntries others := by
    rw [← Settings.variable_entries_filter environment, hsame, Settings.variable_entries_filter]
  have hsource : Settings.environmentSource environment = Settings.environmentSource others := by
    rw [Settings.environmentSource, hentries, ← Settings.environmentSource]
  have hsettings : machine.settings world environment = machine.settings world others := by
    rw [settings_eq, settings_eq, Settings.ofSources, hsource, ← Settings.ofSources]
  rw [run_eq, run_eq, hsettings]

/-! ## The events of a run -/

/-- An event of making a dashboard. -/
inductive IsMaking : Log.Event → Prop
  /-- A definition file is going to be read. -/
  | reading (path : String) : IsMaking (reading path)
  /-- A definition was read and built. -/
  | built (definition : DashboardDefinition) : IsMaking (builtEvent definition.build)

/-- How a run can end: the failure that it reports, and the events behind those of making its
dashboard. -/
inductive Closes (machine : Machine World) (world : World) (environment : Environment) :
    Option Failure → List Log.Event → Prop
  /-- A stage other than the validation fails. -/
  | failed {failure : Failure} (hfails : machine.FailsFirst world environment failure)
      (hother : ∀ error, failure ≠ .validation error) :
      Closes machine world environment (some failure) []
  /-- The dashboard is not accepted. -/
  | refused {settings : Settings} {dashboard : Dashboard} {error : DashboardError}
      (hsettings : machine.settings world environment = .ok settings)
      (hasks : machine.Asks world settings dashboard)
      (hinvalid : (dashboard.withUid settings.uid).validate = .error error) :
      Closes machine world environment (some (.validation error))
        [refusal (dashboard.withUid settings.uid) error]
  /-- The document is printed. -/
  | printed {settings : Settings} (hsettings : machine.settings world environment = .ok settings)
      (hpath : settings.outputPath = none) : Closes machine world environment none []
  /-- The document is written to a file. -/
  | written {settings : Settings} {dashboard : Dashboard} {path : String}
      (hsettings : machine.settings world environment = .ok settings)
      (hasks : machine.Asks world settings dashboard) (hpath : settings.outputPath = some path) :
      Closes machine world environment none [receipt (dashboard.withUid settings.uid) path]

/-- The events of making a dashboard tell of the definition file and of what was built from it. -/
theorem made_events (machine : Machine World) (world : World) (settings : Settings) :
    ∀ event ∈ (machine.made world settings).1, IsMaking event := by
  rw [made_eq]
  cases settings.definitionPath with
  | none => exact fun event hevent => absurd hevent List.not_mem_nil
  | some path =>
      dsimp only
      cases machine.definition world path with
      | error fault => exact List.forall_mem_singleton.mpr (.reading path)
      | ok definition =>
          exact List.forall_mem_cons.mpr
            ⟨.reading path, List.forall_mem_singleton.mpr (.built definition)⟩

/-- Every run logs how it makes its dashboard, as far as it gets, and then how it ends. -/
theorem run_closes (machine : Machine World) (world : World)
    (environment : Environment) :
    ∃ making closing, (machine.run world environment).1.events = making ++ closing ∧
      (∀ event ∈ making, IsMaking event) ∧
      machine.Closes world environment (machine.run world environment).1.failure closing := by
  rw [run_eq]
  cases hsettings : machine.settings world environment with
  | error fault =>
      exact ⟨[], [], rfl, by simp, .failed (.settings hsettings) (by simp)⟩
  | ok settings =>
  dsimp only
  have hmaking := made_events machine world settings
  rcases hmade : machine.made world settings with ⟨making, fault | dashboard⟩
  · rw [hmade] at hmaking
    obtain ⟨path, hpath, hdefinition⟩ := made_eq_error_iff.mp (congrArg Prod.snd hmade)
    exact ⟨making, [], (List.append_nil _).symm, hmaking,
      .failed (.definition hsettings hpath hdefinition) (by simp)⟩
  rw [hmade] at hmaking
  have hasks : machine.Asks world settings dashboard := made_eq_ok_iff.mp (congrArg Prod.snd hmade)
  dsimp only
  cases hvalid : (dashboard.withUid settings.uid).validate with
  | error error => exact ⟨making, _, rfl, hmaking, .refused hsettings hasks hvalid⟩
  | ok valid =>
  dsimp only
  rw [deliver_eq]
  cases hpath : settings.outputPath with
  | none => exact ⟨making, [], (List.append_nil _).symm, hmaking, .printed hsettings hpath⟩
  | some path =>
  dsimp only
  cases hwrite : machine.write world path (Text.encodeUtf8
      (Grafana.render (dashboard.withUid settings.uid) settings.pretty)) with
  | error fault =>
      exact ⟨making, [], (List.append_nil _).symm, hmaking,
        .failed (.output hsettings hasks hvalid hpath hwrite) (by simp)⟩
  | ok after => exact ⟨making, _, rfl, hmaking, .written hsettings hasks hpath⟩

/-- Making a dashboard logs no error. -/
theorem IsMaking.level_ne_error {event : Log.Event} (hmaking : IsMaking event) :
    event.level ≠ .error := by
  cases hmaking with
  | reading path => exact nofun
  | built definition => exact nofun

/-- Making a dashboard writes no document. -/
theorem IsMaking.not_tells_of_writing {event : Log.Event} (hmaking : IsMaking event) :
    event.tellsOfWriting = false := by
  cases hmaking with
  | reading path =>
      simp [Log.Event.tellsOfWriting, Machine.reading, programEvent, List.isPrefixOf]
  | built definition => simp [Log.Event.tellsOfWriting, builtEvent, toString, List.isPrefixOf]

/-- A refusal tells of no document that was written. -/
theorem refusal_not_tells_of_writing (dashboard : Dashboard) (error : DashboardError) :
    (refusal dashboard error).tellsOfWriting = false := by
  simp [Log.Event.tellsOfWriting, refusal, programEvent, toString, List.isPrefixOf]

/-- A receipt tells of the document that was written. -/
theorem receipt_tells_of_writing (dashboard : Dashboard) (path : String) :
    (receipt dashboard path).tellsOfWriting = true := by
  simp [Log.Event.tellsOfWriting, receipt, programEvent, toString]

/-- An end is marked by an error exactly if it is that of a run that refuses its dashboard. -/
theorem Closes.error_iff {failure : Option Failure} {closing : List Log.Event}
    (hcloses : machine.Closes world environment failure closing) :
    (∃ event ∈ closing, event.level = .error) ↔ ∃ error, failure = some (.validation error) := by
  cases hcloses with
  | failed hfails hother => simpa using hother
  | refused hsettings hasks hinvalid => simp [refusal, programEvent]
  | printed hsettings hpath => simp
  | written hsettings hasks hpath => simp [receipt, programEvent]

/-- The end of a run that fails tells of no document that was written. -/
theorem Closes.not_tells_of_writing {failure : Failure} {closing : List Log.Event}
    (hcloses : machine.Closes world environment (some failure) closing) :
    ∀ event ∈ closing, event.tellsOfWriting = false := by
  cases hcloses with
  | failed hfails hother => exact fun event hevent => absurd hevent List.not_mem_nil
  | refused hsettings hasks hinvalid =>
      exact List.forall_mem_singleton.mpr (refusal_not_tells_of_writing _ _)

/-- The end of a run that writes to a file is the receipt of the document. -/
theorem Closes.eq_receipt {settings : Settings} {dashboard : Dashboard} {path : String}
    {closing : List Log.Event} (hcloses : machine.Closes world environment none closing)
    (hsettings : machine.settings world environment = .ok settings)
    (hasks : machine.Asks world settings dashboard) (hpath : settings.outputPath = some path) :
    closing = [receipt (dashboard.withUid settings.uid) path] := by
  cases hcloses with
  | printed hloaded hnone =>
      obtain rfl := Except.ok.inj (hsettings.symm.trans hloaded)
      cases hpath.symm.trans hnone
  | written hloaded hmade hsome =>
      obtain rfl := Except.ok.inj (hsettings.symm.trans hloaded)
      obtain rfl := Option.some.inj (hpath.symm.trans hsome)
      rw [hasks.unique hmade]

/-- A run has an error among its events exactly if it refuses its dashboard. -/
theorem error_event_iff :
    (∃ event ∈ (machine.run world environment).1.events, event.level = .error) ↔
      ∃ error, machine.FailsFirst world environment (.validation error) := by
  obtain ⟨making, closing, hevents, hmaking, hcloses⟩ := run_closes machine world environment
  simp only [← failure_eq_some_iff, ← hcloses.error_iff, hevents]
  constructor
  · rintro ⟨event, hevent, hlevel⟩
    refine ⟨event, (List.mem_append.mp hevent).resolve_left fun hmem => ?_, hlevel⟩
    exact (hmaking event hmem).level_ne_error hlevel
  · rintro ⟨event, hevent, hlevel⟩
    exact ⟨event, List.mem_append_right _ hevent, hlevel⟩

/-- A run that fails tells of no document that was written. -/
theorem not_tells_of_writing_of_failure (hexit : (machine.run world environment).1.exitCode ≠ 0) :
    ∀ event ∈ (machine.run world environment).1.events, event.tellsOfWriting = false := by
  obtain ⟨making, closing, hevents, hmaking, hcloses⟩ := run_closes machine world environment
  obtain ⟨failure, hfailure⟩ :=
    Option.ne_none_iff_exists'.mp (mt Outcome.exit_code_eq_zero_iff.mpr hexit)
  rw [hfailure] at hcloses
  rw [hevents]
  exact List.forall_mem_append.mpr
    ⟨fun event hevent => (hmaking event hevent).not_tells_of_writing, hcloses.not_tells_of_writing⟩

/-- A run that writes a document to a file tells of it once. -/
theorem filter_tells_of_writing {settings : Settings} {dashboard : Dashboard} {path : String}
    (hsettings : machine.settings world environment = .ok settings)
    (hasks : machine.Asks world settings dashboard) (hpath : settings.outputPath = some path)
    (hexit : (machine.run world environment).1.exitCode = 0) :
    (machine.run world environment).1.events.filter Log.Event.tellsOfWriting =
      [receipt (dashboard.withUid settings.uid) path] := by
  obtain ⟨making, closing, hevents, hmaking, hcloses⟩ := run_closes machine world environment
  rw [Outcome.exit_code_eq_zero_iff.mp hexit] at hcloses
  have hnone : making.filter Log.Event.tellsOfWriting = [] :=
    List.filter_eq_nil_iff.mpr fun event hevent => by
      simp [(hmaking event hevent).not_tells_of_writing]
  rw [hevents, hcloses.eq_receipt hsettings hasks hpath, List.filter_append, hnone,
    List.nil_append, List.filter_singleton, receipt_tells_of_writing, cond_true]

/-! ## What is shown -/

/-- An error is logged exactly if the dashboard is refused, unless nothing is to be shown. -/
theorem error_logged_iff {threshold : Log.Threshold} (hset : threshold.IsSetIn environment) :
    (∃ event ∈ machine.logged world environment, event.level = .error) ↔
      threshold ≠ none ∧ ∃ error, machine.FailsFirst world environment (.validation error) := by
  rw [logged, Log.of_environment_of_is_set hset, ← error_event_iff]
  -- Every threshold but that of nothing admits errors.
  have hadmits : ∀ event : Log.Event, event.level = .error →
      (event.isShown threshold = true ↔ threshold ≠ none) := by
    intro event hlevel
    cases threshold with
    | none => simp [Log.Event.isShown]
    | some level => cases level <;> simp [Log.Event.isShown, hlevel, Log.Level.rank]
  constructor
  · rintro ⟨event, hevent, hlevel⟩
    obtain ⟨hmem, hshown⟩ := List.mem_filter.mp hevent
    exact ⟨(hadmits event hlevel).mp hshown, event, hmem, hlevel⟩
  · rintro ⟨hsome, event, hevent, hlevel⟩
    exact ⟨event, List.mem_filter.mpr ⟨hevent, (hadmits event hlevel).mpr hsome⟩, hlevel⟩

end Machine

namespace Files

variable {platform : Platform} {files : Files} {environment others : Environment}

/-- The document that is written to a file is reported once, with the number of its panels, if
information is to be shown. -/
theorem receipt_logged {threshold : Log.Threshold} {settings : Settings} {path : String}
    (hset : threshold.IsSetIn environment)
    (hsettings : (machine platform).settings files environment = .ok settings)
    (hpath : settings.outputPath = some path)
    (hexit : ((machine platform).run files environment).1.exitCode = 0) :
    ∃ text document,
      ((machine platform).run files environment).2.read path = .ok (Text.encodeUtf8 text) ∧
      Grafana.decode? text = some document ∧
      ((machine platform).logged files environment).filter Log.Event.tellsOfWriting =
        if Log.Level.info.rank ≤ threshold.rank then [Machine.receipt document path] else [] := by
  obtain ⟨dashboard, hasks, -, hemits⟩ := emits_of_exit hsettings hexit
  rw [Emits, hpath] at hemits
  refine ⟨_, _, hemits, Grafana.decode_render _ _, ?_⟩
  rw [Machine.logged, Log.of_environment_of_is_set hset, List.filter_comm,
    Machine.filter_tells_of_writing hsettings hasks hpath hexit, List.filter_singleton,
    Log.Threshold.filter]
  by_cases hinfo : Log.Level.info.rank ≤ threshold.rank
  · rw [if_pos hinfo, Log.is_shown_iff.mpr hinfo, cond_true]
  · rw [if_neg hinfo, Bool.eq_false_iff.mpr (mt Log.is_shown_iff.mp hinfo), cond_false]

/-- The log tells of a run and changes nothing about it. Two environments that differ in the variable
of the log alone, each of which sets it to the plain name of a threshold in any case, lead to the same
exit code, output, failure and files; and what is logged at the lower threshold is what it admits of
the log at the higher one. An error is logged exactly by the runs that refuse their dashboard, unless
nothing is to be shown; a run that fails tells of no document that was written; and one that writes
to a file reports this once, with the number of panels of the document, if information is to be
shown. This holds in every order of the keys. Two runs that visit them in different orders end alike
if no key of their inputs is a path. -/
theorem log_changes_no_result (platform : Platform) (files : Files) {threshold other : Log.Threshold}
    (hsame : Log.SameElsewhere environment others) (hset : threshold.IsSetIn environment)
    (hother : other.IsSetIn others) :
    let run := (machine platform).run files
    let logged := (machine platform).logged files
    ((run environment).1.exitCode = (run others).1.exitCode ∧
        (run environment).1.output = (run others).1.output ∧
        (run environment).1.failure = (run others).1.failure ∧
        (run environment).2 = (run others).2) ∧
      (threshold.rank ≤ other.rank →
        logged environment = (logged others).filter (·.isShown threshold)) ∧
      Log.lines (run environment).1.events (.ofEnvironment platform.directives environment) =
        (logged environment).flatMap Log.Event.lines ∧
      ((∃ event ∈ logged environment, event.level = .error) ↔
        threshold ≠ none ∧
          ∃ error, (machine platform).FailsFirst files environment (.validation error)) ∧
      ((run environment).1.exitCode ≠ 0 →
        ∀ event ∈ logged environment, event.tellsOfWriting = false) ∧
      (∀ settings path, (machine platform).settings files environment = .ok settings →
        settings.outputPath = some path → (run environment).1.exitCode = 0 →
        ∃ text document, (run environment).2.read path = .ok (Text.encodeUtf8 text) ∧
          Grafana.decode? text = some document ∧
          (logged environment).filter Log.Event.tellsOfWriting =
            if Log.Level.info.rank ≤ threshold.rank then [Machine.receipt document path] else []) ∧
      ((machine platform).PlainInputs files environment → ∀ settingsHost definitionHost,
        Machine.EndsAlike (run environment)
          ((machine (platform.onHosts settingsHost definitionHost)).run files others)) := by
  intro run logged
  have hrun := (machine platform).run_of_same_elsewhere files hsame
  refine ⟨by simp only [run, hrun, and_self], fun hrank => ?_, Log.lines_eq _ _,
    Machine.error_logged_iff hset, fun hexit event hevent => ?_,
    fun settings path => receipt_logged hset, fun hplain settingsHost definitionHost => ?_⟩
  · show (machine platform).logged files environment =
      ((machine platform).logged files others).filter _
    rw [Machine.logged, Machine.logged, hrun, Log.of_environment_of_is_set hset,
      Log.of_environment_of_is_set hother]
    exact Log.filter_is_shown hrank _
  · exact Machine.not_tells_of_writing_of_failure hexit event (List.mem_filter.mp hevent).1
  · rw [← (machine (platform.onHosts settingsHost definitionHost)).run_of_same_elsewhere files hsame]
    exact Machine.run_on_hosts hplain settingsHost definitionHost

/-- Settings that write a document, with information to be shown. -/
def informedEnvironment : Environment := ("RUST_LOG", .text "Info") :: oneQueryEnvironment

/-- The same settings, with more to be shown. -/
def debuggedEnvironment : Environment := oneQueryEnvironment ++ [("RUST_LOG", .text "DEBUG")]

/-- No key of the inputs of the run is a path. -/
theorem informed_plain_inputs :
    (machine .plain).PlainInputs oneQueryFiles informedEnvironment := by
  have hnofile : ((machine .plain).settingsFile oneQueryFiles).isNone := by decide +kernel
  have hvariables : (Settings.environmentSource informedEnvironment).toOption.all fun source =>
      ∀ entry ∈ source, Config.IsPlainKey entry.1 := by decide +kernel
  have hsettings : (machine .plain).settings oneQueryFiles informedEnvironment =
      .ok oneQuerySettings := by decide +kernel
  have hkeys : (oneQueryFiles.read "page.toml").toOption.all fun content =>
      (Text.decodeUtf8? content).all fun text =>
        (Config.ofToml .memory text).toOption.all fun source =>
          ∀ entry ∈ source, Config.IsPlainKey entry.1 := by decide +kernel
  constructor
  · intro format text source hfile
    rw [hfile] at hnofile
    cases hnofile
  · intro source hsource
    rw [hsource] at hvariables
    exact of_decide_eq_true hvariables
  · intro settings path content text source hloaded hpath hread htext hsource
    obtain rfl := Except.ok.inj (hsettings.symm.trans hloaded)
    obtain rfl := Option.some.inj hpath
    rw [machine_read] at hread
    rw [hread] at hkeys
    simp only [Except.toOption, Option.all_some, htext, hsource] at hkeys
    exact of_decide_eq_true hkeys

/-- The run that writes a document reports it at the threshold of information, shows more of the same
run at a higher one, and ends alike where short keys are visited before long ones. -/
theorem log_changes_no_result_one_query :
    (machine .plain).logged oneQueryFiles informedEnvironment =
        ((machine .plain).logged oneQueryFiles debuggedEnvironment).filter (·.isShown (some .info)) ∧
      (∃ text document,
        ((machine .plain).run oneQueryFiles informedEnvironment).2.read "page.json" =
            .ok (Text.encodeUtf8 text) ∧
        Grafana.decode? text = some document ∧
        ((machine .plain).logged oneQueryFiles informedEnvironment).filter
          Log.Event.tellsOfWriting = [Machine.receipt document "page.json"]) ∧
      Machine.EndsAlike ((machine .plain).run oneQueryFiles informedEnvironment)
        ((machine (Platform.plain.onHosts .shortestFirst .shortestFirst)).run oneQueryFiles
          debuggedEnvironment) := by
  have hsame : Log.SameElsewhere informedEnvironment debuggedEnvironment := by decide +kernel
  have hset : Log.Threshold.IsSetIn (some .info) informedEnvironment :=
    ⟨"Info", by decide +kernel, by decide +kernel⟩
  have hother : Log.Threshold.IsSetIn (some .debug) debuggedEnvironment :=
    ⟨"DEBUG", by decide +kernel, by decide +kernel⟩
  obtain ⟨-, hless, -, -, -, hwrites, halike⟩ :=
    log_changes_no_result .plain oneQueryFiles hsame hset hother
  exact ⟨hless (by decide), hwrites oneQuerySettings "page.json" (by decide +kernel) rfl
    (by decide +kernel), halike informed_plain_inputs _ _⟩

end Files

end DashboardGenerator
