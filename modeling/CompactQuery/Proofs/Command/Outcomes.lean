import CompactQuery.Command.Needs
import CompactQuery.Proofs.Command.Printed
import CompactQuery.Proofs.Command.Stages

/-!
# Outcomes — a run does all or nothing

The result of a run is printed only if all of its stages succeed; else nothing is printed but the
log and the message of the first failure. The log is no part of the result.

* **`Report.outcome_of_ok`**, **`Report.outcome_of_error`** — both outcomes of a report.
* **`perform_logging`**, **`run_logging`** — what is asked for does not depend on what is logged.
* **`run_build`** — what a build prints whose stages succeed.
* **`run_all_or_nothing`** — the status, the output and the messages of a run.
-/

namespace CompactQuery.Command

/-! ## Outcomes of reports -/

section

variable {colours : Bool} {filter : LogFilter} {report : Report (List Span)}

theorem Report.outcome_of_ok {spans : List Span} (h : report.result = .ok spans) :
    report.outcome colours filter = ⟨0, shownAll colours spans, logText filter report.events⟩ := by
  rw [outcome, h]

theorem Report.outcome_of_error {failure : Failure} (h : report.result = .error failure) :
    report.outcome colours filter =
      ⟨1, "", logText filter report.events ++ (Span.styled .boldRed "Error:").shown colours ++ " "
        ++ failure.message ++ "\n"⟩ := by
  rw [outcome, h]

theorem Report.outcome_status_iff :
    (report.outcome colours filter).status = 0 ↔ ∃ spans, report.result = .ok spans := by
  cases h : report.result with
  | ok spans => simp [outcome_of_ok h]
  | error failure => simp [outcome_of_error h]

end

@[simp] theorem shownAll_plain (colours : Bool) (text : String) :
    shownAll colours [.plain text] = text := by
  have hshown : (Span.plain text).shown colours = text := by
    cases colours <;> rfl
  rw [shownAll, List.map_singleton, hshown, String.join_cons, String.join_nil, String.append_empty]

theorem run_of_invocation {here : Surroundings} {arguments : List String} {invocation : Invocation}
    (h : Invocation.ofArguments? here.environment.settings arguments = .ok invocation) :
    run here arguments =
      (perform here invocation.settings invocation.request).outcome here.colours
        (.choose here.environment.logFilter invocation.verbose) := by
  rw [run, h]
  rfl

/-- The surroundings with another choice of log records. -/
def Surroundings.logging (here : Surroundings) (filter : Option String) : Surroundings :=
  { here with environment := { here.environment with logFilter := filter } }

theorem perform_logging (here : Surroundings) (filter : Option String) (named : Option Path)
    (request : Request) :
    perform (here.logging filter) named request = perform here named request := by
  cases request <;> rfl

/-! ## Runs -/

section

variable {here : Surroundings} {arguments arguments' : List String}
  {invocation invocation' : Invocation} {line line' : Line}

/-- A build whose stages succeed prints the query as the line wants it. -/
theorem run_build
    (h : Invocation.ofArguments? here.environment.settings arguments = .ok invocation)
    (hline : line.Spells arguments) (haction : line.action = .build) {settings : Settings}
    (hsettings : SettingsInForce here invocation.settings settings) {text : String} {query : Query}
    (htext : line.source.text here = .ok text)
    (hload : Query.load? line.source.format text = .ok query) :
    (run here arguments).status = 0 ∧ line.Prints settings query (run here arguments).output := by
  obtain ⟨urlSafe, form, hrequest, hprints⟩ :=
    (Invocation.asks_of_spells hline h).exists_build haction
  rw [run_of_invocation h, hrequest, Report.outcome_of_ok
    (build_eq_ok_iff.mpr ⟨settings, text, query, hsettings, htext, hload, rfl⟩), shownAll_plain]
  exact ⟨rfl, hprints settings query⟩

/-- A build that succeeds has gone through all of its stages. -/
theorem exists_of_run_build
    (h : Invocation.ofArguments? here.environment.settings arguments = .ok invocation)
    (hline : line.Spells arguments) (haction : line.action = .build)
    (hstatus : (run here arguments).status = 0) :
    ∃ settings text query, SettingsInForce here invocation.settings settings ∧
      line.source.text here = .ok text ∧
      Query.load? line.source.format text = .ok query := by
  obtain ⟨urlSafe, form, hrequest, _⟩ := (Invocation.asks_of_spells hline h).exists_build haction
  rw [run_of_invocation h, hrequest] at hstatus
  obtain ⟨spans, hspans⟩ := Report.outcome_status_iff.mp hstatus
  obtain ⟨settings, text, query, hsettings, htext, hload, _⟩ := build_eq_ok_iff.mp hspans
  exact ⟨settings, text, query, hsettings, htext, hload⟩

/-- A run for the same with another choice of log records has the same status and output. -/
theorem run_logging
    (h : Invocation.ofArguments? here.environment.settings arguments = .ok invocation)
    (h' : Invocation.ofArguments? here.environment.settings arguments' = .ok invocation')
    (hsettings : invocation'.settings = invocation.settings)
    (hrequest : invocation'.request = invocation.request) (filter : Option String) :
    (run (here.logging filter) arguments').status = (run here arguments).status ∧
      (run (here.logging filter) arguments').output = (run here arguments).output := by
  have hrun : run (here.logging filter) arguments' = _ := run_of_invocation h'
  rw [hrun, run_of_invocation h, perform_logging, hsettings, hrequest]
  cases hresult : (perform here invocation.settings invocation.request).result with
  | ok spans =>
      rw [Report.outcome_of_ok hresult, Report.outcome_of_ok hresult]
      exact ⟨rfl, rfl⟩
  | error failure =>
      rw [Report.outcome_of_error hresult, Report.outcome_of_error hresult]
      exact ⟨rfl, rfl⟩

/-- **A run does all or nothing, and says which stage failed first.** A command line that is accepted
says something that can be accepted, and is taken for just what it says. The status is zero just if
all stages of what is asked for succeed, and then `build` prints the whole rendering of the query
that the text of its source loads. Else the status is one, nothing is printed, and the last line of
the messages is the failure of the first stage that fails. What is logged does not matter, whoever
asks for it: neither to the status nor to the output. -/
theorem run_all_or_nothing
    (h : Invocation.ofArguments? here.environment.settings arguments = .ok invocation) :
    (∃ line : Line, line.Spells arguments ∧ line.Accepted here.environment.settings) ∧
    ∀ line : Line, line.Spells arguments →
      line.Asks here.environment.settings invocation ∧
      ((run here arguments).status = 0 ↔
        invocation.request.Succeeds here invocation.settings) ∧
      (line.action = .build → (run here arguments).status = 0 →
        ∃ settings text query, SettingsInForce here invocation.settings settings ∧
          line.source.text here = .ok text ∧
          Query.load? line.source.format text = .ok query ∧
          line.Prints settings query (run here arguments).output) ∧
      ((run here arguments).status ≠ 0 →
        (run here arguments).status = 1 ∧ (run here arguments).output = "" ∧
          ∃ source stage failure details,
            invocation.request.FailsFirst here invocation.settings source stage failure ∧
            failure.message = stage.lead source ++ details ∧
            (run here arguments).messages =
              logText (.choose here.environment.logFilter invocation.verbose)
                  (perform here invocation.settings invocation.request).events
                ++ (Span.styled .boldRed "Error:").shown here.colours ++ " " ++ failure.message
                ++ "\n") ∧
      ∀ filter arguments', ∀ line' : Line, line'.Spells arguments' →
        line'.Accepted here.environment.settings → line'.quiet = line.quiet →
        (run (here.logging filter) arguments').status = (run here arguments).status ∧
          (run (here.logging filter) arguments').output = (run here arguments).output := by
  refine ⟨Invocation.exists_accepted h, fun line hline => ?_⟩
  have hasks := Invocation.asks_of_spells hline h
  refine ⟨hasks, ?_, ?_, ?_, ?_⟩
  · rw [run_of_invocation h]
    exact Report.outcome_status_iff.trans succeeds_iff
  · -- what a build prints if it succeeds
    intro haction hstatus
    obtain ⟨settings, text, query, hsettings, htext, hload⟩ :=
      exists_of_run_build h hline haction hstatus
    exact ⟨settings, text, query, hsettings, htext, hload,
      (run_build h hline haction hsettings htext hload).2⟩
  · -- what is reported if any stage fails
    intro hstatus
    rw [run_of_invocation h] at hstatus ⊢
    cases hresult : (perform here invocation.settings invocation.request).result with
    | ok spans => exact absurd (Report.outcome_status_iff.mpr ⟨spans, hresult⟩) hstatus
    | error failure =>
        obtain ⟨source, stage, hfirst⟩ := exists_failsFirst hresult
        obtain ⟨details, hdetails⟩ := hfirst.fails.exists_lead
        rw [Report.outcome_of_error hresult]
        exact ⟨rfl, rfl, source, stage, failure, details, hfirst, hdetails, rfl⟩
  · -- but for the log the two lines ask for the same
    intro filter arguments' line' hline' haccepted' hquiet
    obtain ⟨invocation', h'⟩ := (Invocation.accepted_iff hline').mpr haccepted'
    have hasks' := Invocation.asks_of_spells hline' h'
    exact run_logging h h' (hasks.settings_eq hasks' hquiet) (hasks.request_eq hasks' hquiet) filter

/-- Neither the settings nor the description can be read: the settings are what is reported. And a
build that succeeds prints what its flags ask for, however they are written and whatever is
logged. -/
theorem run_all_or_nothing_twoRuns :
    let unreadable : Surroundings :=
      .ofFiles {} false (.error .notText) [(localSettings, .error .folder)]
    let readable : Surroundings :=
      .ofFiles {} false (.ok "\x7b\"table\":\"a b\"\x7d".toUTF8)
        [(⟨"s.toml"⟩, .ok "[output]\nurl_safe = false\n".toUTF8)]
    let apart := ["--config", "s.toml", "build", "-f", "json"]
    let joined := ["--config=s.toml", "build", "-vfjson"]
    (Stage.reading.Fails unreadable none .input (.descriptionUnread .input .notText) ∧
      (run unreadable ["build"]).status = 1 ∧ (run unreadable ["build"]).output = "" ∧
      (run unreadable ["build"]).messages =
        logText (.choose none false) [.settingsRead "shortsql.toml"] ++ "Error:" ++ " "
          ++ "Failed to load config: Configuration error: Failed to read shortsql.toml: "
          ++ "Is a directory (os error 21)" ++ "\n" ∧
      (run (unreadable.logging (some "trace")) ["-v", "build"]).status = 1) ∧
    (run readable apart).status = 0 ∧
      (run readable apart).output
        = "\x7b\n  \"shortsql\": \"@a b\",\n  \"url_safe\": false\n\x7d\n" ∧
      Shows .json false "@a b" (run readable apart).output ∧
      (run (readable.logging (some "trace")) joined).status = 0 ∧
      (run (readable.logging (some "trace")) joined).output = (run readable apart).output := by
  intro unreadable readable apart joined
  refine ⟨?_, ?_⟩
  · have harguments : Invocation.ofArguments? unreadable.environment.settings ["build"]
        = .ok ⟨none, false, .build none false none⟩ := by decide
    have hline : Line.Spells ⟨[], .build, []⟩ ["build"] := ⟨[], [], rfl, .nil, .nil⟩
    have hswitch : Writes leadingFlags [.switch .verbose] ["-v"] :=
      .fully (.strung (List.cons_ne_nil 'v' []) (.cons ⟨by decide, rfl, rfl⟩ .nil))
    have hverboseLine : Line.Spells ⟨[.switch .verbose], .build, []⟩ ["-v", "build"] :=
      ⟨["-v"], [], rfl, .flags hswitch .nil, .nil⟩
    have hverbose : Line.Accepted ⟨[.switch .verbose], .build, []⟩ none :=
      ⟨⟨by simp [Saying.Possible], by decide⟩, acceptable_nil _, by simp, by simp⟩
    obtain ⟨_, hstatus, _, hfailed, hquiet⟩ := (run_all_or_nothing harguments).2 _ hline
    have hfile : settingsFile unreadable none = some localSettings := by decide
    have hsettings : Stage.settings.Fails unreadable none .input
        (.settingsUnread localSettings .folder) := .settingsUnread hfile (by rfl)
    have hne : (run unreadable ["build"]).status ≠ 0 := by
      intro hzero
      obtain ⟨⟨settings, hloaded⟩, _⟩ := hstatus.mp hzero
      exact hloaded.not_fails hsettings
    obtain ⟨hone, hnothing, source, stage, failure, details, hfirst, hdetails, hmessages⟩ :=
      hfailed hne
    refine ⟨.unread (by rfl), hone, hnothing, ?_, ?_⟩
    · have hsettingsFirst : Request.FailsFirst unreadable none (.build none false none) .input
          .settings (.settingsUnread localSettings .folder) :=
        ⟨rfl, by simp [Request.stages], hsettings,
          fun _ _ hrank => absurd hrank (Nat.not_lt_zero _)⟩
      rw [hmessages, hfirst.failure_eq hsettingsFirst]
      rfl
    · exact (hquiet (some "trace") _ _ hverboseLine hverbose (by decide)).1.trans hone
  · have hapart : Invocation.ofArguments? readable.environment.settings apart
        = .ok ⟨some ⟨"s.toml"⟩, false, .build none false (some .json)⟩ := by decide
    have hapartLine : Line.Spells
        ⟨[.value .settings "s.toml"], .build, [.value .form "json"]⟩ apart := by
      have hlong : Names leadingFlags [] .settings "--config".toList := .long (by decide)
      have hsettings : Writes leadingFlags [.value .settings "s.toml"] ["--config", "s.toml"] :=
        .apart hlong rfl (by decide)
      have hshort : Names Action.build.flags [] .form "-f".toList := .short .nil (by decide) rfl
      have hform : Writes Action.build.flags [.value .form "json"] ["-f", "json"] :=
        .apart hshort rfl (by decide)
      exact ⟨["--config", "s.toml"], ["-f", "json"], rfl, .flags hsettings .nil,
        .flags hform .nil⟩
    have hjoinedLine : Line.Spells ⟨[.value .settings "s.toml"], .build,
        [.switch .verbose, .value .form "json"]⟩ joined := by
      have hsettings : Writes leadingFlags [.value .settings "s.toml"] ["--config=s.toml"] :=
        .fully (.equals (.long (by decide)) rfl "s.toml".toList)
      have hown : Writes Action.build.flags [.switch .verbose, .value .form "json"] ["-vfjson"] :=
        .fully (.joined (.cons ⟨by decide, rfl, rfl⟩ .nil) (by decide) rfl rfl (by decide)
          "son".toList)
      exact ⟨["--config=s.toml"], ["-vfjson"], rfl, .flags hsettings .nil, .flags hown .nil⟩
    have hjoined : Line.Accepted ⟨[.value .settings "s.toml"], .build,
        [.switch .verbose, .value .form "json"]⟩ none := by
      have hword : ∃ form : OutputForm, form.word = "json" := ⟨.json, rfl⟩
      exact ⟨⟨by simp [Saying.Possible], by decide⟩, ⟨by simp [Saying.Possible, hword], by decide⟩,
        by simp, by simp⟩
    obtain ⟨_, _, hbuild, _, hquiet⟩ := (run_all_or_nothing hapart).2 _ hapartLine
    have hstatus : (run readable apart).status = 0 := by decide +kernel
    obtain ⟨settings, text, query, hinForce, htext, hload, hprints⟩ := hbuild rfl hstatus
    obtain ⟨form, encoded, hform, hencoded, hshows⟩ := hprints
    have hsettings : (loadSettings readable (some ⟨"s.toml"⟩)).result = .ok ⟨⟨false, .plain⟩⟩ := by
      decide +kernel
    cases (loadSettings_eq_ok_iff.mpr hinForce).symm.trans hsettings
    have hread : readable.inputText = .ok "\x7b\"table\":\"a b\"\x7d" := by decide +kernel
    cases htext.symm.trans hread
    have hquery : Query.load? .json "\x7b\"table\":\"a b\"\x7d" = .ok (.ofTable "a b") := by
      decide +kernel
    cases hload.symm.trans hquery
    cases OutputForm.word_injective (hform.trans rfl : form.word = OutputForm.word .json)
    have hplain : encoded = false := by
      simpa [Line.UrlSafe] using hencoded
    subst hplain
    have hrender : (Query.ofTable "a b").render false = "@a b" := by decide +kernel
    rw [hrender] at hshows
    obtain ⟨hsame, houtput⟩ := hquiet (some "trace") _ _ hjoinedLine hjoined (by decide)
    exact ⟨hstatus, by decide +kernel, hshows, hsame.trans hstatus, houtput⟩

end

end CompactQuery.Command
