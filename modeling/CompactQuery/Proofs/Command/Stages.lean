import CompactQuery.Command.Program
import CompactQuery.Proofs.Failing
import CompactQuery.Proofs.Query.Loading
import CompactQuery.Proofs.Query.Replay

/-!
# Stages — what a run goes through, and what fails first

A run goes through its stages in order: the settings, the text of the description, the query that it
describes, and the chain of its filter. The first that fails is the failure of the whole, and the
whole succeeds if all of them do.

* **`Report.result_bind`** — the result of a report behind another one; the events on the way do not
  matter to it.
* **`Stage`**, **`Stage.Fails`** — what can fail, and with which failure; **`Stage.lead`** — how the
  message of such a failure begins.
* **`SettingsInForce`**, **`Describes`** — what the stages come to if they succeed.
* **`loadSettings_eq_ok_iff`**, **`loadQuery_eq_ok_iff`** and the same for failures — stage after
  stage.
* **`Request.Succeeds`**, **`succeeds_iff`** — all stages of a request succeed.
* **`Request.FailsFirst`**, **`exists_failsFirst`** — one fails, and none before it.
-/

namespace CompactQuery.Command

/-! ## Results of reports -/

namespace Report

variable {α β : Type}

theorem result_bind (report : Report α) (next : α → Report β) :
    (report >>= next).result = report.result >>= fun a => (next a).result := by
  change (report.andThen next).result = _
  unfold andThen
  cases report.result <;> rfl

@[simp] theorem result_pure (a : α) : (pure a : Report α).result = .ok a := rfl

@[simp] theorem result_tell (events : List Event) : (tell events).result = .ok () := rfl

@[simp] theorem result_ofExcept {ε : Type} (failure : ε → Failure) (x : Except ε α) :
    (ofExcept failure x).result = x.mapError failure := by
  cases x <;> rfl

end Report

/-! ## Stages and their failures -/

/-- A part of a run that can fail. -/
inductive Stage where
  /-- The settings are found, read and understood. -/
  | settings
  /-- The text of the description is read. -/
  | reading
  /-- The text describes a query. -/
  | description
  /-- The connectors of its filter fit their places. -/
  | chain
deriving Repr, DecidableEq

/-- The place of a stage in the order of all. -/
def Stage.rank : Stage → Nat
  | .settings => 0
  | .reading => 1
  | .description => 2
  | .chain => 3

theorem Stage.rank_injective : Function.Injective Stage.rank := by
  intro a b h
  cases a <;> cases b <;> first | rfl | exact nomatch h

/-- How the message of a failure begins. -/
def Stage.lead (source : Source) : Stage → String
  | .settings => "Failed to load config: "
  | .reading => "Failed to read " ++ source.name ++ ": "
  | .description => source.format.name ++ " error: "
  | .chain => "Sequence error: "

/-- The stage fails, with the settings file that is named and the source of the description. -/
inductive Stage.Fails (here : Surroundings) (named : Option Path) (source : Source) :
    Stage → Failure → Prop where
  | settingsUnread {path : Path} {reason : ReadFailure}
      (hfile : settingsFile here named = some path) (htext : here.text path = .error reason) :
      Fails here named source .settings (.settingsUnread path reason)
  | settingsWrong {path : Path} {text : String} {error : LoadError}
      (hfile : settingsFile here named = some path) (htext : here.text path = .ok text)
      (hload : Settings.load? text = .error error) :
      Fails here named source .settings (.settingsWrong error)
  | unread {reason : ReadFailure} (htext : source.text here = .error reason) :
      Fails here named source .reading (.descriptionUnread source reason)
  | undescribed {text : String} {error : LoadError} (htext : source.text here = .ok text)
      (hread : Shaped.read? Query source.format text = .error error) :
      Fails here named source .description (.descriptionWrong error)
  | unlinked {text : String} {described : Query} {fault : ChainFault}
      (htext : source.text here = .ok text)
      (hread : Shaped.read? Query source.format text = .ok described)
      (hreplay : described.replay? = .error fault) :
      Fails here named source .chain (.descriptionWrong (.sequence fault))

/-- The source of the description that a request needs, if it needs one. -/
def Request.source? : Request → Option Source
  | .build file _ _ => some (.ofOperand file)
  | .explain file => some (.ofOperand file)
  | .decode _ => none
  | .symbols => none

/-- The stages of a request, in their order. -/
def Request.stages : Request → List Stage
  | .build .. => [.settings, .reading, .description, .chain]
  | .explain _ => [.reading, .description, .chain]
  | .decode _ => []
  | .symbols => []

/-! ## The settings -/

/-- The settings of the file in force, or the usual ones if there is none. -/
inductive SettingsInForce (here : Surroundings) (named : Option Path) : Settings → Prop where
  | usual (hfile : settingsFile here named = none) : SettingsInForce here named {}
  | loaded {path : Path} {text : String} {settings : Settings}
      (hfile : settingsFile here named = some path) (htext : here.text path = .ok text)
      (hload : Settings.load? text = .ok settings) : SettingsInForce here named settings

theorem result_loadSettings (here : Surroundings) (named : Option Path) :
    (loadSettings here named).result =
      match settingsFile here named with
      | none => .ok {}
      | some path =>
        (here.text path).mapError (Failure.settingsUnread path) >>= fun text =>
          (Settings.load? text).mapError Failure.settingsWrong := by
  unfold loadSettings
  cases settingsFile here named with
  | none => rfl
  | some path =>
      simp only [Report.result_bind, Report.result_tell, Report.result_ofExcept]
      rfl

theorem loadSettings_eq_ok_iff {here : Surroundings} {named : Option Path} {settings : Settings} :
    (loadSettings here named).result = .ok settings ↔ SettingsInForce here named settings := by
  rw [result_loadSettings]
  constructor
  · intro h
    split at h
    · cases h
      exact .usual ‹_›
    · obtain ⟨text, htext, hload⟩ := Except.bind_eq_ok.mp h
      exact .loaded ‹_› (Except.mapError_eq_ok.mp htext) (Except.mapError_eq_ok.mp hload)
  · intro h
    cases h with
    | usual hfile => rw [hfile]
    | loaded hfile htext hload =>
        rw [hfile]
        exact Except.bind_eq_ok.mpr
          ⟨_, Except.mapError_eq_ok.mpr htext, Except.mapError_eq_ok.mpr hload⟩

theorem loadSettings_eq_error_iff {here : Surroundings} {named : Option Path} {source : Source}
    {failure : Failure} :
    (loadSettings here named).result = .error failure ↔
      Stage.Fails here named source .settings failure := by
  rw [result_loadSettings]
  constructor
  · intro h
    split at h
    · exact nomatch h
    · rcases Except.bind_eq_error.mp h with htext | ⟨text, htext, hload⟩
      · obtain ⟨reason, hreason, rfl⟩ := Except.mapError_eq_error.mp htext
        exact .settingsUnread ‹_› hreason
      · obtain ⟨error, herror, rfl⟩ := Except.mapError_eq_error.mp hload
        exact .settingsWrong ‹_› (Except.mapError_eq_ok.mp htext) herror
  · intro h
    cases h with
    | settingsUnread hfile htext =>
        rw [hfile]
        exact Except.bind_eq_error.mpr (.inl (Except.mapError_eq_error.mpr ⟨_, htext, rfl⟩))
    | settingsWrong hfile htext hload =>
        rw [hfile]
        exact Except.bind_eq_error.mpr (.inr
          ⟨_, Except.mapError_eq_ok.mpr htext, Except.mapError_eq_error.mpr ⟨_, hload, rfl⟩⟩)

/-! ## The query -/

/-- The source holds a description whose filter has connectors that fit their places. -/
structure Describes (here : Surroundings) (source : Source) (text : String) (described : Query) :
    Prop where
  reads : source.text here = .ok text
  describes : Shaped.read? Query source.format text = .ok described
  linked : WellLinked described.conditions

theorem result_loadQuery (here : Surroundings) (source : Source) :
    (loadQuery here source).result =
      (source.text here).mapError (Failure.descriptionUnread source) >>= fun text =>
        (Query.load? source.format text).mapError Failure.descriptionWrong := by
  unfold loadQuery
  simp only [Report.result_bind, Report.result_tell, Report.result_ofExcept]
  rfl

theorem loadQuery_eq_ok_iff {here : Surroundings} {source : Source} {query : Query} :
    (loadQuery here source).result = .ok query ↔
      ∃ text, source.text here = .ok text ∧ Query.load? source.format text = .ok query := by
  rw [result_loadQuery, Except.bind_eq_ok]
  simp only [Except.mapError_eq_ok]

/-- The query is loaded just if all stages behind the settings succeed. -/
theorem exists_loadQuery_iff {here : Surroundings} {source : Source} :
    (∃ query, (loadQuery here source).result = .ok query) ↔
      ∃ text described, Describes here source text described := by
  constructor
  · rintro ⟨query, h⟩
    obtain ⟨text, htext, hload⟩ := loadQuery_eq_ok_iff.mp h
    cases hread : Shaped.read? Query source.format text with
    | error error =>
        rw [Query.load?_of_read?_error hread] at hload
        exact nomatch hload
    | ok described =>
        rw [Query.load?_of_read?_ok hread, Except.mapError_eq_ok] at hload
        exact ⟨text, described, htext, hread, (Query.replay?_eq_ok_iff.mp hload).1⟩
  · rintro ⟨text, described, h⟩
    refine ⟨described.stored, loadQuery_eq_ok_iff.mpr ⟨text, h.reads, ?_⟩⟩
    rw [Query.load?_of_read?_ok h.describes, Except.mapError_eq_ok]
    exact Query.replay?_eq_ok_iff.mpr ⟨h.linked, rfl⟩

theorem loadQuery_eq_error_iff {here : Surroundings} {named : Option Path} {source : Source}
    {failure : Failure} :
    (loadQuery here source).result = .error failure ↔
      ∃ stage ≠ Stage.settings, stage.Fails here named source failure := by
  rw [result_loadQuery]
  constructor
  · intro h
    rcases Except.bind_eq_error.mp h with htext | ⟨text, htext, hload⟩
    · obtain ⟨reason, hreason, rfl⟩ := Except.mapError_eq_error.mp htext
      exact ⟨.reading, by simp, .unread hreason⟩
    · obtain ⟨error, herror, rfl⟩ := Except.mapError_eq_error.mp hload
      have htext := Except.mapError_eq_ok.mp htext
      cases hread : Shaped.read? Query source.format text with
      | error cause =>
          rw [Query.load?_of_read?_error hread] at herror
          cases herror
          exact ⟨.description, by simp, .undescribed htext hread⟩
      | ok described =>
          rw [Query.load?_of_read?_ok hread] at herror
          obtain ⟨fault, hreplay, rfl⟩ := Except.mapError_eq_error.mp herror
          exact ⟨.chain, by simp, .unlinked htext hread hreplay⟩
  · rintro ⟨stage, hstage, h⟩
    cases h with
    | settingsUnread | settingsWrong => exact absurd rfl hstage
    | unread htext =>
        exact Except.bind_eq_error.mpr (.inl (Except.mapError_eq_error.mpr ⟨_, htext, rfl⟩))
    | undescribed htext hread =>
        exact Except.bind_eq_error.mpr (.inr ⟨_, Except.mapError_eq_ok.mpr htext,
          Except.mapError_eq_error.mpr ⟨_, Query.load?_of_read?_error hread, rfl⟩⟩)
    | unlinked htext hread hreplay =>
        refine Except.bind_eq_error.mpr (.inr ⟨_, Except.mapError_eq_ok.mpr htext,
          Except.mapError_eq_error.mpr ⟨_, ?_, rfl⟩⟩)
        rw [Query.load?_of_read?_ok hread]
        exact Except.mapError_eq_error.mpr ⟨_, hreplay, rfl⟩

/-! ## The first failure -/

/-- The stage that a failure is of. -/
def Failure.stage : Failure → Stage
  | .settingsUnread .. => .settings
  | .settingsWrong _ => .settings
  | .descriptionUnread .. => .reading
  | .descriptionWrong (.text ..) => .description
  | .descriptionWrong (.sequence _) => .chain

section

variable {here : Surroundings} {named : Option Path} {source : Source} {stage : Stage}
  {failure : Failure}

theorem Stage.Fails.stage_eq (h : stage.Fails here named source failure) :
    failure.stage = stage := by
  cases h with
  | settingsUnread | settingsWrong | unread | unlinked => rfl
  | undescribed htext hread =>
      obtain ⟨fault, _, rfl⟩ := Shaped.read?_eq_error_iff.mp hread
      rfl

/-- Behind the settings at most one stage fails: the later ones need what the earlier ones give. -/
theorem Stage.Fails.unique (h : stage.Fails here named source failure) {other : Stage}
    {cause : Failure} (h' : other.Fails here named source cause) (hstage : stage ≠ .settings)
    (hother : other ≠ .settings) : stage = other := by
  have hresult := loadQuery_eq_error_iff.mpr ⟨stage, hstage, h⟩
  rw [loadQuery_eq_error_iff.mpr ⟨other, hother, h'⟩] at hresult
  cases hresult
  exact h.stage_eq.symm.trans h'.stage_eq

/-- So the one that fails comes after none of the others that does. -/
theorem Stage.Fails.first (h : stage.Fails here named source failure) (hstage : stage ≠ .settings)
    {earlier : Stage} (hearlier : earlier ≠ .settings) (hrank : earlier.rank < stage.rank)
    {cause : Failure} : ¬ earlier.Fails here named source cause := by
  intro h'
  rw [h.unique h' hstage hearlier] at hrank
  exact Nat.lt_irrefl _ hrank

theorem SettingsInForce.not_fails {settings : Settings} (h : SettingsInForce here named settings) :
    ¬ Stage.settings.Fails here named source failure := by
  intro h'
  have hresult := loadSettings_eq_error_iff.mpr h'
  rw [loadSettings_eq_ok_iff.mpr h] at hresult
  exact nomatch hresult

/-- A stage fails in one way only. -/
theorem Stage.Fails.failure_eq (h : stage.Fails here named source failure) {failure' : Failure}
    (h' : stage.Fails here named source failure') : failure = failure' := by
  by_cases hstage : stage = .settings
  · subst hstage
    have hresult := loadSettings_eq_error_iff.mpr h
    rw [loadSettings_eq_error_iff.mpr h'] at hresult
    cases hresult
    rfl
  · have hresult := loadQuery_eq_error_iff.mpr ⟨stage, hstage, h⟩
    rw [loadQuery_eq_error_iff.mpr ⟨stage, hstage, h'⟩] at hresult
    cases hresult
    rfl

/-- The message says which stage failed. -/
theorem Stage.Fails.exists_lead (h : stage.Fails here named source failure) :
    ∃ details, failure.message = stage.lead source ++ details := by
  cases h with
  | @settingsUnread path reason =>
      refine ⟨"Configuration error: Failed to read " ++ path.text ++ ": " ++ reason.message, ?_⟩
      rw [← String.append_assoc, ← String.append_assoc, ← String.append_assoc]
      rfl
  | @settingsWrong path text error => exact ⟨chained error, rfl⟩
  | @unread reason => exact ⟨reason.message, rfl⟩
  | @undescribed text error htext hread =>
      obtain ⟨fault, _, rfl⟩ := Shaped.read?_eq_error_iff.mp hread
      refine ⟨fault.message ++ (": " ++ fault.message), ?_⟩
      rw [← String.append_assoc, ← String.append_assoc]
      rfl
  | @unlinked text described fault =>
      refine ⟨fault.message ++ (": " ++ fault.message), ?_⟩
      rw [← String.append_assoc, ← String.append_assoc]
      rfl

/-- The stage is the first of a request that fails. -/
structure Request.FailsFirst (here : Surroundings) (named : Option Path) (request : Request)
    (source : Source) (stage : Stage) (failure : Failure) : Prop where
  needs : request.source? = some source
  among : stage ∈ request.stages
  fails : stage.Fails here named source failure
  first : ∀ earlier ∈ request.stages, earlier.rank < stage.rank →
    ∀ cause, ¬ earlier.Fails here named source cause

theorem Request.FailsFirst.failure_eq {request : Request}
    (h : request.FailsFirst here named source stage failure) {source' : Source} {stage' : Stage}
    {failure' : Failure} (h' : request.FailsFirst here named source' stage' failure') :
    failure = failure' := by
  have hsource : source = source' := Option.some.inj (h.needs.symm.trans h'.needs)
  subst hsource
  have hnot : ¬ stage.rank < stage'.rank := fun hrank => h'.first stage h.among hrank _ h.fails
  have hnot' : ¬ stage'.rank < stage.rank := fun hrank => h.first stage' h'.among hrank _ h'.fails
  have hstage : stage = stage' := Stage.rank_injective (by omega)
  subst hstage
  exact h.fails.failure_eq h'.fails

end

/-! ## Requests -/

/-- All stages of a request succeed. -/
def Request.Succeeds (here : Surroundings) (named : Option Path) : Request → Prop
  | .build file _ _ =>
    (∃ settings, SettingsInForce here named settings) ∧
      ∃ text described, Describes here (.ofOperand file) text described
  | .explain file => ∃ text described, Describes here (.ofOperand file) text described
  | .decode _ => True
  | .symbols => True

section

variable {here : Surroundings} {named : Option Path} {file : Option Path} {urlSafe : Bool}
  {form : Option OutputForm}

theorem result_build :
    (build here named file urlSafe form).result =
      (loadSettings here named).result >>= fun settings =>
        (loadQuery here (.ofOperand file)).result >>= fun query =>
          .ok [.plain (resultText (form.getD settings.output.form)
            (urlSafe || settings.output.urlSafe)
            (query.render (urlSafe || settings.output.urlSafe)))] := by
  unfold build render
  simp only [Report.result_bind, Report.result_tell, Report.result_pure]
  rfl

theorem result_explain :
    (explain here file).result =
      (loadQuery here (.ofOperand file)).result >>= fun query => .ok (listing query) := by
  unfold explain render
  simp only [Report.result_bind, Report.result_tell, Report.result_pure]
  rfl

/-- **A request fails with the failure of its first stage that fails.** -/
theorem exists_failsFirst {request : Request} {failure : Failure}
    (h : (perform here named request).result = .error failure) :
    ∃ source stage, request.FailsFirst here named source stage failure := by
  cases request with
  | decode text | symbols => cases h
  | build file urlSafe form =>
      rw [perform, result_build] at h
      rcases Except.bind_eq_error.mp h with hsettings | ⟨settings, hsettings, h⟩
      · -- no stage comes before the settings
        refine ⟨.ofOperand file, .settings, rfl, by simp [Request.stages],
          loadSettings_eq_error_iff.mp hsettings, ?_⟩
        intro earlier _ hrank
        exact absurd hrank (Nat.not_lt_zero _)
      · -- the settings are in force, so it is a stage behind them that fails
        rcases Except.bind_eq_error.mp h with hquery | ⟨query, _, h⟩
        · obtain ⟨stage, hstage, hfails⟩ := loadQuery_eq_error_iff.mp hquery
          refine ⟨.ofOperand file, stage, rfl, ?_, hfails, ?_⟩
          · cases stage <;> simp [Request.stages]
          · intro earlier _ hrank cause hcause
            by_cases hearlier : earlier = .settings
            · subst hearlier
              exact (loadSettings_eq_ok_iff.mp hsettings).not_fails hcause
            · exact hfails.first hstage hearlier hrank hcause
        · cases h
  | explain file =>
      rw [perform, result_explain] at h
      -- the settings are none of the stages, and of the others at most one fails
      rcases Except.bind_eq_error.mp h with hquery | ⟨query, _, h⟩
      · obtain ⟨stage, hstage, hfails⟩ := loadQuery_eq_error_iff.mp hquery
        refine ⟨.ofOperand file, stage, rfl, ?_, hfails, ?_⟩
        · cases stage <;> simp [Request.stages] at hstage ⊢
        · intro earlier hearlier hrank cause hcause
          have hbehind : earlier ≠ .settings := by
            rintro rfl
            simp [Request.stages] at hearlier
          exact hfails.first hstage hbehind hrank hcause
      · cases h

/-- What `build` prints is the whole rendering of the query that the text of the source loads. -/
theorem build_eq_ok_iff {spans : List Span} :
    (perform here named (.build file urlSafe form)).result = .ok spans ↔
      ∃ settings text query, SettingsInForce here named settings ∧
        (Source.ofOperand file).text here = .ok text ∧
        Query.load? (Source.ofOperand file).format text = .ok query ∧
        spans = [.plain (resultText (form.getD settings.output.form)
          (urlSafe || settings.output.urlSafe)
          (query.render (urlSafe || settings.output.urlSafe)))] := by
  rw [perform, result_build, Except.bind_eq_ok]
  constructor
  · rintro ⟨settings, hsettings, h⟩
    obtain ⟨query, hquery, h⟩ := Except.bind_eq_ok.mp h
    obtain ⟨text, htext, hload⟩ := loadQuery_eq_ok_iff.mp hquery
    cases h
    exact ⟨settings, text, query, loadSettings_eq_ok_iff.mp hsettings, htext, hload, rfl⟩
  · rintro ⟨settings, text, query, hsettings, htext, hload, rfl⟩
    exact ⟨settings, loadSettings_eq_ok_iff.mpr hsettings,
      Except.bind_eq_ok.mpr ⟨query, loadQuery_eq_ok_iff.mpr ⟨text, htext, hload⟩, rfl⟩⟩

/-- **A request succeeds just if all of its stages do.** -/
theorem succeeds_iff {request : Request} :
    (∃ spans, (perform here named request).result = .ok spans) ↔ request.Succeeds here named := by
  cases request with
  | decode text | symbols => exact ⟨fun _ => trivial, fun _ => ⟨_, rfl⟩⟩
  | build file urlSafe form =>
      rw [perform, result_build, Request.Succeeds, ← exists_loadQuery_iff]
      constructor
      · rintro ⟨spans, h⟩
        obtain ⟨settings, hsettings, h⟩ := Except.bind_eq_ok.mp h
        obtain ⟨query, hquery, _⟩ := Except.bind_eq_ok.mp h
        exact ⟨⟨settings, loadSettings_eq_ok_iff.mp hsettings⟩, query, hquery⟩
      · rintro ⟨⟨settings, hsettings⟩, query, hquery⟩
        exact ⟨_, Except.bind_eq_ok.mpr ⟨settings, loadSettings_eq_ok_iff.mpr hsettings,
          Except.bind_eq_ok.mpr ⟨query, hquery, rfl⟩⟩⟩
  | explain file =>
      rw [perform, result_explain, Request.Succeeds, ← exists_loadQuery_iff]
      constructor
      · rintro ⟨spans, h⟩
        obtain ⟨query, hquery, _⟩ := Except.bind_eq_ok.mp h
        exact ⟨query, hquery⟩
      · rintro ⟨query, hquery⟩
        exact ⟨_, Except.bind_eq_ok.mpr ⟨query, hquery, rfl⟩⟩

end

end CompactQuery.Command
