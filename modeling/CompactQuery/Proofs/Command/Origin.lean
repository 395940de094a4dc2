import CompactQuery.Proofs.Command.Forms
import CompactQuery.Proofs.Command.Naming

/-!
# Origin — where a description is read, and in which format

A request that needs a description names a file, or nothing. By the rule, nothing and a dash stand
for the input, and any other text for a file, which is in TOML if the text ends in `.toml` and in
JSON else. Paths are compared by their parts, though, so a dash with a trail behind it stands for the
input as well; and a name that is nothing but an extension has none, so a file called `.toml` is
taken for JSON. These are all the operands for which the rule fails.

* **`AsksAbout`** — the command lines that need the description that an operand names.
* **`MindsInput`**, **`TakesFor`** — what tells from outside where a description was read, and how.
* **`ReadBy`** — any such run reads the input, TOML or JSON just as two conditions on the operand say.
* **`readBy_isDash`** — the conditions by which every operand is read.
* **`description_origin`** — those, and the operands for which the rule gives the same.
-/

namespace CompactQuery.Command

/-! ## Requests about a description -/

/-- The operand of a request that needs a description. -/
def Request.operand? : Request → Option (Option Path)
  | .build file _ _ => some file
  | .explain file => some file
  | .decode _ => none
  | .symbols => none

/-- What a request prints of the query that is described, with the settings in force. -/
def Request.answer (request : Request) (settings : Settings) (query : Query) : List Span :=
  match request with
  | .build _ urlSafe form =>
    [.plain (resultText (form.getD settings.output.form) (urlSafe || settings.output.urlSafe)
      (query.render (urlSafe || settings.output.urlSafe)))]
  | .explain _ => listing query
  | .decode text => [.plain (Percent.decode text ++ "\n")]
  | .symbols => sigilTable

/-- The command line needs the description that an operand names, and gets as far as to read it. What
it prints then is the answer. -/
def AsksAbout (here : Surroundings) (arguments : List String) (file : Option Path)
    (answer : Query → List Span) : Prop :=
  ∃ invocation settings,
    Invocation.ofArguments? here.environment.settings arguments = .ok invocation ∧
    invocation.request.operand? = some file ∧
    (Stage.settings ∈ invocation.request.stages →
      SettingsInForce here invocation.settings settings) ∧
    invocation.request.answer settings = answer

theorem result_perform {here : Surroundings} {named file : Option Path} {request : Request}
    {settings : Settings} (hfile : request.operand? = some file)
    (hsettings : Stage.settings ∈ request.stages → SettingsInForce here named settings) :
    (perform here named request).result =
      (loadQuery here (.ofOperand file)).result >>= fun query =>
        .ok (request.answer settings query) := by
  cases request with
  | build file' urlSafe form =>
      cases hfile
      have hload := loadSettings_eq_ok_iff.mpr (hsettings (by simp [Request.stages]))
      rw [perform, result_build, hload]
      rfl
  | explain file' =>
      cases hfile
      rw [perform, result_explain]
      rfl
  | decode text => cases hfile
  | symbols => cases hfile

/-! ## What tells where a description was read -/

def Surroundings.withInput (here : Surroundings) (input : Except ReadFailure ByteArray) :
    Surroundings :=
  { here with input }

/-- It makes a difference what the input is. -/
def MindsInput (here : Surroundings) (arguments : List String) : Prop :=
  ∃ input other, run (here.withInput input) arguments ≠ run (here.withInput other) arguments

/-- The run takes the text for the description, in that format: it answers with the query that the
text loads, or fails with the reason why it loads none. -/
structure TakesFor (here : Surroundings) (arguments : List String) (answer : Query → List Span)
    (format : Format) (text : String) : Prop where
  accepted : ∀ query, Query.load? format text = .ok query →
    (run here arguments).status = 0 ∧
      (run here arguments).output = shownAll here.colours (answer query)
  refused : ∀ error, Query.load? format text = .error error →
    (run here arguments).status = 1 ∧ (run here arguments).output = "" ∧
      ∃ log, (run here arguments).messages =
        log ++ (Span.styled .boldRed "Error:").shown here.colours ++ " "
          ++ (Failure.descriptionWrong error).message ++ "\n"

section

variable {here : Surroundings} {arguments : List String} {file : Option Path}
  {answer : Query → List Span} {text : String}

/-- **The text of the source is taken for the description, in the format of the source.** -/
theorem AsksAbout.takesFor (h : AsksAbout here arguments file answer)
    (htext : (Source.ofOperand file).text here = .ok text) :
    TakesFor here arguments answer (Source.ofOperand file).format text := by
  obtain ⟨invocation, settings, harguments, hfile, hsettings, rfl⟩ := h
  have hresult : (perform here invocation.settings invocation.request).result =
      (Query.load? (Source.ofOperand file).format text).mapError Failure.descriptionWrong >>=
        fun query => .ok (invocation.request.answer settings query) := by
    rw [result_perform hfile hsettings, result_loadQuery, htext]
    rfl
  constructor
  · intro query hload
    rw [hload] at hresult
    rw [run_of_invocation harguments, Report.outcome_of_ok hresult]
    dsimp only
    exact ⟨rfl, rfl⟩
  · intro error hload
    rw [hload] at hresult
    rw [run_of_invocation harguments, Report.outcome_of_error hresult]
    exact ⟨rfl, rfl, _, rfl⟩

theorem AsksAbout.withInput (h : AsksAbout here arguments file answer)
    (input : Except ReadFailure ByteArray) :
    AsksAbout (here.withInput input) arguments file answer := by
  obtain ⟨invocation, settings, harguments, hfile, hsettings, hanswer⟩ := h
  refine ⟨invocation, settings, harguments, hfile, fun hstage => ?_, hanswer⟩
  -- no settings are read from the input
  cases hsettings hstage with
  | usual hnone => exact .usual hnone
  | loaded hsome htext hload => exact .loaded hsome htext hload

theorem AsksAbout.run_withInput {path : Path} (h : AsksAbout here arguments file answer)
    (hsource : Source.ofOperand file = .file path) (input : Except ReadFailure ByteArray) :
    run (here.withInput input) arguments = run here arguments := by
  obtain ⟨invocation, settings, harguments, hfile, -, -⟩ := h
  have hquery : loadQuery (here.withInput input) (.ofOperand file)
      = loadQuery here (.ofOperand file) := by
    rw [hsource]
    rfl
  -- neither the settings nor a file are read from the input
  have hperform : perform (here.withInput input) invocation.settings invocation.request
      = perform here invocation.settings invocation.request := by
    cases hrequest : invocation.request with
    | build file' urlSafe form =>
        rw [hrequest] at hfile
        cases hfile
        simp only [perform, build, hquery]
        rfl
    | explain file' =>
        rw [hrequest] at hfile
        cases hfile
        simp only [perform, explain, hquery]
    | decode text => rfl
    | symbols => rfl
  have harguments' : Invocation.ofArguments? (here.withInput input).environment.settings arguments
      = .ok invocation := harguments
  rw [run_of_invocation harguments', run_of_invocation harguments, hperform]
  rfl

theorem ofOperand_eq_input_iff {file : Option Path} :
    Source.ofOperand file = .input ↔ ∀ path ∈ file, path.IsDash := by
  cases file with
  | none => exact ⟨fun _ => nofun, fun _ => rfl⟩
  | some path =>
      simp only [Source.ofOperand, Option.mem_some_iff, forall_eq', ← Path.same_dash_iff]
      split
      · exact iff_of_true rfl ‹_›
      · exact iff_of_false nofun ‹_›

/-- **A run minds the input just if its operand is nothing or a dash, trails apart.** A text that
describes a query and one that does not lead to runs with different status. -/
theorem AsksAbout.mindsInput_iff (h : AsksAbout here arguments file answer) :
    MindsInput here arguments ↔ ∀ path ∈ file, path.IsDash := by
  rw [← ofOperand_eq_input_iff]
  constructor
  · rintro ⟨input, other, hne⟩
    cases hsource : Source.ofOperand file with
    | input => rfl
    | file path => exact (hne ((h.run_withInput hsource input).trans
        (h.run_withInput hsource other).symm)).elim
  · intro hsource
    have htext {text : String} {input : ByteArray} (hinput : readText input = .ok text) :
        (Source.ofOperand file).text (here.withInput (.ok input)) = .ok text := by
      rw [hsource]
      exact hinput
    have hformat : (Source.ofOperand file).format = .json := by
      rw [hsource]
      rfl
    -- one text that describes a query, and one that describes none
    have hdescription : readText "[\"t\"]".toUTF8 = .ok "[\"t\"]" := by decide +kernel
    have hnothing : readText ByteArray.empty = .ok "" := by decide +kernel
    have hload : Query.load? .json "[\"t\"]" = .ok (.ofTable "t") := by decide +kernel
    have hload' : Query.load? .json "" = .error (.text .json (.defect .unfinished)) := by
      decide +kernel
    have hgood := ((h.withInput _).takesFor (htext hdescription)).accepted _ (hformat ▸ hload)
    have hbad := ((h.withInput _).takesFor (htext hnothing)).refused _ (hformat ▸ hload')
    refine ⟨.ok "[\"t\"]".toUTF8, .ok .empty, fun heq => ?_⟩
    have hstatus := congrArg Outcome.status heq
    rw [hgood.1, hbad.1] at hstatus
    exact nomatch hstatus

end

/-! ## The rule -/

/-- Every path of a file ends in the name of the file. -/
def Surroundings.FilesAreNamed (here : Surroundings) : Prop :=
  ∀ path content, here.files path = .ok content → path.NamesFile

/-- Any run that needs the description which the operand names reads the input just if the first
condition holds, and then takes it for JSON; of any other operand it takes the text of the file, for
TOML just if the second condition holds. -/
def ReadBy (standsForInput isToml : Path → Prop) (file : Option Path) : Prop :=
  ∀ (here : Surroundings) (arguments : List String) (answer : Query → List Span),
    here.FilesAreNamed → AsksAbout here arguments file answer →
      (MindsInput here arguments ↔ ∀ path ∈ file, standsForInput path) ∧
      ((∀ path ∈ file, standsForInput path) → ∀ text, here.inputText = .ok text →
        TakesFor here arguments answer .json text) ∧
      ∀ path ∈ file, ¬ standsForInput path → ∀ text, here.text path = .ok text →
        (isToml path → TakesFor here arguments answer .toml text) ∧
        (¬ isToml path → TakesFor here arguments answer .json text)

theorem ReadBy.congr {standsForInput standsForInput' isToml isToml' : Path → Prop}
    {file : Option Path} (hinput : ∀ path ∈ file, (standsForInput path ↔ standsForInput' path))
    (htoml : ∀ path ∈ file, (isToml path ↔ isToml' path)) (h : ReadBy standsForInput isToml file) :
    ReadBy standsForInput' isToml' file := by
  intro here arguments answer hnamed hasks
  have hall : (∀ path ∈ file, standsForInput path) ↔ ∀ path ∈ file, standsForInput' path :=
    forall₂_congr hinput
  obtain ⟨hminds, hstands, hfile⟩ := h here arguments answer hnamed hasks
  refine ⟨hminds.trans hall, fun h => hstands (hall.mpr h), ?_⟩
  intro path hpath hnot text htext
  obtain ⟨hyes, hno⟩ := hfile path hpath (mt (hinput path hpath).mp hnot) text htext
  exact ⟨fun h => hyes ((htoml path hpath).mpr h), fun h => hno (mt (htoml path hpath).mp h)⟩

/-- Surroundings with nothing in them but files in a tree and an input. -/
def Surroundings.ofTree (tree : FileTree) (input : String) : Surroundings where
  environment := {}
  files := tree.read []
  input := .ok input.toUTF8
  terminal := false

theorem filesAreNamed_ofTree (tree : FileTree) (input : String) :
    (Surroundings.ofTree tree input).FilesAreNamed :=
  fun _ _ => FileTree.namesFile_of_read

namespace Path

def EndsInToml (path : Path) : Prop := ".toml".toList <:+ path.text.toList

/-- The name is an extension and nothing else. -/
def IsBareToml (path : Path) : Prop := path.name = ".toml".toList

section

variable {path : Path}

theorem isDash_of_text (h : path.text = "-") : path.IsDash := by
  refine ⟨[], ?_, .nil⟩
  rw [h]
  rfl

theorem IsBareToml.endsInToml (h : path.IsBareToml) : path.EndsInToml := by
  rw [EndsInToml, ← show path.name = ".toml".toList from h]
  exact List.rtakeWhile_suffix _ _

theorem IsBareToml.namesFile (h : path.IsBareToml) : path.NamesFile := by
  rw [NamesFile, show path.name = ".toml".toList from h]
  decide

theorem IsBareToml.not_isDash (h : path.IsBareToml) : ¬ path.IsDash := by
  intro hdash
  -- a dash has one part, which is its name
  have hparts : path.parts = [['-']] := by
    have hsame := same_dash_iff.mpr hdash
    rw [same, Bool.and_eq_true, decide_eq_true_iff, decide_eq_true_iff] at hsame
    exact hsame.2
  have hname := h.namesFile.fileName?_eq
  rw [fileName?, hparts, show path.name = ".toml".toList from h] at hname
  revert hname
  decide

end

end Path

/-- **How every operand is read.** -/
theorem readBy_isDash (file : Option Path) :
    ReadBy Path.IsDash (fun path => path.EndsInToml ∧ ¬ path.IsBareToml) file := by
  intro here arguments answer hnamed hasks
  refine ⟨hasks.mindsInput_iff, ?_, ?_⟩
  · intro hdash text htext
    have hsource := ofOperand_eq_input_iff.mpr hdash
    have htext' : (Source.ofOperand file).text here = .ok text := by
      rw [hsource]
      exact htext
    have htakes := hasks.takesFor htext'
    rw [hsource] at htakes
    exact htakes
  · rintro path rfl hnot text htext
    have hsource : Source.ofOperand (some path) = .file path := by
      rw [Source.ofOperand, if_neg (mt Path.same_dash_iff.mp hnot)]
    have htext' : (Source.ofOperand (some path)).text here = .ok text := by
      rw [hsource]
      exact htext
    have htakes := hasks.takesFor htext'
    rw [hsource] at htakes
    -- there is a file, so its extension can be read off the path
    obtain ⟨content, hcontent, -⟩ := Except.bind_eq_ok.mp htext
    have hextension : path.extension? = some "toml".toList ↔
        path.EndsInToml ∧ ¬ path.IsBareToml :=
      (hnamed path content hcontent).extension?_eq_some_iff (by decide) (by decide)
    refine ⟨fun h => ?_, fun h => ?_⟩
    · rw [Source.format, if_pos (hextension.mpr h)] at htakes
      exact htakes
    · rw [Source.format, if_neg (mt hextension.mp h)] at htakes
      exact htakes

/-! ## Where the rule fails -/

theorem asksAbout_explain {here : Surroundings} (hsettings : here.environment.settings = none)
    {path : Path} (hpath : path.text ≠ "") :
    AsksAbout here ["explain", "--", path.text] (some path) listing := by
  refine ⟨⟨none, false, .explain (some path)⟩, {}, ?_, rfl, by simp [Request.stages], rfl⟩
  have hword : Action.ofWord? "explain" = some .explain := by decide
  have hown : Given.readAction .explain {} ["--", path.text] = .ok { operand := some path.text } :=
    Given.readAction_operand rfl rfl rfl hpath
  refine Except.bind_eq_ok.mpr ⟨({}, "explain", ["--", path.text]), rfl, ?_⟩
  simp only [hword, hown, hsettings]
  rfl

/-- A dash with a trail is no dash by its text, and stands for the input nevertheless. -/
theorem not_readBy_of_trail {path : Path} (hpath : path.text ≠ "") (hdash : path.IsDash)
    (hne : path.text ≠ "-") (isToml : Path → Prop) :
    ¬ ReadBy (·.text = "-") isToml (some path) := by
  intro hrule
  let here : Surroundings := .ofFiles {} false (.ok .empty) []
  have hnamed : here.FilesAreNamed := fun _ _ h => nomatch h
  have hasks : AsksAbout here ["explain", "--", path.text] (some path) listing :=
    asksAbout_explain rfl hpath
  have hminds := hasks.mindsInput_iff.mpr (by simpa using hdash)
  exact hne ((hrule _ _ _ hnamed hasks).1.mp hminds path rfl)

/-- A file whose name is a bare extension ends in it, and is taken for JSON nevertheless. -/
theorem not_readBy_of_isBareToml {path : Path} (hpath : path.text ≠ "") (hbare : path.IsBareToml) :
    ¬ ReadBy (·.text = "-") Path.EndsInToml (some path) := by
  intro hrule
  let here : Surroundings :=
    .ofFiles {} false (.ok .empty) [(path, .ok "table = \"t\"".toUTF8)]
  have hfiles (other : Path) : here.files other
      = if other = path then .ok "table = \"t\"".toUTF8 else .error .missing := by
    by_cases hother : other = path
    · simp [here, Surroundings.ofFiles, hother]
    · have hbeq : (other == path) = false := beq_eq_false_iff_ne.mpr hother
      simp [here, Surroundings.ofFiles, List.lookup_cons, hother, hbeq]
  have hnamed : here.FilesAreNamed := by
    intro other content hcontent
    by_cases hother : other = path
    · exact hother ▸ hbare.namesFile
    · rw [hfiles, if_neg hother] at hcontent
      exact nomatch hcontent
  have hasks : AsksAbout here ["explain", "--", path.text] (some path) listing :=
    asksAbout_explain rfl hpath
  have htext : here.text path = .ok "table = \"t\"" := by
    have hread : readText "table = \"t\"".toUTF8 = .ok "table = \"t\"" := by decide +kernel
    rw [Surroundings.text, hfiles, if_pos rfl]
    exact hread
  have hdash : ¬ path.IsDash := hbare.not_isDash
  have hne : path.text ≠ "-" := mt Path.isDash_of_text hdash
  have hload : Query.load? .toml "table = \"t\"" = .ok (.ofTable "t") := by decide +kernel
  have hload' : Query.load? .json "table = \"t\"" = .error (.text .json (.defect .malformed)) := by
    decide +kernel
  -- by the rule the text is TOML and describes a query, but it is JSON and describes none
  have htoml := (((hrule here _ _ hnamed hasks).2.2 path rfl hne _ htext).1
    hbare.endsInToml).accepted _ hload
  have hjson := (((readBy_isDash _ here _ _ hnamed hasks).2.2 path rfl hdash _ htext).2
    (fun h => h.2 hbare)).refused _ hload'
  rw [htoml.1] at hjson
  exact nomatch hjson.1

/-- **A description is read where and how the rule says, but for two kinds of operands.** Every
operand is read as its text says, trails and bare extensions counted for what they are; the rule
gives the same just if the operand is no dash with a trail behind it and no file whose name is a bare
extension. -/
theorem description_origin (file : Option Path) (hfile : ∀ path ∈ file, path.text ≠ "") :
    ReadBy Path.IsDash (fun path => path.EndsInToml ∧ ¬ path.IsBareToml) file ∧
    (ReadBy (·.text = "-") Path.EndsInToml file ↔
      ∀ path ∈ file, (path.IsDash → path.text = "-") ∧ ¬ path.IsBareToml) := by
  refine ⟨readBy_isDash file, ?_, ?_⟩
  · rintro hrule path rfl
    refine ⟨fun hdash => ?_, fun hbare => ?_⟩
    · by_contra hne
      exact not_readBy_of_trail (hfile path rfl) hdash hne _ hrule
    · exact not_readBy_of_isBareToml (hfile path rfl) hbare hrule
  · intro hrule
    refine (readBy_isDash file).congr ?_ ?_
    · exact fun path hpath => ⟨(hrule path hpath).1, Path.isDash_of_text⟩
    · intro path hpath
      exact and_iff_left (hrule path hpath).2

/-- A hidden file can be in TOML: with one dot more, the name is not an extension alone. -/
theorem description_origin_hiddenFile :
    let here := Surroundings.ofTree
      (.ofList [(["d", "..toml"], .file "table = \"t\"".toUTF8)]) ""
    (∀ path ∈ some (Path.mk "d/..toml"), path.text ≠ "") ∧
      ReadBy (·.text = "-") Path.EndsInToml (some ⟨"d/..toml"⟩) ∧
      TakesFor here ["explain", "--", "d/..toml"] listing .toml "table = \"t\"" := by
  intro here
  have hfile : ∀ path ∈ some (Path.mk "d/..toml"), path.text ≠ "" := by
    rintro path ⟨⟩
    decide
  have hrule : ReadBy (·.text = "-") Path.EndsInToml (some ⟨"d/..toml"⟩) := by
    refine (description_origin _ hfile).2.mpr ?_
    rintro path ⟨⟩
    refine ⟨?_, ?_⟩
    · rintro ⟨trail, htext, -⟩
      exact nomatch htext
    · unfold Path.IsBareToml
      decide
  have htext : here.text ⟨"d/..toml"⟩ = .ok "table = \"t\"" := by decide +kernel
  have hasks : AsksAbout here ["explain", "--", "d/..toml"] (some ⟨"d/..toml"⟩) listing :=
    asksAbout_explain rfl (by decide)
  have hread := (hrule here _ _ (filesAreNamed_ofTree _ _) hasks).2.2 _ rfl (by decide) _ htext
  exact ⟨hfile, hrule, hread.1 (by unfold Path.EndsInToml; decide)⟩

/-- A file called `.toml` with a description in TOML is refused, and a dash with a slash behind it
gets the input. -/
theorem bareToml_refused :
    let here := Surroundings.ofTree (.ofList [([".toml"], .file "table = \"t\"\n".toUTF8)]) "[\"u\"]"
    (here.text ⟨".toml"⟩ = .ok "table = \"t\"\n" ∧
      Query.load? .toml "table = \"t\"\n" = .ok (.ofTable "t") ∧
      (run here ["build", ".toml"]).status = 1 ∧ (run here ["build", ".toml"]).output = "") ∧
    (run here ["build", "--", "-/"]).output = "@u\n" ∧
    ¬ ReadBy (·.text = "-") Path.EndsInToml (some ⟨".toml"⟩) ∧
    ¬ ReadBy (·.text = "-") Path.EndsInToml (some ⟨"-/"⟩) := by
  refine ⟨?_, ?_, ?_, ?_⟩
  · decide +kernel
  · decide +kernel
  · exact not_readBy_of_isBareToml (by decide) (by unfold Path.IsBareToml; decide)
  · exact not_readBy_of_trail (by decide) ⟨['/'], by decide, .slash .nil⟩ (by decide) _

end CompactQuery.Command
