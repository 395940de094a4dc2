import CompactQuery.Proofs.Command.Outcomes
import CompactQuery.Proofs.Json.Document
import CompactQuery.Proofs.Query.UrlForm

/-!
# Forms — one query, four outputs

`build` writes a compact form plainly or percent-encoded, bare or as a member of a JSON object. All
four outputs carry the same query: the encoded form is a single line that `decode` turns into the
plain one, and the JSON objects hold the two texts as they are.

* **`AsksToBuild`** — the command lines that ask for one of the four, with no settings in force.
* **`asksToBuild_buildLine`** — for each of the four there is one, whatever the file is called.
* **`AsksToBuild.run_eq`** — what such a command line comes to.
* **`run_decode`** — a text that does not start with a dash is decoded as it stands.
* **`ofText_resultText`** — the JSON object reads back.
* **`build_forms_agree`** — all four outputs, and the way back.
-/

namespace CompactQuery.Command

/-! ## Command lines -/

/-- The command line asks for the compact form of what an operand names, and no settings file is in
force. -/
def AsksToBuild (here : Surroundings) (arguments : List String) (file : Option Path)
    (urlSafe : Bool) (form : Option OutputForm) : Prop :=
  ∃ named verbose,
    Invocation.ofArguments? here.environment.settings arguments
      = .ok ⟨named, verbose, .build file urlSafe form⟩ ∧
    settingsFile here named = none

/-- The command line of a build: its flags, and the file behind two dashes. -/
def buildLine (file : Option Path) (urlSafe : Bool) (form : Option OutputForm) : List String :=
  "build" :: ((if urlSafe then ["-u"] else [])
    ++ ((form.elim [] fun form => ["-f", form.word]) ++ file.elim [] fun path => ["--", path.text]))

section

variable {given : Given}

theorem Given.readAction_urlSafe (hpending : given.pending = none)
    (hurlSafe : given.urlSafe = false) (arguments : List String) :
    given.readAction .build ("-u" :: arguments)
      = readAction .build { given with urlSafe := true } arguments := by
  obtain ⟨settings, verbose, urlSafe, form, operand, pending⟩ := given
  subst hpending hurlSafe
  rfl

theorem Given.readAction_form (hpending : given.pending = none) (hform : given.form = none)
    (form : OutputForm) (arguments : List String) :
    given.readAction .build ("-f" :: form.word :: arguments)
      = readAction .build { given with form := some form } arguments := by
  obtain ⟨settings, verbose, urlSafe, form', operand, pending⟩ := given
  subst hpending hform
  cases form <;> rfl

/-- Behind two dashes any name of a file is taken as it stands. -/
theorem Given.readAction_operand {action : Action} (haction : action.operands = 1)
    (hpending : given.pending = none) (hoperand : given.operand = none) {text : String}
    (htext : text ≠ "") :
    given.readAction action ["--", text] = .ok { given with operand := some text } := by
  obtain ⟨settings, verbose, urlSafe, form, operand, pending⟩ := given
  subst hpending hoperand
  simp [readAction, place, haction, Action.accepts, htext]

theorem readAction_buildLine {file : Option Path} (hfile : ∀ path ∈ file, path.text ≠ "")
    (urlSafe : Bool) (form : Option OutputForm) :
    Given.readAction .build {} (buildLine file urlSafe form).tail
      = .ok { urlSafe, form, operand := file.map Path.text } := by
  have hend (form : Option OutputForm) :
      Given.readAction .build { urlSafe, form } (file.elim [] fun path => ["--", path.text])
        = .ok { urlSafe, form, operand := file.map Path.text } := by
    cases file with
    | none => rfl
    | some path => exact Given.readAction_operand rfl rfl rfl (hfile path rfl)
  have hform :
      Given.readAction .build { urlSafe }
          ((form.elim [] fun form => ["-f", form.word])
            ++ file.elim [] fun path => ["--", path.text])
        = .ok { urlSafe, form, operand := file.map Path.text } := by
    cases form with
    | none => exact hend none
    | some form => exact (Given.readAction_form rfl rfl form _).trans (hend (some form))
  cases urlSafe with
  | false => exact hform
  | true => exact (Given.readAction_urlSafe rfl rfl _).trans hform

end

theorem asksToBuild_buildLine {here : Surroundings} (hsettings : here.environment.settings = none)
    (hnone : settingsFile here none = none) {file : Option Path}
    (hfile : ∀ path ∈ file, path.text ≠ "") (urlSafe : Bool) (form : Option OutputForm) :
    AsksToBuild here (buildLine file urlSafe form) file urlSafe form := by
  refine ⟨none, false, ?_, hnone⟩
  have hword : Action.ofWord? "build" = some .build := by decide
  have hown := readAction_buildLine hfile urlSafe form
  refine Except.bind_eq_ok.mpr ⟨({}, "build", (buildLine file urlSafe form).tail), rfl, ?_⟩
  simp only [hword, hown, hsettings]
  cases file <;> rfl

/-- If no settings file is named, no variable stands in for the flag. -/
theorem Invocation.standIn_eq_none {standIn : Option String} {arguments : List String}
    {invocation : Invocation} (h : ofArguments? standIn arguments = .ok invocation)
    (hnamed : invocation.settings = none) : standIn = none := by
  obtain ⟨line, hline⟩ := exists_spells h
  rw [(asks_of_spells hline h).settings, Option.or_eq_none_iff] at hnamed
  exact Option.map_eq_none_iff.mp hnamed.2

/-- A text that does not start with a dash is an operand, whatever else is in it. -/
theorem Invocation.ofArguments?_decode {text : String} {c : Char}
    (htext : text.toList.head? = some c) (hc : c ≠ '-') :
    ofArguments? none ["decode", text] = .ok ⟨none, false, .decode text⟩ := by
  have hdash : ¬ LedByDash text := by
    rintro ⟨d, rest, hd⟩
    rw [hd] at htext
    exact hc (Option.some.inj htext).symm
  have hown : Given.readAction .decode {} [text] = .ok { operand := some text } :=
    Given.readAction_of_says (.operand rfl hdash .nil) rfl
  have hleading : Given.readLeading {} ["decode", text] = .ok ({}, "decode", [text]) := by rfl
  have hword : Action.ofWord? "decode" = some .decode := by decide
  refine Except.bind_eq_ok.mpr ⟨_, hleading, ?_⟩
  simp only [hword, hown]
  rfl

/-! ## The four outputs -/

/-- What is printed of a compact form as a member of an object is read as that object. -/
theorem ofText_resultText (urlSafe : Bool) (text : String) :
    Json.Document.ofText (resultText .json urlSafe text) =
      ⟨.object [(.name (.ok "shortsql"), .text (.ok text)), (.name (.ok "url_safe"), .flag urlSafe)]
        none, false⟩ := by
  rw [resultText, Json.Document.ofText_prettyObject]
  rfl

section

variable {here : Surroundings} {arguments : List String} {file : Option Path} {urlSafe : Bool}
  {form : Option OutputForm}

/-- Without settings, `build` prints what the command line asks for. -/
theorem AsksToBuild.run_eq (h : AsksToBuild here arguments file urlSafe form) {text : String}
    {query : Query} (htext : (Source.ofOperand file).text here = .ok text)
    (hload : Query.load? (Source.ofOperand file).format text = .ok query) :
    (run here arguments).status = 0 ∧
      (run here arguments).output
        = resultText (form.getD .plain) urlSafe (query.render urlSafe) := by
  obtain ⟨named, verbose, harguments, hfile⟩ := h
  have hbuild : (perform here named (.build file urlSafe form)).result
      = .ok [.plain (resultText (form.getD .plain) urlSafe (query.render urlSafe))] :=
    build_eq_ok_iff.mpr ⟨{}, text, query, .usual hfile, htext, hload, by rw [Bool.or_false]⟩
  rw [run_of_invocation harguments, Report.outcome_of_ok hbuild, shownAll_plain]
  exact ⟨rfl, rfl⟩

/-- A build that succeeds has loaded a query. -/
theorem AsksToBuild.exists_load (h : AsksToBuild here arguments file urlSafe form)
    (hstatus : (run here arguments).status = 0) :
    ∃ text query, (Source.ofOperand file).text here = .ok text ∧
      Query.load? (Source.ofOperand file).format text = .ok query := by
  obtain ⟨named, verbose, harguments, hfile⟩ := h
  rw [run_of_invocation harguments] at hstatus
  obtain ⟨spans, hspans⟩ := Report.outcome_status_iff.mp hstatus
  obtain ⟨settings, text, query, _, htext, hload, _⟩ := build_eq_ok_iff.mp hspans
  exact ⟨text, query, htext, hload⟩

theorem AsksToBuild.standIn_eq_none (h : AsksToBuild here arguments file urlSafe form) :
    here.environment.settings = none := by
  obtain ⟨named, verbose, harguments, hfile⟩ := h
  exact Invocation.standIn_eq_none harguments (Option.or_eq_none_iff.mp hfile).1

end

/-- Decoding prints what the text stands for. -/
theorem run_decode {here : Surroundings} {text : String} {c : Char}
    (hsettings : here.environment.settings = none) (htext : text.toList.head? = some c)
    (hc : c ≠ '-') :
    (run here ["decode", text]).status = 0 ∧
      (run here ["decode", text]).output = Percent.decode text ++ "\n" := by
  have harguments := Invocation.ofArguments?_decode htext hc
  rw [← hsettings] at harguments
  have hdecode : (perform here none (.decode text)).result
      = .ok [.plain (Percent.decode text ++ "\n")] := rfl
  rw [run_of_invocation harguments, Report.outcome_of_ok hdecode, shownAll_plain]
  exact ⟨rfl, rfl⟩

/-- **All outputs of `build` carry the same query.** For whatever a file or the input describes, and
with no settings in force: the encoded output is a single visible line, and what is printed when
that line is decoded is the plain output; and the JSON objects hold just the two texts, each with
whether it is encoded. -/
theorem build_forms_agree {here : Surroundings} {file : Option Path}
    {plain encoded plainObject encodedObject : List String}
    (hplain : AsksToBuild here plain file false none)
    (hencoded : AsksToBuild here encoded file true none)
    (hplainObject : AsksToBuild here plainObject file false (some .json))
    (hencodedObject : AsksToBuild here encodedObject file true (some .json))
    (hstatus : (run here plain).status = 0) :
    ∃ text query, (Source.ofOperand file).text here = .ok text ∧
      Query.load? (Source.ofOperand file).format text = .ok query ∧
      (run here plain).output = query.render false ++ "\n" ∧
      ((run here encoded).status = 0 ∧ (run here encoded).output = query.render true ++ "\n" ∧
        ∀ c ∈ (query.render true).toList, Percent.IsVisible c) ∧
      ((run here ["decode", query.render true]).status = 0 ∧
        (run here ["decode", query.render true]).output = (run here plain).output) ∧
      ((run here plainObject).status = 0 ∧
        Json.Document.ofText (run here plainObject).output =
          ⟨.object [(.name (.ok "shortsql"), .text (.ok (query.render false))),
            (.name (.ok "url_safe"), .flag false)] none, false⟩) ∧
      (run here encodedObject).status = 0 ∧
        Json.Document.ofText (run here encodedObject).output =
          ⟨.object [(.name (.ok "shortsql"), .text (.ok (query.render true))),
            (.name (.ok "url_safe"), .flag true)] none, false⟩ := by
  obtain ⟨text, query, htext, hload⟩ := hplain.exists_load hstatus
  obtain ⟨_, hplain'⟩ := hplain.run_eq htext hload
  obtain ⟨hencodedStatus, hencoded'⟩ := hencoded.run_eq htext hload
  obtain ⟨hplainObjectStatus, hplainObject'⟩ := hplainObject.run_eq htext hload
  obtain ⟨hencodedObjectStatus, hencodedObject'⟩ := hencodedObject.run_eq htext hload
  -- the sigil of the table is in front of the encoded text, so that is taken for no flag
  obtain ⟨hdecodeStatus, hdecode⟩ :=
    run_decode hplain.standIn_eq_none query.head?_urlForm (by decide)
  refine ⟨text, query, htext, hload, hplain', ⟨hencodedStatus, hencoded', ?_⟩,
    ⟨hdecodeStatus, ?_⟩, ⟨hplainObjectStatus, ?_⟩, hencodedObjectStatus, ?_⟩
  · exact Percent.isVisible_encode query.compact
  · rw [hplain', ← Query.decode_render]
    exact hdecode
  · rw [hplainObject']
    exact ofText_resultText _ _
  · rw [hencodedObject']
    exact ofText_resultText _ _

/-- A TOML file with a table whose name has a line feed, a quotation mark, a percent sign and a
letter beyond ASCII. -/
theorem build_forms_agree_oddTable :
    let here : Surroundings := .ofFiles {} false (.ok .empty)
      [(⟨"q.toml"⟩, .ok "table = \"a\\nb\\\"%é\"".toUTF8)]
    let line := buildLine (some ⟨"q.toml"⟩)
    (run here (line false none)).status = 0 ∧
      (run here (line false none)).output = "@a\nb\"%é\n" ∧
      (run here (line true none)).output = "@a%0Ab%22%25%C3%A9\n" ∧
      (run here ["decode", "@a%0Ab%22%25%C3%A9"]).output = "@a\nb\"%é\n" ∧
      Json.Document.ofText (run here (line true (some .json))).output =
        ⟨.object [(.name (.ok "shortsql"), .text (.ok "@a%0Ab%22%25%C3%A9")),
          (.name (.ok "url_safe"), .flag true)] none, false⟩ := by
  intro here line
  have hasks (urlSafe : Bool) (form : Option OutputForm) :
      AsksToBuild here (line urlSafe form) (some ⟨"q.toml"⟩) urlSafe form :=
    asksToBuild_buildLine rfl (by decide) (by simp) urlSafe form
  have htext : (Source.ofOperand (some ⟨"q.toml"⟩)).text here
      = .ok "table = \"a\\nb\\\"%é\"" := by decide +kernel
  have hload : Query.load? (Source.ofOperand (some ⟨"q.toml"⟩)).format
      "table = \"a\\nb\\\"%é\"" = .ok (.ofTable "a\nb\"%é") := by decide +kernel
  have hplain : (Query.ofTable "a\nb\"%é").render false = "@a\nb\"%é" := by decide +kernel
  have hencoded : (Query.ofTable "a\nb\"%é").render true = "@a%0Ab%22%25%C3%A9" := by
    decide +kernel
  have hstatus := ((hasks false none).run_eq htext hload).1
  obtain ⟨text, query, htext', hload', houtput, ⟨_, hline, _⟩, ⟨_, hdecode⟩, _, _, hobject⟩ :=
    build_forms_agree (hasks false none) (hasks true none) (hasks false (some .json))
      (hasks true (some .json)) hstatus
  cases htext.symm.trans htext'
  cases hload.symm.trans hload'
  rw [hplain] at houtput
  rw [hencoded] at hline hdecode hobject
  exact ⟨hstatus, houtput, hline, hdecode.trans houtput, hobject⟩

end CompactQuery.Command
