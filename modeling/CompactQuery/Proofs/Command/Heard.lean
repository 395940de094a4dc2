import CompactQuery.Proofs.Command.Written
import CompactQuery.Proofs.Failing

/-!
# Heard lines — a command line is taken for what it says

Arguments are read one by one, with what is set so far at hand, and a flag that is said twice or out
of place is an error. If they are accepted, what is set in the end is what the arguments say.

* **`Given.Hears`** — what things that are said set, if they are accepted; **`hears_of_foldlM`**.
* **`Given.Reads`** — how arguments are read, on either side of the command;
  **`readAction_of_says`**, **`readLeading_of_says`** — they are read as they are written.
* **`Given.exists_says`**, **`Given.exists_says_leading`** — nothing is accepted that is written in
  no way.
* **`Invocation.asks_of_spells`**, **`Invocation.exists_spells`** — both, for a command line.
-/

namespace CompactQuery.Command

/-! ## What is set by what is said -/

theorem Action.operands_le_one (action : Action) : action.operands ≤ 1 := by
  cases action <;> decide

namespace Given

/-- What is said has led from one to the other. -/
structure Hears (given : Given) (said : List Saying) (given' : Given) : Prop where
  settings : given'.settings = given.settings.or (said.findSome? (·.value? .settings))
  form : given'.form.map OutputForm.word
    = (given.form.map OutputForm.word).or (said.findSome? (·.value? .form))
  operand : given'.operand = given.operand.or (said.findSome? (·.operand?))
  urlSafe : given'.urlSafe = true ↔ given.urlSafe = true ∨ .switch .urlSafe ∈ said
  verbose : given'.verbose = true ↔ given.verbose = true ∨ .switch .verbose ∈ said
  pending : given'.pending = given.pending

section

variable {given given' given'' : Given} {action : Option Action} {said more : List Saying}

theorem hears_nil (given : Given) : given.Hears [] given := by
  constructor <;> simp

theorem Hears.append (h : given.Hears said given') (h' : given'.Hears more given'') :
    given.Hears (said ++ more) given'' := by
  constructor
  · rw [h'.settings, h.settings, List.findSome?_append, Option.or_assoc]
  · rw [h'.form, h.form, List.findSome?_append, Option.or_assoc]
  · rw [h'.operand, h.operand, List.findSome?_append, Option.or_assoc]
  · rw [h'.urlSafe, h.urlSafe, List.mem_append, or_assoc]
  · rw [h'.verbose, h.verbose, List.mem_append, or_assoc]
  · rw [h'.pending, h.pending]

/-- Nothing is set twice, so what is set is what was said. -/
theorem hears_of_set {saying : Saying} (h : given.set action saying.item = .ok given') :
    given.Hears [saying] given' := by
  cases saying with
  | switch flag =>
      have hswitch : given.switch flag = .ok given' := h
      cases flag with
      | settings | version | help | form => exact nomatch hswitch
      | verbose | urlSafe =>
          rw [switch] at hswitch
          split at hswitch
          · exact nomatch hswitch
          · cases hswitch
            constructor <;> simp [Saying.value?, Saying.operand?]
  | value flag text =>
      have hassign : given.assign flag text = .ok given' := h
      cases flag with
      | verbose | version | help | urlSafe => exact nomatch hassign
      | settings =>
          rw [assign] at hassign
          split at hassign
          · exact nomatch hassign
          · rename_i hnone
            split at hassign
            · exact nomatch hassign
            · cases hassign
              rw [Option.isSome_iff_ne_none, not_not] at hnone
              constructor <;> simp [Saying.value?, Saying.operand?, hnone]
      | form =>
          rw [assign] at hassign
          split at hassign
          · exact nomatch hassign
          · rename_i hnone
            split at hassign
            · exact nomatch hassign
            · rename_i form hform
              cases hassign
              rw [Option.isSome_iff_ne_none, not_not] at hnone
              have hword := OutputForm.ofWord?_eq_some_iff.mp hform
              constructor <;> simp [Saying.value?, Saying.operand?, hnone, hword]
  | operand text =>
      cases action with
      | none => exact nomatch h
      | some action =>
          have hplace : given.place action text = .ok given' := h
          rw [place] at hplace
          split at hplace
          · exact nomatch hplace
          · rename_i hroom
            split at hplace
            · cases hplace
              -- no command takes more than one operand
              have hnone : given.operand = none := by
                cases hoperand : given.operand with
                | none => rfl
                | some other =>
                    rw [hoperand] at hroom
                    exact absurd action.operands_le_one hroom
              constructor <;> simp [Saying.value?, Saying.operand?, hnone]
            · exact nomatch hplace

theorem hears_of_foldlM (h : (said.map Saying.item).foldlM (set action) given = .ok given') :
    given.Hears said given' := by
  induction said generalizing given with
  | nil =>
      cases h
      exact hears_nil _
  | cons saying said ih =>
      rw [List.map_cons, List.foldlM_cons] at h
      obtain ⟨next, hnext, hrest⟩ := Except.bind_eq_ok.mp h
      exact (hears_of_set hnext).append (ih hrest)

end

/-! ## Arguments read as they are written -/

/-- Arguments are read one by one: a value that is due first, and else flags. -/
structure Reads {α : Type} (flags : List Flag) (action : Option Action)
    (read : Given → List String → Except Stop α) : Prop where
  value : ∀ {given : Given} {flag : Flag}, given.pending = some flag → ∀ argument rest,
    read given (argument :: rest) = given.supply flag argument >>= fun next => read next rest
  items : ∀ {given : Given} {argument : String}, given.pending = none → LedByDash argument →
    argument ≠ "--" → ∀ rest, read given (argument :: rest)
      = (Item.ofArgument flags argument).foldlM (set action) given >>= fun next => read next rest

theorem reads_readAction (action : Action) :
    Reads action.flags (some action) (readAction action) := by
  constructor
  · intro given flag hpending argument rest
    rw [readAction, hpending]
  · intro given argument hpending _ hne rest
    rw [readAction, hpending]
    exact if_neg hne

theorem reads_readLeading : Reads leadingFlags none readLeading := by
  constructor
  · intro given flag hpending argument rest
    rw [readLeading, hpending]
  · intro given argument hpending hdash _ rest
    rw [readLeading, hpending]
    exact if_pos (isFlagLike_iff.mpr hdash)

section

variable {α : Type} {flags : List Flag} {action : Option Action}
  {read : Given → List String → Except Stop α} {given : Given} {said : List Saying}
  {arguments : List String}

/-- **Written flags are read as what they say**, whatever is behind them. -/
theorem Reads.read_append (hread : Reads flags action read) (h : Writes flags said arguments)
    (hpending : given.pending = none) (rest : List String) :
    read given (arguments ++ rest)
      = (said.map Saying.item).foldlM (set action) given >>= fun next => read next rest := by
  cases h with
  | @fully _ argument h =>
      have hitems := h.ofArgument_eq
      have hne : argument ≠ "--" := by
        rintro rfl
        rw [ofArgument_dashes] at hitems
        obtain ⟨saying, -, hitem⟩ := List.mem_map.mp (hitems ▸ List.mem_cons_self)
        cases saying <;> exact nomatch hitem
      rw [List.singleton_append, hread.items hpending h.ledByDash hne, hitems]
  | @apart switches flag name hname hvalue value hdash =>
      have hitems := hname.ofArgument_eq hvalue
      have hne : name ≠ "--" := by
        rintro rfl
        rw [ofArgument_dashes] at hitems
        have hlast := congrArg List.getLast? hitems
        rw [List.getLast?_concat] at hlast
        exact nomatch hlast
      have hswitches : (switches.map Saying.switch).map Saying.item = switches.map Item.flag := by
        rw [List.map_map]
        rfl
      rw [List.cons_append, List.singleton_append, hread.items hpending hname.ledByDash hne, hitems,
        List.map_append, hswitches, List.foldlM_append, List.foldlM_append]
      cases hfold : (switches.map Item.flag).foldlM (set action) given with
      | error stop => rfl
      | ok next =>
          -- the switches leave no value due, so the flag is the one that waits for this one
          have hnext : next.pending = none := by
            rw [← hswitches] at hfold
            rw [(hears_of_foldlM hfold).pending, hpending]
          have hsupply : ({ next with pending := some flag } : Given).supply flag value
              = next.assign flag value := by
            rw [supply, if_neg (mt isFlagLike_iff.mp hdash), ← hnext]
          have hdue : read { next with pending := some flag } (value :: rest)
              = next.assign flag value >>= fun last => read last rest := by
            rw [hread.value rfl, hsupply]
          change read { next with pending := some flag } (value :: rest) = _
          rw [hdue]
          change _ = (next.assign flag value >>= fun last => pure last) >>= _
          rw [bind_pure]

/-- **What is said behind a command is read as it is said.** Induction on what is said. -/
theorem readAction_of_says {command : Action} (h : Says command.flags true said arguments)
    (hpending : given.pending = none) :
    given.readAction command arguments
      = (said.map Saying.item).foldlM (set (some command)) given := by
  induction h generalizing given with
  | nil =>
      rw [readAction, finish, hpending]
      rfl
  | @flags said more arguments others hwrites _ ih =>
      rw [(reads_readAction command).read_append hwrites hpending, List.map_append,
        List.foldlM_append]
      cases hfold : (said.map Saying.item).foldlM (set (some command)) given with
      | error stop => rfl
      | ok next => exact ih ((hears_of_foldlM hfold).pending.trans hpending)
  | @operand text more others _ hdash _ ih =>
      have hne : text ≠ "--" := by
        rintro rfl
        exact hdash ⟨'-', [], rfl⟩
      rw [readAction, hpending]
      simp only [if_neg hne, ofArgument_operand hdash, List.map_cons, List.foldlM_cons,
        List.foldlM_nil, bind_pure]
      have hitem : (Saying.operand text).item = .operand text := rfl
      rw [hitem]
      cases hset : given.set (some command) (.operand text) with
      | error stop => rfl
      | ok next =>
          have hnext : next.pending = given.pending := (hears_of_set (hitem ▸ hset)).pending
          exact ih (hnext.trans hpending)
  | dashes _ texts =>
      rw [readAction, hpending, List.map_map, List.foldlM_map]
      exact if_pos rfl

/-- The same in front of a command, up to its word. -/
theorem readLeading_of_says (h : Says leadingFlags false said arguments)
    (hpending : given.pending = none) {word : String} (hword : ¬ LedByDash word)
    (behind : List String) :
    given.readLeading (arguments ++ word :: behind)
      = (said.map Saying.item).foldlM (set none) given >>= fun next =>
        .ok (next, word, behind) := by
  induction h generalizing given with
  | nil =>
      rw [List.nil_append, readLeading, hpending]
      exact if_neg (mt isFlagLike_iff.mp hword)
  | @flags said more arguments others hwrites _ ih =>
      rw [List.append_assoc, reads_readLeading.read_append hwrites hpending, List.map_append,
        List.foldlM_append]
      cases hfold : (said.map Saying.item).foldlM (set none) given with
      | error stop => rfl
      | ok next => exact ih ((hears_of_foldlM hfold).pending.trans hpending)
  | operand hplace => exact nomatch hplace
  | dashes hplace => exact nomatch hplace

end

/-! ## Nothing else is accepted -/

section

variable {α : Type} {flags : List Flag} {action : Option Action}
  {read : Given → List String → Except Stop α} {given : Given} {argument : String}
  {rest : List String} {result : α}

theorem notMem_wrong_of_foldlM {items : List Item} {given' : Given}
    (h : items.foldlM (set action) given = .ok given') (error : UsageError) :
    .wrong error ∉ items := by
  induction items generalizing given with
  | nil => exact List.not_mem_nil
  | cons item items ih =>
      rw [List.foldlM_cons] at h
      obtain ⟨next, hnext, hrest⟩ := Except.bind_eq_ok.mp h
      rw [List.mem_cons, not_or]
      refine ⟨?_, ih hrest⟩
      rintro rfl
      exact nomatch hnext

/-- A flag that is accepted is written by the rules, and its value is due if it is still to come. -/
theorem Reads.exists_written (hread : Reads flags action read)
    (h : read given (argument :: rest) = .ok result) (hpending : given.pending = none)
    (hdash : LedByDash argument) (hne : argument ≠ "--") :
    ∃ next, read next rest = .ok result ∧
      ((next.pending = none ∧ ∃ said, WritesFully flags said argument.toList) ∨
        (next.pending ≠ none ∧ ∃ switches flag, Names flags switches flag argument.toList ∧
          flag.takesValue = true)) := by
  rw [hread.items hpending hdash hne] at h
  obtain ⟨next, hnext, hrest⟩ := Except.bind_eq_ok.mp h
  refine ⟨next, hrest, ?_⟩
  rcases ofArgument_cases hdash (notMem_wrong_of_foldlM hnext) with
    ⟨said, hsaid⟩ | ⟨switches, flag, hname, hvalue⟩
  · rw [hsaid.ofArgument_eq] at hnext
    exact .inl ⟨(hears_of_foldlM hnext).pending.trans hpending, said, hsaid⟩
  · rw [hname.ofArgument_eq hvalue, List.foldlM_append] at hnext
    obtain ⟨last, _, hlast⟩ := Except.bind_eq_ok.mp hnext
    cases hlast
    exact .inr ⟨nofun, switches, flag, hname, hvalue⟩

/-- A value that is accepted does not look like a flag. -/
theorem Reads.exists_supplied (hread : Reads flags action read)
    (h : read given (argument :: rest) = .ok result) (hpending : given.pending ≠ none) :
    ¬ LedByDash argument ∧ ∃ next, next.pending = none ∧ read next rest = .ok result := by
  obtain ⟨flag, hflag⟩ := Option.ne_none_iff_exists'.mp hpending
  rw [hread.value hflag] at h
  obtain ⟨next, hnext, hrest⟩ := Except.bind_eq_ok.mp h
  rw [supply] at hnext
  split at hnext
  · exact nomatch hnext
  · rename_i hdash
    have hset : ({ given with pending := none } : Given).set action
        (Saying.value flag argument).item = .ok next := hnext
    exact ⟨mt isFlagLike_iff.mpr hdash, next, (hears_of_set hset).pending, hrest⟩

/-- **What is accepted behind a command is written by the rules.** Induction on the arguments, where
the first may be a value that is due. -/
theorem exists_says {command : Action} {arguments : List String} {given' : Given}
    (h : given.readAction command arguments = .ok given') :
    (given.pending = none → ∃ said, Says command.flags true said arguments) ∧
    (given.pending ≠ none → ∃ value others said, arguments = value :: others ∧
      ¬ LedByDash value ∧ Says command.flags true said others) := by
  induction arguments generalizing given with
  | nil =>
      refine ⟨fun _ => ⟨[], .nil⟩, fun hpending => ?_⟩
      obtain ⟨flag, hflag⟩ := Option.ne_none_iff_exists'.mp hpending
      rw [readAction, finish, hflag] at h
      exact nomatch h
  | cons argument rest ih =>
      refine ⟨fun hpending => ?_, fun hpending => ?_⟩
      · by_cases hne : argument = "--"
        · subst hne
          exact ⟨_, .dashes rfl rest⟩
        by_cases hdash : LedByDash argument
        · obtain ⟨next, hrest, hwritten⟩ :=
            (reads_readAction command).exists_written h hpending hdash hne
          rcases hwritten with ⟨hnext, said, hsaid⟩ | ⟨hnext, switches, flag, hname, hvalue⟩
          · obtain ⟨more, hmore⟩ := (ih hrest).1 hnext
            exact ⟨_, .flags (.fully hsaid) hmore⟩
          · obtain ⟨value, others, more, rfl, hplain, hmore⟩ := (ih hrest).2 hnext
            exact ⟨_, .flags (.apart hname hvalue hplain) hmore⟩
        · rw [readAction, hpending] at h
          simp only [if_neg hne, ofArgument_operand hdash, List.foldlM_cons, List.foldlM_nil,
            bind_pure] at h
          obtain ⟨next, hnext, hrest⟩ := Except.bind_eq_ok.mp h
          have hset : given.set (some command) (Saying.operand argument).item = .ok next := hnext
          obtain ⟨more, hmore⟩ := (ih hrest).1 ((hears_of_set hset).pending.trans hpending)
          exact ⟨_, .operand rfl hdash hmore⟩
      · obtain ⟨hplain, next, hnext, hrest⟩ :=
          (reads_readAction command).exists_supplied h hpending
        obtain ⟨more, hmore⟩ := (ih hrest).1 hnext
        exact ⟨argument, rest, more, rfl, hplain, hmore⟩

/-- The same in front of a command. -/
theorem exists_says_leading {arguments behind : List String} {word : String} {given' : Given}
    (h : given.readLeading arguments = .ok (given', word, behind)) :
    (given.pending = none → ∃ front said, arguments = front ++ word :: behind ∧
      ¬ LedByDash word ∧ Says leadingFlags false said front) ∧
    (given.pending ≠ none → ∃ value front said, arguments = value :: (front ++ word :: behind) ∧
      ¬ LedByDash value ∧ ¬ LedByDash word ∧ Says leadingFlags false said front) := by
  induction arguments generalizing given with
  | nil =>
      obtain ⟨_, _, hnone⟩ := Except.bind_eq_ok.mp h
      exact nomatch hnone
  | cons argument rest ih =>
      refine ⟨fun hpending => ?_, fun hpending => ?_⟩
      · by_cases hdash : LedByDash argument
        · have hne : argument ≠ "--" := by
            rintro rfl
            rw [readLeading, hpending] at h
            simp only [isFlagLike_iff.mpr hdash, if_true, ofArgument_dashes] at h
            exact nomatch h
          obtain ⟨next, hrest, hwritten⟩ := reads_readLeading.exists_written h hpending hdash hne
          rcases hwritten with ⟨hnext, said, hsaid⟩ | ⟨hnext, switches, flag, hname, hvalue⟩
          · obtain ⟨front, more, rfl, hword, hmore⟩ := (ih hrest).1 hnext
            exact ⟨_, _, rfl, hword, .flags (.fully hsaid) hmore⟩
          · obtain ⟨value, front, more, rfl, hplain, hword, hmore⟩ := (ih hrest).2 hnext
            exact ⟨_, _, rfl, hword, .flags (.apart hname hvalue hplain) hmore⟩
        · rw [readLeading, hpending] at h
          simp only [mt isFlagLike_iff.mp hdash, if_false, Bool.false_eq_true] at h
          cases h
          exact ⟨[], [], rfl, hdash, .nil⟩
      · obtain ⟨hplain, next, hnext, hrest⟩ := reads_readLeading.exists_supplied h hpending
        obtain ⟨front, more, rfl, hword, hmore⟩ := (ih hrest).1 hnext
        exact ⟨argument, front, more, rfl, hplain, hword, hmore⟩

end

end Given

/-! ## Whole command lines -/

theorem Action.not_ledByDash_word (action : Action) : ¬ LedByDash action.word := by
  rw [← isFlagLike_iff]
  cases action <;> decide

theorem Action.ofWord?_word (action : Action) : ofWord? action.word = some action := by
  cases action <;> decide

theorem Action.word_of_ofWord? {word : String} {action : Action}
    (h : ofWord? word = some action) : action.word = word := by
  unfold ofWord? at h
  simpa using List.find?_some h

namespace Invocation

variable {standIn : Option String} {arguments : List String} {invocation : Invocation}

theorem settings?_eq_ok {leading own : Option String} {settings : Option Path}
    (h : settings? leading own standIn = .ok settings) :
    settings = ((own.or leading).or standIn).map Path.mk := by
  unfold settings? at h
  split at h
  · exact nomatch h
  · exact (Except.ok.inj h).symm

/-- A command line is read as what it says on either side of the command. -/
theorem ofArguments?_of_spells {line : Line} (hline : line.Spells arguments) :
    ofArguments? standIn arguments =
      (line.leading.map Saying.item).foldlM (Given.set none) {} >>= fun leading =>
        (line.own.map Saying.item).foldlM (Given.set (some line.action)) {} >>= fun own =>
          request? line.action own >>= fun request =>
            settings? leading.settings own.settings standIn >>= fun settings =>
              .ok { settings, verbose := leading.verbose || own.verbose, request } := by
  obtain ⟨front, behind, rfl, hfront, hbehind⟩ := hline
  rw [ofArguments?, Given.readLeading_of_says hfront rfl line.action.not_ledByDash_word, bind_assoc]
  refine congrArg _ (funext fun leading => ?_)
  have hown : Given.readAction line.action {} behind
      = (line.own.map Saying.item).foldlM (Given.set (some line.action)) {} :=
    Given.readAction_of_says hbehind rfl
  simp only [← hown, bind, Except.bind, line.action.ofWord?_word]

/-- **A command line that is accepted is taken for what it says.** -/
theorem asks_of_spells {line : Line} (hline : line.Spells arguments)
    (h : ofArguments? standIn arguments = .ok invocation) : line.Asks standIn invocation := by
  rw [ofArguments?_of_spells hline] at h
  obtain ⟨leading, hleading, h⟩ := Except.bind_eq_ok.mp h
  obtain ⟨own, hown, h⟩ := Except.bind_eq_ok.mp h
  obtain ⟨request, hrequest, h⟩ := Except.bind_eq_ok.mp h
  obtain ⟨settings, hsettings, h⟩ := Except.bind_eq_ok.mp h
  cases h
  have hleads := Given.hears_of_foldlM hleading
  have howns := Given.hears_of_foldlM hown
  have hoperand : own.operand = line.operand? := howns.operand
  constructor
  · rw [settings?_eq_ok hsettings, hleads.settings, howns.settings, Option.map_or]
    rfl
  · rw [Bool.or_eq_true, hleads.verbose, howns.verbose]
    simp [Line.Verbose]
  · cases haction : line.action with
    | build =>
        rw [haction] at hrequest
        cases hrequest
        refine ⟨own.urlSafe, own.form, by rw [hoperand], ?_, howns.form⟩
        simpa [Line.UrlSafe] using howns.urlSafe
    | explain =>
        rw [haction] at hrequest
        cases hrequest
        exact congrArg (fun operand => Request.explain (operand.map Path.mk)) hoperand
    | decode =>
        rw [haction, request?, hoperand] at hrequest
        cases htext : line.operand? with
        | none =>
            rw [htext] at hrequest
            cases hrequest
        | some text =>
            rw [htext] at hrequest
            cases hrequest
            exact ⟨text, rfl, rfl⟩
    | symbols =>
        rw [haction] at hrequest
        cases hrequest
        rfl

/-- **A command line that is accepted says something.** -/
theorem exists_spells (h : ofArguments? standIn arguments = .ok invocation) :
    ∃ line : Line, line.Spells arguments := by
  obtain ⟨⟨leading, word, rest⟩, hleading, hcommand⟩ := Except.bind_eq_ok.mp h
  obtain ⟨front, said, rfl, _, hfront⟩ := (Given.exists_says_leading hleading).1 rfl
  cases hword : Action.ofWord? word with
  | none =>
      simp only [hword] at hcommand
      split at hcommand <;> exact nomatch hcommand
  | some action =>
      simp only [hword] at hcommand
      obtain ⟨own, hown, _⟩ := Except.bind_eq_ok.mp hcommand
      obtain ⟨more, hbehind⟩ := (Given.exists_says hown).1 rfl
      exact ⟨⟨said, action, more⟩, front, rest, by rw [Action.word_of_ofWord? hword], hfront,
        hbehind⟩

end Invocation

end CompactQuery.Command
