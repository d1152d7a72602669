-- What is logged decides nothing else. A session gives the same at every level of its
-- log, and so does a run of the program: the switch for the level changes neither what
-- is answered nor where the answer goes. Only a command that shows the settings tells
-- one level from another.
import ThreeBlock.Proofs.CommandLine.Answers
import ThreeBlock.Proofs.Log.Levels
import ThreeBlock.Proofs.Rows
namespace ThreeBlock.CommandLine

/-! ## Switches -/

/-- Switches without those for the log level. -/
def unleveled (gs : List Given) : List Given := gs.filter fun g => g.switch ≠ .logLevel

/-- The log level that some switches ask for. -/
def levelOf (gs : List Given) : Option String :=
  (Arguments.value? .logLevel gs).bind (choiceOf? .logLevel)

/-- Arguments that spell some switches and operands, with a log level that is known if
there is one. -/
structure Spells (args : List String) (a : Arguments) : Prop where
  read : Arguments.read Switch.ofProgram false args = .ok a
  level : ∀ value, Arguments.value? .logLevel a.given = some value →
    (choiceOf? .logLevel value).isSome = true

theorem findSome?_filter {α β : Type} {keep : α → Bool} {word : α → Option β}
    (h : ∀ x, keep x = false → word x = none) (xs : List α) :
    (xs.filter keep).findSome? word = xs.findSome? word := by
  induction xs with
  | nil => rfl
  | cons x xs ih =>
    by_cases hkeep : keep x = true
    · rw [List.filter_cons_of_pos hkeep, List.findSome?_cons, List.findSome?_cons, ih]
    · rw [List.filter_cons_of_neg hkeep, List.findSome?_cons, h x (Bool.of_not_eq_true hkeep), ih]

theorem findSome?_congr {α β : Type} {f g : α → Option β} {xs : List α}
    (h : ∀ x ∈ xs, f x = g x) : xs.findSome? f = xs.findSome? g := by
  induction xs with
  | nil => rfl
  | cons x xs ih =>
    rw [List.findSome?_cons, List.findSome?_cons, h x List.mem_cons_self,
      ih fun y hy => h y (List.mem_cons_of_mem _ hy)]

section Unleveled

variable (gs : List Given)

theorem findSome?_unleveled {α : Type} {word : Given → Option α}
    (h : ∀ g, g.switch = .logLevel → word g = none) :
    (unleveled gs).findSome? word = gs.findSome? word :=
  findSome?_filter (fun g hg => h g (by simpa using hg)) gs

theorem last?_unleveled {α : Type} {word : Given → Option α}
    (h : ∀ g, g.switch = .logLevel → word g = none) :
    Arguments.last? word (unleveled gs) = Arguments.last? word gs := by
  rw [Arguments.last?, Arguments.last?, unleveled, ← List.filter_reverse]
  exact findSome?_unleveled gs.reverse h

theorem value?_unleveled {s : Switch} (hs : s ≠ .logLevel) :
    Arguments.value? s (unleveled gs) = Arguments.value? s gs :=
  last?_unleveled gs fun _ hg => if_neg fun heq => hs (heq.symm.trans hg)

theorem choice?_unleveled {on off : Switch} (hon : on ≠ .logLevel) (hoff : off ≠ .logLevel) :
    Arguments.choice? on off (unleveled gs) = Arguments.choice? on off gs :=
  last?_unleveled gs fun g hg => by rw [hg, if_neg hon.symm, if_neg hoff.symm]

theorem has_unleveled {s : Switch} (hs : s ≠ .logLevel) :
    Arguments.has s (unleveled gs) = Arguments.has s gs := by
  rw [Arguments.has, Arguments.has, unleveled, List.any_filter]
  congr 1
  funext g
  by_cases hg : g.switch = s
  · simp [hg, hs]
  · simp [hg]

theorem asked?_unleveled (c : Option Command) : asked? c (unleveled gs) = asked? c gs :=
  findSome?_unleveled gs fun g hg => by rw [hg]

/-- A level that is known is no bad value. -/
theorem firstBadValue?_unleveled (fs : FileSystem)
    (h : ∀ value, Arguments.value? .logLevel gs = some value →
      (choiceOf? .logLevel value).isSome = true) :
    firstBadValue? fs (unleveled gs) = firstBadValue? fs gs := by
  -- Each switch is looked up among all of them, so first no lookup may see the level,
  -- and then it may be left out of the row.
  have hgood : ∀ g : Given, g.switch = .logLevel →
      (Arguments.value? g.switch gs).bind (badValue? fs g.switch) = none := by
    intro g hg
    rw [hg]
    cases hvalue : Arguments.value? .logLevel gs with
    | none => rfl
    | some value =>
      have hsome := h value hvalue
      simp [badValue?, Option.isSome_iff_ne_none.1 hsome]
  have hother : ∀ g ∈ unleveled gs,
      (Arguments.value? g.switch (unleveled gs)).bind (badValue? fs g.switch) =
        (Arguments.value? g.switch gs).bind (badValue? fs g.switch) := by
    intro g hg
    rw [value?_unleveled gs (by simpa using (List.mem_filter.1 hg).2)]
  rw [firstBadValue?, findSome?_congr hother, findSome?_unleveled gs hgood]
  rfl

end Unleveled

/-! ## Options -/

/-- Options with another log level. -/
def Options.leveled (level : Option String) (o : Options) : Options :=
  { o with overrides := { o.overrides with level } }

theorem Options.ofGiven_unleveled (gs : List Given) :
    ofGiven gs = (ofGiven (unleveled gs)).leveled (levelOf gs) := by
  have hconfig := value?_unleveled gs (show Switch.config ≠ .logLevel by decide)
  have houtput := value?_unleveled gs (show Switch.output ≠ .logLevel by decide)
  have hformat := value?_unleveled gs (show Switch.logFormat ≠ .logLevel by decide)
  have hjson := has_unleveled gs (show Switch.json ≠ .logLevel by decide)
  unfold ofGiven leveled
  rw [hconfig, houtput, hformat, hjson, choice?_unleveled gs (by decide) (by decide),
    choice?_unleveled gs (by decide) (by decide)]
  rfl

/-- An invocation with another log level. -/
def Invocation.leveled (level : Option String) (i : Invocation) : Invocation :=
  { i with options := i.options.leveled level }

section Readings

variable {args args' : List String} {a a' : Arguments}

theorem Options.read_leveled (fs : FileSystem) (h : Spells args a) (h' : Spells args' a')
    (hgiven : unleveled a'.given = unleveled a.given) (hoperands : a'.operands = a.operands) :
    Options.read fs args' =
      (Options.read fs args).map fun p => (p.1.leveled (levelOf a'.given), p.2) := by
  have hasked : asked? none a'.given = asked? none a.given := by
    rw [← asked?_unleveled, hgiven, asked?_unleveled]
  have hbad : firstBadValue? fs a'.given = firstBadValue? fs a.given := by
    rw [← firstBadValue?_unleveled _ fs h'.level, hgiven, firstBadValue?_unleveled _ fs h.level]
  have hoptions : ofGiven a'.given = (ofGiven a.given).leveled (levelOf a'.given) := by
    rw [ofGiven_unleveled a'.given, ofGiven_unleveled a.given, hgiven]
    rfl
  unfold Options.read
  rw [h.read, h'.read]
  dsimp only
  rw [hasked, hbad, hoptions, hoperands]
  split <;> rfl

theorem Options.operands_of_read {fs : FileSystem} {o : Options} {operands : List String}
    (h : Spells args a) (hread : Options.read fs args = .ok (o, operands)) :
    operands = a.operands := by
  unfold Options.read at hread
  rw [h.read] at hread
  dsimp only at hread
  split at hread
  · cases hread
  · cases hread
  · exact (Prod.mk.inj (Except.ok.inj hread)).2.symm

/-- The level has no part in which command is named. Without one, it matters whether there
are any arguments. -/
theorem Invocation.read_leveled (fs : FileSystem) (h : Spells args a) (h' : Spells args' a')
    (hgiven : unleveled a'.given = unleveled a.given) (hoperands : a'.operands = a.operands)
    (hnamed : a.operands ≠ []) :
    Invocation.read fs args' = (Invocation.read fs args).map (leveled (levelOf a'.given)) := by
  unfold Invocation.read
  rw [Options.read_leveled fs h h' hgiven hoperands]
  cases hread : Options.read fs args with
  | error e => rfl
  | ok p =>
    obtain ⟨options, operands⟩ := p
    cases operands with
    | nil => exact absurd (Options.operands_of_read h hread).symm hnamed
    | cons name rest =>
      cases hname : Command.ofName? name with
      | some command => simp [Except.map, hname, leveled]
      | none =>
        cases hagain : Options.read fs (name :: rest) with
        | error e => simp [Except.map, hname, hagain]
        | ok q => simp [Except.map, hname, hagain]

theorem Invocation.command_of_read {fs : FileSystem} {i : Invocation} (h : Spells args a)
    (hread : Invocation.read fs args = .ok i) : a.operands.head? = some i.command.name := by
  unfold Invocation.read at hread
  split at hread
  · cases hread
  · cases hread
  · next options name rest hoptions =>
    have hoperands := Options.operands_of_read h hoptions
    split at hread
    · next command hname =>
      cases hread
      have hsame : command.name = name := by simpa using List.find?_some hname
      rw [← hoperands, List.head?_cons, hsame]
    · split at hread
      · cases hread
      · cases hread

end Readings

/-! ## Settings and calls -/

theorem effectiveSettings_leveled (s : Surroundings) (o : Options) (level : Option String) :
    (∃ e, effectiveSettings s o = .error e ∧ effectiveSettings s (o.leveled level) = .error e) ∨
      ∃ settings logging, effectiveSettings s o = .ok settings ∧
        effectiveSettings s (o.leveled level) = .ok { settings with logging } := by
  have hload : Settings.load s.means s.files s.environment (o.leveled level).config =
      Settings.load s.means s.files s.environment o.config := rfl
  unfold effectiveSettings
  rw [hload]
  cases Settings.load s.means s.files s.environment o.config with
  | error e => exact Or.inl ⟨e, rfl, rfl⟩
  | ok t => exact Or.inr ⟨_, _, rfl, rfl⟩

theorem Call.ne_config_of_read {fs : FileSystem} {stdin : Text.Bytes} {c : Command}
    {args : List String} {call : Call} (hc : c ≠ .config)
    (h : Call.read fs stdin c args = .ok call) : call ≠ .config := by
  rintro rfl
  unfold Call.read at h
  split at h
  · cases h
  · split at h
    · cases h
    · unfold Call.ofArguments closed misused at h
      split at h
      · split at h <;> cases h
      · split at h <;> cases h
      · split at h <;> cases h
      · obtain ⟨_, _, hsource⟩ := map_eq_ok_iff.1 h
        cases hsource
      · obtain ⟨_, _, hsource⟩ := bind_eq_ok_iff.1 h
        split at hsource <;> cases hsource
      · exact hc rfl
      · cases h

/-- The settings about the log have no part in an answer. -/
theorem Call.answer_logging (made : String) {call : Call} (hcall : call ≠ .config)
    (settings : Settings) (logging : LogSettings) :
    call.answer made { settings with logging } = call.answer made settings := by
  cases call with
  | fast names => rfl
  | advanced names pairs showMapping => rfl
  | inline source =>
    unfold Call.answer
    dsimp only
    cases source.text with
    | error e => rfl
    | ok text => rfl
  | states text => rfl
  | config => exact absurd rfl hcall

/-! ## Runs -/

/-- Two runs that come to the same and tell the same, however they are logged. -/
structure Ended.AgreesWith (e e' : Ended) : Prop where
  exitCode : e.exitCode = e'.exitCode
  stdout : e.stdout = e'.stdout
  stderr : e.stderr = e'.stderr
  files : e.files = e'.files
  told : e.log.told = e'.log.told
  context : e.log.context = e'.log.context

theorem Ended.AgreesWith.refl (e : Ended) : e.AgreesWith e := ⟨rfl, rfl, rfl, rfl, rfl, rfl⟩

theorem deliver_leveled (s : Surroundings) (o : Options) (level : Option String) (a : Answer) :
    deliver s (o.leveled level) a = deliver s o a := by
  unfold deliver Options.leveled
  rfl

theorem command_leveled {s : Surroundings} {i : Invocation} (hcommand : i.command ≠ .config)
    (level : Option String) (settings : Settings) (logging : LogSettings) :
    command s (i.leveled level) { settings with logging } = command s i settings := by
  unfold command Invocation.leveled
  dsimp only
  cases hread : Call.read s.files s.stdin i.command i.arguments with
  | error e => rfl
  | ok call =>
    dsimp only
    have hcall := Call.ne_config_of_read hcommand hread
    unfold work
    rw [Call.answer_logging s.made hcall settings logging]
    exact congrArg _ (funext fun a => deliver_leveled s i.options level a)

/-- Steps are told alike at two thresholds. -/
theorem told_follow_configure (log : Log) (threshold threshold' : Level) (steps : List LogStep) :
    ((log.configure threshold).follow steps).told =
        ((log.configure threshold').follow steps).told ∧
      ((log.configure threshold).follow steps).context =
        ((log.configure threshold').follow steps).context := by
  rw [Log.follow_eq, Log.follow_eq]
  exact ⟨rfl, rfl⟩

theorem agreesWith_run (s : Surroundings) {args args' : List String} {a a' : Arguments}
    (h : Spells args a) (h' : Spells args' a') (hgiven : unleveled a'.given = unleveled a.given)
    (hoperands : a'.operands = a.operands) {name : String} (hname : a.operands.head? = some name)
    (hcommand : name ≠ Command.config.name) : (run s args).AgreesWith (run s args') := by
  have hnamed : a.operands ≠ [] := by
    intro hnil
    rw [hnil] at hname
    cases hname
  have hread' := Invocation.read_leveled s.files h h' hgiven hoperands hnamed
  have hearly : runLogged s args' = runLogged s args → (run s args).AgreesWith (run s args') := by
    intro hlogged
    rw [run, run, hlogged]
    exact .refl _
  cases hread : Invocation.read s.files args with
  | error e =>
    rw [hread] at hread'
    apply hearly
    rw [runLogged, runLogged, hread, hread']
    rfl
  | ok i =>
    rw [hread] at hread'
    have hi : i.command ≠ .config := by
      intro hconfig
      rw [Invocation.command_of_read h hread, hconfig] at hname
      exact hcommand (Option.some.inj hname).symm
    rcases effectiveSettings_leveled s i.options (levelOf a'.given) with
      ⟨e, he, he'⟩ | ⟨settings, logging, hsettings, hsettings'⟩
    · apply hearly
      rw [runLogged, runLogged, hread, hread']
      dsimp only [Except.map, Invocation.leveled]
      rw [he, he']
    · -- The command is one and the same computation, with its log at two thresholds.
      obtain ⟨steps, htakes⟩ := isBlind_command s i settings
      have htakes' := htakes
      rw [← command_leveled hi (levelOf a'.given) settings logging] at htakes'
      rw [run_of_command hread hsettings htakes, run_of_command hread' hsettings' htakes']
      obtain ⟨htold, hcontext⟩ := told_follow_configure s.log
        (Level.ofName settings.logging.level) (Level.ofName logging.level) steps
      rw [command_leveled hi]
      exact ⟨rfl, rfl, rfl, rfl, htold, hcontext⟩

/-- Requests give the same at every level of the log, and what is written at a level is
what is severe enough of all that there is to tell. The program comes to the same and
tells the same for every log level that its arguments name, with any command but the one
that shows the settings. What a run writes are the lines of what it tells that pass its
threshold. -/
theorem logging_never_influences_results :
    (∀ (level : String) (c : Context) (ps : List Put),
      ((Session.opened c).run level ps).results =
          ((Session.opened c).run "debug" ps).results ∧
        ((Session.opened c).run level ps).log.lines =
          ((Session.opened c).run "debug" ps).log.lines.filter (Line.reaches level)) ∧
    (∀ (s : Surroundings) {args args' : List String} {a a' : Arguments} {name : String},
      Spells args a → Spells args' a' → unleveled a'.given = unleveled a.given →
      a'.operands = a.operands → a.operands.head? = some name → name ≠ Command.config.name →
      (run s args).AgreesWith (run s args')) ∧
    ∀ (s : Surroundings) (args : List String),
      (run s args).log.lines =
        Log.linesOf (run s args).log.threshold (run s args).log.told := by
  refine ⟨?_, ?_, lines_eq_linesOf⟩
  · intro level c ps
    refine ⟨?_, Session.lines_eq_filter level c ps⟩
    rw [Session.results_run, Session.results_run]
  · intro s args args' a a' name h h' hgiven hoperands hname hcommand
    exact agreesWith_run s h h' hgiven hoperands hname hcommand

/-- A ring is written alike with every event told and with errors alone, wherever the
switch for the level stands. -/
theorem a_ring_is_written_alike_at_two_levels :
    Spells ["--log-level", "debug", "-o", "a.sv", "fast", "A;B"]
        ⟨[⟨.logLevel, "debug"⟩, ⟨.output, "a.sv"⟩], ["fast", "A;B"]⟩ ∧
      Spells ["-o", "a.sv", "--log-level=ERROR", "fast", "A;B"]
        ⟨[⟨.output, "a.sv"⟩, ⟨.logLevel, "ERROR"⟩], ["fast", "A;B"]⟩ ∧
      (run { tags := ["12345678"] } ["--log-level", "debug", "-o", "a.sv", "fast", "A;B"]).AgreesWith
        (run { tags := ["12345678"] } ["-o", "a.sv", "--log-level=ERROR", "fast", "A;B"]) := by
  have h : Spells ["--log-level", "debug", "-o", "a.sv", "fast", "A;B"]
      ⟨[⟨.logLevel, "debug"⟩, ⟨.output, "a.sv"⟩], ["fast", "A;B"]⟩ := by
    refine ⟨by decide +kernel, ?_⟩
    intro value hvalue
    obtain rfl : "debug" = value := Option.some.inj hvalue
    decide +kernel
  have h' : Spells ["-o", "a.sv", "--log-level=ERROR", "fast", "A;B"]
      ⟨[⟨.output, "a.sv"⟩, ⟨.logLevel, "ERROR"⟩], ["fast", "A;B"]⟩ := by
    refine ⟨by decide +kernel, ?_⟩
    intro value hvalue
    obtain rfl : "ERROR" = value := Option.some.inj hvalue
    decide +kernel
  exact ⟨h, h', logging_never_influences_results.2.1 _ h h' (by decide) rfl rfl (by decide)⟩

end ThreeBlock.CommandLine
