-- What a command leaves behind. A result goes to one place: to the standard output,
-- or whole to the file named. A fault goes to no file, and its exit code tells it.
import ThreeBlock.Proofs.CommandLine.Answers
import ThreeBlock.Proofs.Files.Writable
namespace ThreeBlock.CommandLine

/-! ## What a call comes to -/

/-- The work of a command: a machine with its text, or a list of states. -/
inductive Work where
  | machine (g : Generation)
  | list (states : StateList)

/-- The text that a work is told in, in an envelope or as it is. -/
def Work.text (json : Bool) : Work → String
  | .machine g =>
    if json then
      Json.page (envelope [("status", .text "success"),
        ("flavor", .text g.definition.flavor.text), ("states", .texts g.definition.states.names),
        ("reset_state", .text (firstState g.definition.states)),
        ("transitions", .list (g.definition.transitions.edges.map ofEdge)),
        ("flags", .texts g.definition.transitions.flags), ("warnings", .texts g.warnings),
        ("code", .text g.code)])
    else g.code
  | .list states =>
    if json then
      Json.page (envelope [("status", .text "success"), ("states", .texts states.names),
        ("reset_state", .text (firstState states)), ("mapping", .text states.describe)])
    else String.intercalate "\n" states.mapping ++ "\n"

/-- The request that a call puts. A source is text whose line breaks are all alike. -/
inductive Asks : Call → Request → Prop
  | fast (names : String) : Asks (.fast names) (.fast (some names))
  | advanced (names pairs : String) (showMapping : Bool) :
      Asks (.advanced names pairs showMapping) (.advanced (some names) (some pairs))
  | inline {source : Source} {text : List Char} : source.text = .ok text →
      Asks (.inline source) (.inline (some (String.ofList (Text.unifyBreaks text))))

/-- What a call comes to: its work, or a fault. -/
inductive Gives (settings : Settings) : Call → Except Fault Work → Prop
  | machine {call : Call} {r : Request} {g : Generation} : Asks call r →
      r.generate settings = .ok g → Gives settings call (.ok (.machine g))
  | refused {call : Call} {r : Request} {f : Fault} : Asks call r →
      r.generate settings = .error (.fault f) → Gives settings call (.error f)
  | list {text : String} {states : StateList} : StateList.read text = .ok states →
      Gives settings (.states text) (.ok (.list states))
  | unlisted {text : String} {f : Fault} : StateList.read text = .error f →
      Gives settings (.states text) (.error f)

/-! ## How a run ends -/

/-- How a run ends that has a text to tell, or a fault. -/
inductive Ends (s : Surroundings) (o : Options) : Except Fault String → Left → Prop
  | shown {text : String} {e : Left} : o.output = none → e.exitCode = 0 → e.stdout = text →
      e.files = s.files → Ends s o (.ok text) e
  | written {text : String} {e : Left} {target : Path} {l : Place} : o.output = some target →
      AtomicWrite.Writable s.toConditions s.files target → e.exitCode = 0 → e.stdout = "" →
      e.files.locate target = .ok l →
      (∀ k, e.files.held? k = if k = l then some (Text.utf8Bytes text) else s.files.held? k) →
      Ends s o (.ok text) e
  | unwritten {text : String} {e : Left} {target : Path} : o.output = some target →
      ¬ AtomicWrite.Writable s.toConditions s.files target → e.exitCode = 31 → e.stdout = "" →
      (∀ k, e.files.held? k = s.files.held? k) → Ends s o (.ok text) e
  | refused {f : Fault} {e : Left} : e.exitCode = f.exitCode →
      e.stdout = (if o.json then
        Json.page (envelope [("status", .text "error"), ("error", .text f.kind),
          ("message", .text f.message)])
      else "") →
      e.files = s.files → Ends s o (.error f) e

/-! ## Answers -/

section Answers

variable (made : String) {settings : Settings} {call : Call}

theorem verdict_of_asks {r : Request} (h : Asks call r) (settings : Settings) :
    (call.answer made settings).value.verdict = .ofGenerated (r.generate settings) := by
  cases h with
  | fast names =>
    exact congrArg Answer.verdict (Logged.Takes.value_eq (takes_generated made settings _ _ _))
  | advanced names pairs showMapping =>
    exact congrArg Answer.verdict (Logged.Takes.value_eq (takes_generated made settings _ _ _))
  | inline htext =>
    exact congrArg Answer.verdict (Logged.Takes.value_eq (takes_inline made settings htext))

theorem verdict_of_states (text : String) :
    (Call.answer made settings (.states text)).value.verdict = .ofRead (StateList.read text) :=
  congrArg Answer.verdict (Logged.Takes.value_eq (takes_states made settings text))

/-- The product of a work. -/
def Work.product : Work → Product
  | .machine g => ofGeneration g
  | .list states => ofStates states

theorem Work.text_product (json : Bool) (w : Work) : w.product.text json = w.text json := by
  cases w with
  | machine g => cases json <;> rfl
  | list states => cases json <;> rfl

/-- The verdict of a work or a fault. -/
def verdictOf : Except Fault Work → Verdict
  | .ok w => .made w.product
  | .error f => .refused f

theorem verdict_of_gives {x : Except Fault Work} (h : Gives settings call x) :
    (call.answer made settings).value.verdict = verdictOf x := by
  cases h with
  | machine hasks hgenerate =>
    rw [verdict_of_asks made hasks, hgenerate]
    rfl
  | refused hasks hgenerate =>
    rw [verdict_of_asks made hasks, hgenerate]
    rfl
  | list hread =>
    rw [verdict_of_states, hread]
    rfl
  | unlisted hread =>
    rw [verdict_of_states, hread]
    rfl

end Answers

/-! ## Delivery -/

section Delivery

variable {s : Surroundings} {o : Options} {a : Answer}

theorem ends_toFile {target : Path} (houtput : o.output = some target)
    (hidle : ∀ step ∈ target.steps, Path.isIdle step = false) (note text : String) :
    Ends s o (.ok text) (toFile s note target text).value := by
  cases hattempt : (AtomicWrite.ofText target text).attempt s.toConditions s.files with
  | ok fs' =>
    have hwriting : writing s target text = ⟨fs', none⟩ := by
      rw [writing, AtomicWrite.result, hattempt]
    obtain ⟨l, bytes, hwritten⟩ := AtomicWrite.attempt_eq_ok hidle hattempt
    obtain rfl := AtomicWrite.spells_ofText hwritten.spelled
    rw [(takes_toFile_written note (congrArg _ hwriting)).value_eq, hwriting]
    refine .written houtput ?_ rfl rfl hwritten.located hwritten.held?
    exact AtomicWrite.exists_attempt_ofText_iff.1 ⟨fs', hattempt⟩
  | error failure =>
    obtain ⟨fs', reason⟩ := failure
    have hwriting : writing s target text = ⟨fs', some reason⟩ := by
      rw [writing, AtomicWrite.result, hattempt]
    rw [(takes_toFile_unwritten note (congrArg _ hwriting)).value_eq, hwriting]
    refine .unwritten houtput ?_ rfl rfl (AtomicWrite.attempt_eq_error hattempt).held?_eq
    intro hwritable
    obtain ⟨fs'', hok⟩ : ∃ fs'',
        (AtomicWrite.ofText target text).attempt s.toConditions s.files = .ok fs'' :=
      AtomicWrite.exists_attempt_ofText_iff.2 hwritable
    rw [hattempt] at hok
    cases hok

/-- A work is told and a fault is refused. -/
theorem ends_deliver {x : Except Fault Work} (hverdict : a.verdict = verdictOf x)
    (houtput : ∀ target, o.output = some target →
      ∀ step ∈ target.steps, Path.isIdle step = false) :
    Ends s o (x.map (Work.text o.json)) (deliver s o a).value := by
  unfold deliver
  rw [hverdict]
  cases x with
  | ok w =>
    cases htarget : o.output with
    | none => exact .shown htarget rfl (w.text_product o.json) rfl
    | some target =>
      dsimp only [verdictOf]
      rw [w.text_product]
      exact ends_toFile htarget (houtput target htarget) a.note _
  | error f =>
    dsimp only [verdictOf]
    by_cases hjson : o.json = true
    · rw [if_pos hjson]
      exact .refused rfl (if_pos hjson).symm rfl
    · rw [if_neg hjson]
      exact .refused rfl (if_neg hjson).symm rfl

theorem Ends.withLogging {x : Except Fault String} {e : Left} (h : Ends s o x e)
    (logging : Option LogSettings) : Ends s o x { e with logging } := by
  cases h with
  | shown houtput hcode hstdout hfiles => exact .shown houtput hcode hstdout hfiles
  | written houtput hwritable hcode hstdout hlocated hheld =>
    exact .written houtput hwritable hcode hstdout hlocated hheld
  | unwritten houtput hwritable hcode hstdout hheld =>
    exact .unwritten houtput hwritable hcode hstdout hheld
  | refused hcode hstdout hfiles => exact .refused hcode hstdout hfiles

end Delivery

/-! ## Runs -/

theorem Options.output_of_read {fs : FileSystem} {args operands : List String} {o : Options}
    (h : Options.read fs args = .ok (o, operands)) {target : Path}
    (htarget : o.output = some target) : ∃ spelled, target = Path.ofString spelled := by
  unfold Options.read at h
  split at h
  · cases h
  · split at h
    · cases h
    · cases h
    · cases h
      obtain ⟨spelled, _, rfl⟩ := Option.map_eq_some_iff.1 htarget
      exact ⟨spelled, rfl⟩

theorem Invocation.output_of_read {fs : FileSystem} {args : List String} {i : Invocation}
    (h : Invocation.read fs args = .ok i) {target : Path}
    (htarget : i.options.output = some target) : ∃ spelled, target = Path.ofString spelled := by
  unfold Invocation.read at h
  split at h
  · cases h
  · cases h
  · next options name rest hread =>
    split at h
    · cases h
      exact Options.output_of_read hread htarget
    · split at h
      · cases h
      · cases h

/-- A run carries out a call, with some options and under some settings. -/
structure Reaches (s : Surroundings) (args : List String) (o : Options) (settings : Settings)
    (call : Call) : Prop where
  read : ∃ i, Invocation.read s.files args = .ok i ∧ i.options = o ∧
    Call.read s.files s.stdin i.command i.arguments = .ok call
  settled : effectiveSettings s o = .ok settings

section Reaching

variable {s : Surroundings} {args : List String} {o : Options} {settings : Settings} {call : Call}

/-- A run that carries out a call does the work of the call. -/
theorem Reaches.run_of_takes (h : Reaches s args o settings call) {left : Left}
    {steps : List LogStep} (htakes : (work s o settings call).Takes left steps) :
    run s args = { left with
      logging := some settings.logging
      log := (s.log.configure (Level.ofName settings.logging.level)).follow steps } := by
  obtain ⟨⟨i, hread, rfl, hcall⟩, hsettings⟩ := h
  have hcommand : command s i settings = work s i.options settings call := by
    rw [command, hcall]
  exact run_of_command hread hsettings (hcommand.symm ▸ htakes)

theorem Reaches.run_eq (h : Reaches s args o settings call) :
    (run s args).toLeft =
      { (deliver s o (call.answer s.made settings).value).value with
        logging := some settings.logging } := by
  obtain ⟨steps, htakes⟩ := isBlind_work s o settings call
  rw [h.run_of_takes htakes, ← value_work]

/-- A path that was named has no idle step. -/
theorem Reaches.output (h : Reaches s args o settings call) {target : Path}
    (htarget : o.output = some target) : ∀ step ∈ target.steps, Path.isIdle step = false := by
  obtain ⟨⟨i, hread, rfl, _⟩, _⟩ := h
  obtain ⟨spelled, rfl⟩ := Invocation.output_of_read hread htarget
  exact fun _ hstep => Path.not_isIdle_of_mem_steps hstep

theorem Reaches.ends (h : Reaches s args o settings call) {x : Except Fault Work}
    (hx : Gives settings call x) :
    Ends s o (x.map (Work.text o.json)) (run s args).toLeft := by
  rw [h.run_eq]
  exact (ends_deliver (verdict_of_gives s.made hx) fun _ htarget =>
    h.output htarget).withLogging _

end Reaching

/-- Whatever a call comes to is told in one place. With no file named a text goes to
the standard output and all files stay as they are; else it goes to that file, whole
and alone, or nowhere when the file cannot be written, for reasons inside the files or
outside. A fault touches no file. -/
theorem a_result_goes_to_one_place {s : Surroundings} {args : List String} {i : Invocation}
    {settings : Settings} {call : Call} {x : Except Fault Work}
    (hargs : Invocation.read s.files args = .ok i)
    (hsettings : effectiveSettings s i.options = .ok settings)
    (hcall : Call.read s.files s.stdin i.command i.arguments = .ok call)
    (hx : Gives settings call x) :
    Ends s i.options (x.map (Work.text i.options.json)) (run s args).toLeft :=
  Reaches.ends ⟨⟨i, hargs, rfl, hcall⟩, hsettings⟩ hx

/-- A place with room for two names under which a result is staged. -/
def roomy : Surroundings := { tags := ["12345678"] }

theorem writable_roomy : AtomicWrite.Writable roomy.toConditions {} ⟨"", ["rtl", "fsm.sv"]⟩ := by
  refine ⟨⟨rfl, rfl, fun _ _ => rfl, rfl, rfl⟩, { directories := [⟨.working 0, ["rtl"]⟩] },
    ⟨.working 0, ["rtl"]⟩, ⟨.working 0, ["rtl", ".fsm.sv.12345678.tmp"]⟩, by decide +kernel, ?_⟩
  constructor <;> decide +kernel

theorem read_two_states : StateList.read "A;B" = .ok ⟨["A", "B"]⟩ := by decide +kernel

theorem read_states_to_file :
    Invocation.read {} ["-o", "rtl/fsm.sv", "states", "A;B"] =
      .ok ⟨{ output := some ⟨"", ["rtl", "fsm.sv"]⟩ }, .states, ["A;B"]⟩ := by
  decide +kernel

/-- A full disk: nothing can be closed. -/
def full : Surroundings :=
  { roomy with trouble := fun stage => if stage = .closing then some "No space left" else none }

/-- The list of two states is written to a new directory, but not to a full disk; a list of
one is refused, and then nothing is there. -/
theorem two_states_are_written_and_one_is_refused :
    (∃ l, (run roomy ["-o", "rtl/fsm.sv", "states", "A;B"]).files.held? l =
        some (Text.utf8Bytes "1: A\n2: B\n") ∧
      (run roomy ["-o", "rtl/fsm.sv", "states", "A;B"]).exitCode = 0) ∧
    (run full ["-o", "rtl/fsm.sv", "states", "A;B"]).exitCode = 31 ∧
    (run roomy ["-o", "rtl/fsm.sv", "--json", "fast", "A"]).exitCode = 10 ∧
      (run roomy ["-o", "rtl/fsm.sv", "--json", "fast", "A"]).files = {} := by
  have hargs' : Invocation.read {} ["-o", "rtl/fsm.sv", "--json", "fast", "A"] =
      .ok ⟨{ output := some ⟨"", ["rtl", "fsm.sv"]⟩, json := true }, .fast, ["A"]⟩ := by
    decide +kernel
  have hgood := a_result_goes_to_one_place (s := roomy) read_states_to_file rfl
    (by decide +kernel) (.list read_two_states)
  have hunwritten := a_result_goes_to_one_place (s := full) read_states_to_file rfl
    (by decide +kernel) (.list read_two_states)
  have hbad := a_result_goes_to_one_place (s := roomy) hargs' rfl
    (by decide +kernel) (.refused (f := .insufficientStates 1) (.fast "A") rfl)
  refine ⟨?_, ?_, ?_⟩
  · cases hgood with
    | shown houtput => cases houtput
    | @written _ _ _ l _ _ hcode _ _ hheld =>
      refine ⟨l, ?_, hcode⟩
      rw [hheld l, if_pos rfl]
      rfl
    | unwritten houtput hunwritable =>
      cases houtput
      exact absurd writable_roomy hunwritable
  · cases hunwritten with
    | shown houtput => cases houtput
    | written _ hwritable => cases hwritable.quiet.closing
    | unwritten _ _ hcode => exact hcode
  · cases hbad with
    | refused hcode _ hfiles => exact ⟨hcode, hfiles⟩

end ThreeBlock.CommandLine
