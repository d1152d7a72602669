-- What a run does with its log. Commands answer and deliver without a look at it, so what a
-- run leaves is settled apart from its log, and the log takes the same steps at every
-- threshold. In the end it holds the lines of what it was told that pass its threshold.
import ThreeBlock.CommandLine.Run
import ThreeBlock.Proofs.Log.Steady
namespace ThreeBlock.CommandLine

open Logged (Takes IsBlind takes_pure takes_tell)

/-- A value with an event in front of it. -/
theorem isBlind_told {α : Type} (e : Event) (v : α) :
    (do Logged.tell e; return v : Logged α).IsBlind :=
  (Logged.takes_beside (some e) v).isBlind

/-! ## Answers -/

section Answers

variable (made : String) (settings : Settings)

theorem takes_generated (first : Event) (withNote : Bool) (r : Request) :
    (generated made settings first withNote r).Takes
      ⟨.ofGenerated (r.generate settings),
        if withNote then mappingNote (r.generate settings) else ""⟩
      (.tell first :: .enter (.fresh made r.mode) :: (r.run settings).events.map .tell) := by
  have hperform := Request.takes_perform settings made r
  exact (takes_tell first).bind (hperform.map fun x =>
    (⟨.ofGenerated x, if withNote then mappingNote x else ""⟩ : Answer))

theorem takes_states (text : String) :
    (Call.answer made settings (.states text)).Takes ⟨.ofRead (StateList.read text), ""⟩
      ([StateList.readEvent (StateList.read text)].map .tell) :=
  (StateList.takes_readLogged rfl).map fun x => (⟨.ofRead x, ""⟩ : Answer)

theorem takes_inline {source : Source} {text : List Char} (h : source.text = .ok text) :
    (Call.answer made settings (.inline source)).Takes
      ⟨.ofGenerated (Request.generate settings
        (.inline (some (String.ofList (Text.unifyBreaks text))))), ""⟩
      (.tell (startedInline source) :: .enter (.fresh made "inline") ::
        (Request.run settings (.inline (some (String.ofList (Text.unifyBreaks text))))).events.map
          .tell) := by
  unfold Call.answer
  dsimp only
  rw [h]
  exact takes_generated made settings (startedInline source) false _

theorem isBlind_answer (call : Call) : (call.answer made settings).IsBlind := by
  cases call with
  | fast names => exact Takes.isBlind (takes_generated made settings _ _ _)
  | advanced names pairs showMapping => exact Takes.isBlind (takes_generated made settings _ _ _)
  | inline source =>
    cases hsource : source.text with
    | ok text => exact (takes_inline made settings hsource).isBlind
    | error message =>
      unfold Call.answer
      dsimp only
      rw [hsource]
      exact isBlind_told _ _
  | states text => exact (takes_states made settings text).isBlind
  | config => exact (takes_pure _).isBlind

end Answers

/-! ## Delivery -/

section Delivery

variable {s : Surroundings} {target : Path} {text : String}

/-- What writing a result leads to. -/
abbrev writing (s : Surroundings) (target : Path) (text : String) : AtomicWrite.Result :=
  (AtomicWrite.ofText target text).result s.toConditions s.files

theorem takes_write (s : Surroundings) (target : Path) (text : String) :
    ((AtomicWrite.ofText target text).run s.toConditions s.files).Takes (writing s target text)
      [.tell ((AtomicWrite.ofText target text).event (writing s target text).failure)] :=
  (takes_tell _).bind (takes_pure _)

theorem takes_toFile_written (note : String) (h : (writing s target text).failure = none) :
    (toFile s note target text).Takes
      { exitCode := 0, stderr := note, files := (writing s target text).files }
      [.tell ((AtomicWrite.ofText target text).event (writing s target text).failure),
        .tell (writtenEvent target text)] := by
  refine (takes_write s target text).bind ?_
  rw [h]
  exact Logged.takes_beside (some (writtenEvent target text)) _

theorem takes_toFile_unwritten (note : String) {reason : String}
    (h : (writing s target text).failure = some reason) :
    (toFile s note target text).Takes
      { exitCode := unwrittenCode, files := (writing s target text).files
        stderr := note ++ errorLine (AtomicWrite.Result.message target reason) }
      [.tell ((AtomicWrite.ofText target text).event (writing s target text).failure)] := by
  rw [← List.append_nil [_]]
  refine (takes_write s target text).bind ?_
  rw [h]
  exact takes_pure _

theorem isBlind_deliver (s : Surroundings) (o : Options) (a : Answer) :
    (deliver s o a).IsBlind := by
  unfold deliver
  split
  · exact (takes_pure _).isBlind
  · next p target _ _ =>
    cases hfailure : (writing s target (p.text o.json)).failure with
    | none => exact (takes_toFile_written _ hfailure).isBlind
    | some reason => exact (takes_toFile_unwritten _ hfailure).isBlind
  · exact (takes_pure _).isBlind
  · exact (takes_pure _).isBlind
  · exact isBlind_told _ _

end Delivery

/-! ## Runs -/

theorem isBlind_fail (s : Surroundings) (message : String) : (s.fail message).IsBlind :=
  isBlind_told _ _

theorem isBlind_ended (s : Surroundings) (e : Ending) : (e.ended s).IsBlind := by
  cases e with
  | failed message => exact isBlind_fail s message
  | _ => exact (takes_pure _).isBlind

theorem isBlind_noSettings (s : Surroundings) (stop : SettingsStop) :
    (noSettings s stop).IsBlind := by
  cases stop with
  | error e => exact (takes_pure _).isBlind
  | _ => exact isBlind_fail s _

/-- The work of a call: its answer, delivered. -/
def work (s : Surroundings) (o : Options) (settings : Settings) (call : Call) : Logged Left := do
  deliver s o (← call.answer s.made settings)

theorem isBlind_work (s : Surroundings) (o : Options) (settings : Settings) (call : Call) :
    (work s o settings call).IsBlind :=
  (isBlind_answer s.made settings call).bind (isBlind_deliver s o _)

theorem value_work (s : Surroundings) (o : Options) (settings : Settings) (call : Call) :
    (work s o settings call).value =
      (deliver s o (call.answer s.made settings).value).value :=
  Logged.value_bind (isBlind_answer s.made settings call) (isBlind_deliver s o _)

/-- What a command comes to that is carried out: its work, or its end. -/
def command (s : Surroundings) (i : Invocation) (settings : Settings) : Logged Left :=
  match Call.read s.files s.stdin i.command i.arguments with
  | .error e => e.ended s
  | .ok call => work s i.options settings call

theorem isBlind_command (s : Surroundings) (i : Invocation) (settings : Settings) :
    (command s i settings).IsBlind := by
  unfold command
  split
  · exact isBlind_ended s _
  · exact isBlind_work s i.options settings _

section Run

variable {s : Surroundings} {args : List String} {i : Invocation} {settings : Settings}
  {left : Left} {steps : List LogStep}

/-- A command is carried out at the threshold of its settings. -/
theorem carryOut_run (h : (command s i settings).Takes left steps) (log : Log) :
    (carryOut s i settings).run log =
      ({ left with logging := some settings.logging },
        (log.configure (Level.ofName settings.logging.level)).follow steps) := by
  have hcarried : (carryOut s i settings).run log =
      (fun r : Left × Log => ({ r.1 with logging := some settings.logging }, r.2))
        ((command s i settings).run (log.configure (Level.ofName settings.logging.level))) := by
    unfold carryOut command
    cases Call.read s.files s.stdin i.command i.arguments <;> rfl
  rw [hcarried, h]

theorem run_of_command (hread : Invocation.read s.files args = .ok i)
    (hsettings : effectiveSettings s i.options = .ok settings)
    (h : (command s i settings).Takes left steps) :
    run s args = { left with
      logging := some settings.logging
      log := (s.log.configure (Level.ofName settings.logging.level)).follow steps } := by
  have hlogged : runLogged s args = carryOut s i settings := by
    rw [runLogged, hread]
    dsimp only
    rw [hsettings]
  rw [run, hlogged, carryOut_run h]

/-- A run takes its steps at one threshold. -/
theorem exists_log_run (s : Surroundings) (args : List String) :
    ∃ threshold steps, (run s args).log = (s.log.configure threshold).follow steps := by
  -- Before the threshold of the settings is known nothing is told, unless the run ends there.
  have hearly : ∀ x : Logged Left, runLogged s args = x → x.IsBlind →
      ∃ threshold steps, (run s args).log = (s.log.configure threshold).follow steps := by
    rintro x hx ⟨steps, htakes⟩
    refine ⟨s.threshold, steps, ?_⟩
    rw [run, hx, htakes]
    rfl
  cases hread : Invocation.read s.files args with
  | error e =>
    refine hearly (e.ended s) ?_ (isBlind_ended s e)
    rw [runLogged, hread]
  | ok i =>
    cases hsettings : effectiveSettings s i.options with
    | error stop =>
      refine hearly (noSettings s stop) ?_ (isBlind_noSettings s stop)
      rw [runLogged, hread]
      dsimp only
      rw [hsettings]
    | ok settings =>
      obtain ⟨steps, htakes⟩ := isBlind_command s i settings
      exact ⟨_, steps, congrArg Ended.log (run_of_command hread hsettings htakes)⟩

/-- The lines that a run writes are those of its events that pass its threshold. -/
theorem lines_eq_linesOf (s : Surroundings) (args : List String) :
    (run s args).log.lines =
      Log.linesOf (run s args).log.threshold (run s args).log.told := by
  obtain ⟨threshold, steps, hlog⟩ := exists_log_run s args
  rw [hlog, Log.follow_eq]
  rfl

end Run

end ThreeBlock.CommandLine
