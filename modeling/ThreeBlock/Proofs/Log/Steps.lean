-- The steps of a log. A computation takes the same steps whatever the log is, and comes
-- to the same value; so it is the log alone that decides which of the events become
-- lines. What a log tells and writes behind some steps is told by the steps, its context
-- and its threshold.
import ThreeBlock.Trace
namespace ThreeBlock

/-! ## Steps -/

/-- One step of a log. -/
inductive LogStep where
  | enter (c : Context)
  | tell (e : Event)

namespace LogStep

/-- The context behind some steps. -/
def behind (c : Context) : List LogStep → Context
  | [] => c
  | .enter c' :: steps => behind c' steps
  | .tell _ :: steps => behind c steps

/-- What some steps tell, each event with the context of its moment. -/
def toldBy (c : Context) : List LogStep → List (Context × Event)
  | [] => []
  | .enter c' :: steps => toldBy c' steps
  | .tell e :: steps => (c, e) :: toldBy c steps

theorem toldBy_append (c : Context) (steps more : List LogStep) :
    toldBy c (steps ++ more) = toldBy c steps ++ toldBy (behind c steps) more := by
  induction steps generalizing c with
  | nil => rfl
  | cons step steps ih =>
    cases step with
    | enter c' => exact ih c'
    | tell e => exact congrArg _ (ih c)

theorem toldBy_map_tell (c : Context) (es : List Event) :
    toldBy c (es.map .tell) = es.map fun e => (c, e) := by
  induction es with
  | nil => rfl
  | cons e es ih => exact congrArg _ ih

end LogStep

namespace Log

def step (log : Log) : LogStep → Log
  | .enter c => log.enter c
  | .tell e => log.tell e

def follow (log : Log) (steps : List LogStep) : Log := steps.foldl step log

theorem follow_append (log : Log) (steps more : List LogStep) :
    log.follow (steps ++ more) = (log.follow steps).follow more := List.foldl_append ..

/-- The lines at a threshold of what is told. -/
def linesOf (threshold : Level) (told : List (Context × Event)) : List Line :=
  (told.filter fun t => threshold.passes t.2.level).map fun t => t.2.written t.1

theorem linesOf_append (threshold : Level) (told more : List (Context × Event)) :
    linesOf threshold (told ++ more) = linesOf threshold told ++ linesOf threshold more := by
  rw [linesOf, List.filter_append, List.map_append, linesOf, linesOf]

theorem linesOf_singleton (threshold : Level) (c : Context) (e : Event) :
    linesOf threshold [(c, e)] = if threshold.passes e.level then [e.written c] else [] := by
  unfold linesOf
  rw [List.filter_cons]
  dsimp only
  split <;> rfl

theorem tell_eq (log : Log) (e : Event) :
    log.tell e = { log with
      told := log.told ++ [(log.context, e)]
      lines := log.lines ++ linesOf log.threshold [(log.context, e)] } := by
  unfold tell
  rw [linesOf_singleton]
  dsimp only
  split
  · rfl
  · rw [List.append_nil]

/-- The log behind some steps: nothing that was told or written before counts. -/
theorem follow_eq (log : Log) (steps : List LogStep) :
    log.follow steps = { log with
      context := LogStep.behind log.context steps
      told := log.told ++ LogStep.toldBy log.context steps
      lines := log.lines ++ linesOf log.threshold (LogStep.toldBy log.context steps) } := by
  induction steps generalizing log with
  | nil => simp [follow, LogStep.behind, LogStep.toldBy, linesOf]
  | cons st steps ih =>
    cases st with
    | enter c => exact ih (log.enter c)
    | tell e =>
      have hstep : log.follow (.tell e :: steps) = (log.tell e).follow steps := rfl
      have hlines := linesOf_append log.threshold [(log.context, e)]
        (LogStep.toldBy log.context steps)
      rw [hstep, tell_eq, ih]
      dsimp only
      rw [List.append_assoc, List.append_assoc, ← hlines]
      rfl

end Log

/-! ## Computations -/

namespace Logged

variable {α β : Type} {x : Logged α} {f : α → Logged β} {v : α} {w : β}
  {steps more : List LogStep} {es : List Event}

/-- A computation comes to a value in some steps, whatever the log. -/
def Takes (x : Logged α) (v : α) (steps : List LogStep) : Prop :=
  ∀ log, x.run log = (v, log.follow steps)

theorem takes_pure (v : α) : Takes (pure v) v [] := fun _ => rfl

theorem takes_tell (e : Event) : (tell e).Takes () [.tell e] := fun _ => rfl

theorem takes_enter (c : Context) : (enter c).Takes () [.enter c] := fun _ => rfl

theorem Takes.bind (hx : x.Takes v steps) (hf : (f v).Takes w more) :
    (x >>= f).Takes w (steps ++ more) := by
  intro log
  have hlog : (x >>= f).run log = (f v).run (log.follow steps) := by
    show (x.run log >>= fun r => (f r.1).run r.2) = _
    rw [hx]
    rfl
  rw [hlog, hf, Log.follow_append]

theorem Takes.map (hx : x.Takes v steps) (g : α → β) :
    (do return g (← x) : Logged β).Takes (g v) steps := by
  have h := hx.bind (f := fun a => (pure (g a) : Logged β)) (takes_pure (g v))
  rwa [List.append_nil] at h

/-- An event that may be missing. -/
theorem takes_forM (e : Option Event) : (e.forM tell).Takes () (e.toList.map .tell) := by
  cases e with
  | none => exact takes_pure ()
  | some e => exact takes_tell e

theorem Takes.value_eq (h : x.Takes v steps) : x.value = v := by rw [value, h]

/-- A computation that enters no context tells its events and nothing else. -/
theorem Takes.events_eq (h : x.Takes v (es.map .tell)) : x.events = es := by
  rw [events, h, Log.follow_eq, LogStep.toldBy_map_tell]
  simp [Function.comp_def]

/-! ## Computations that only tell -/

/-- A computation that comes to its value and tells its events, whatever the log. -/
def IsSteady (x : Logged α) : Prop := x.Takes x.value (x.events.map .tell)

theorem Takes.isSteady (h : x.Takes v (es.map .tell)) : x.IsSteady := by
  rw [IsSteady, h.value_eq, h.events_eq]
  exact h

/-! ## Computations that do not look at the log -/

/-- A computation that comes to its value in the same steps whatever the log. -/
def IsBlind (x : Logged α) : Prop := ∃ steps, x.Takes x.value steps

theorem Takes.isBlind (h : x.Takes v steps) : x.IsBlind := ⟨steps, h.value_eq.symm ▸ h⟩

theorem IsBlind.bind (hx : x.IsBlind) (hf : (f x.value).IsBlind) : (x >>= f).IsBlind := by
  obtain ⟨steps, hx⟩ := hx
  obtain ⟨more, hf⟩ := hf
  exact (hx.bind hf).isBlind

theorem value_bind (hx : x.IsBlind) (hf : (f x.value).IsBlind) :
    (x >>= f).value = (f x.value).value := by
  obtain ⟨steps, hx⟩ := hx
  obtain ⟨more, hf⟩ := hf
  exact (hx.bind hf).value_eq

end Logged

end ThreeBlock
