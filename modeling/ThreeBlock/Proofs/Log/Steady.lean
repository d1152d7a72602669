-- Each part of a request comes to its value and tells its events whatever the log; so does
-- the request as a whole. What it comes to is what its parts come to without a log.
import ThreeBlock.Generate
import ThreeBlock.Proofs.Log.Steps
namespace ThreeBlock

open Logged (Takes IsSteady takes_forM takes_pure takes_tell)

/-! ## Readings -/

/-- A value with an event beside it, if there is one. -/
theorem Logged.takes_beside {α : Type} (e : Option Event) (v : α) :
    (do e.forM tell; return v : Logged α).Takes v (e.toList.map .tell) := by
  have h := (takes_forM e).bind (f := fun _ => (pure v : Logged α)) (takes_pure v)
  rwa [List.append_nil] at h

theorem StateList.takes_readLogged {raw : String} {x : Except Fault StateList}
    (h : StateList.read raw = x) :
    (StateList.readLogged raw).Takes x ([StateList.readEvent x].map .tell) := by
  subst h
  exact Logged.takes_beside (some (StateList.readEvent (StateList.read raw))) _

theorem TransitionSet.takes_ringLogged (states : StateList) :
    (TransitionSet.ringLogged states).Takes (.ring states)
      ([Event.transitionsResolved .cyclic none (.ring states)].map .tell) :=
  Logged.takes_beside (some (.transitionsResolved .cyclic none (.ring states))) _

theorem TransitionSet.takes_readLogged (raw : String) (states : StateList) :
    (TransitionSet.readLogged raw states).Takes (TransitionSet.read raw states)
      ((readEvent? (TransitionSet.read raw states)).toList.map .tell) :=
  Logged.takes_beside _ _

theorem takes_readDeclarationsLogged (raw : String) :
    (readDeclarationsLogged raw).Takes (readDeclarations raw)
      ((declarationEvent? (readDeclarations raw)).toList.map .tell) :=
  Logged.takes_beside _ _

theorem Report.takes_reviewLogged {strict : Bool} {d : Definition} {x : Except Abort Report}
    (h : review strict d = x) :
    (reviewLogged strict d).Takes x
      ((x.toOption.map (event d.states.size)).toList.map .tell) := by
  subst h
  exact Logged.takes_beside _ _

theorem Hdl.takes_renderLogged {flavor : Flavor} {withMap : Bool} {states : StateList}
    {ts : TransitionSet} {x : Except Abort String} (h : render flavor withMap states ts = x) :
    (renderLogged flavor withMap states ts).Takes x
      ((x.toOption.map (rendered flavor states ts)).toList.map .tell) := by
  subst h
  exact Logged.takes_beside _ _

/-! ## Requests -/

namespace Request

section WhenRead

variable {raw : String} {f : StateList → Logged (Except Stop Definition)}

theorem takes_whenRead_error {e : Fault} (h : StateList.read raw = .error e) :
    (whenRead (StateList.readLogged raw) f).Takes (.error (.fault e))
      ([Event.stateListRejected e].map .tell) :=
  (StateList.takes_readLogged h).bind (takes_pure _)

theorem takes_whenRead {states : StateList} {x : Except Stop Definition} {es : List Event}
    (h : StateList.read raw = .ok states) (hf : (f states).Takes x (es.map .tell)) :
    (whenRead (StateList.readLogged raw) f).Takes x
      ((Event.stateListParsed states :: es).map .tell) :=
  (StateList.takes_readLogged h).bind hf

theorem isSteady_whenRead (raw : String) (hf : ∀ states, (f states).IsSteady) :
    (whenRead (StateList.readLogged raw) f).IsSteady := by
  cases h : StateList.read raw with
  | error e => exact (takes_whenRead_error h).isSteady
  | ok states => exact (takes_whenRead h (hf states)).isSteady

theorem value_whenRead (raw : String) (hf : ∀ states, (f states).IsSteady) :
    (whenRead (StateList.readLogged raw) f).value =
      ((StateList.read raw).mapError Stop.fault).bind fun states => (f states).value := by
  cases h : StateList.read raw with
  | error e => exact (takes_whenRead_error h).value_eq
  | ok states => exact (takes_whenRead h (hf states)).value_eq

end WhenRead

theorem takes_defined {α : Type} {make : α → Definition} {x : Logged (Except Stop α)}
    {v : Except Stop α} {steps : List LogStep} (h : x.Takes v steps) :
    (defined make x).Takes (v.map make) steps :=
  h.map _

/-- The ring over a state list, as a machine. -/
theorem takes_ring (states : StateList) :
    (do return .ok ⟨states, ← TransitionSet.ringLogged states, .cyclic⟩ :
      Logged (Except Stop Definition)).Takes (.ok ⟨states, .ring states, .cyclic⟩)
        ([Event.transitionsResolved .cyclic none (.ring states)].map .tell) :=
  (TransitionSet.takes_ringLogged states).map _

theorem isSteady_read (r : Request) : r.read.IsSteady := by
  cases r with
  | fast raw => exact isSteady_whenRead _ fun states => (takes_ring states).isSteady
  | advanced raw spec =>
    apply isSteady_whenRead
    intro states
    exact (takes_defined (TransitionSet.takes_readLogged _ states)).isSteady
  | inline raw => exact (takes_defined (takes_readDeclarationsLogged _)).isSteady

theorem takes_stopped_fault {α : Type} (f : Fault) :
    (stopped (.fault f) : Logged (Except Stop α)).Takes (.error (.fault f))
      ([rejected f].map .tell) :=
  Logged.takes_beside (some (rejected f)) _

theorem takes_stopped_abort {α : Type} (a : Abort) :
    (stopped (.abort a) : Logged (Except Stop α)).Takes (.error (.abort a)) (List.map .tell []) :=
  takes_pure _

theorem value_stopped {α : Type} (s : Stop) :
    (stopped s : Logged (Except Stop α)).value = .error s := by
  cases s with
  | fault f => exact (takes_stopped_fault f).value_eq
  | abort a => exact (takes_stopped_abort a).value_eq

theorem isSteady_stopped {α : Type} (s : Stop) :
    (stopped s : Logged (Except Stop α)).IsSteady := by
  cases s with
  | fault f => exact (takes_stopped_fault f).isSteady
  | abort a => exact (takes_stopped_abort a).isSteady

section Parts

variable {mode : String} {stateMap : Bool} {settings : Settings} {d : Definition} {r : Report}

theorem takes_write {code : String}
    (h : Hdl.render d.flavor stateMap d.states d.transitions = .ok code) :
    (write mode stateMap d r).Takes (.ok ⟨d, code, r.warnings⟩)
      ([Hdl.rendered d.flavor d.states d.transitions code,
        completed (.text mode) (.int d.states.size) (.int d.transitions.size)
          (.int r.warnings.length)].map .tell) :=
  (Hdl.takes_renderLogged h).bind (Logged.takes_beside (some _) _)

theorem isSteady_write (mode : String) (stateMap : Bool) (d : Definition) (r : Report) :
    (write mode stateMap d r).IsSteady := by
  cases h : Hdl.render d.flavor stateMap d.states d.transitions with
  | ok code => exact (takes_write h).isSteady
  | error a =>
    have haborted : (write mode stateMap d r).Takes (.error (.abort a))
        (([] : List Event).map .tell) :=
      (Hdl.takes_renderLogged h).bind (takes_stopped_abort a)
    exact haborted.isSteady

theorem takes_finish_error {f : Fault} {fs : List Fault}
    (h : Report.review settings.strict d = .ok r) (herror : r.errors = f :: fs) :
    (finish mode settings d).Takes (.error (.fault f))
      ([r.event d.states.size, rejected f].map .tell) := by
  refine (Report.takes_reviewLogged h).bind ?_
  dsimp only
  rw [herror]
  exact takes_stopped_fault f

theorem takes_finish {x : Except Stop Generation} {es : List Event}
    (h : Report.review settings.strict d = .ok r) (hclean : r.errors = [])
    (hwrite : (write mode settings.stateMap d r).Takes x (es.map .tell)) :
    (finish mode settings d).Takes x ((r.event d.states.size :: es).map .tell) := by
  rw [List.map_cons, ← List.singleton_append]
  refine (Report.takes_reviewLogged h).bind ?_
  dsimp only
  rw [hclean]
  exact hwrite

theorem isSteady_finish (mode : String) (settings : Settings) (d : Definition) :
    (finish mode settings d).IsSteady := by
  cases h : Report.review settings.strict d with
  | error a =>
    have haborted : (finish mode settings d).Takes (.error (.abort a))
        (([] : List Event).map .tell) :=
      (Report.takes_reviewLogged h).bind (takes_stopped_abort a)
    exact haborted.isSteady
  | ok r =>
    cases herrors : r.errors with
    | cons f fs => exact (takes_finish_error h herrors).isSteady
    | nil => exact (takes_finish h herrors (isSteady_write mode settings.stateMap d r)).isSteady

end Parts

section Run

variable (settings : Settings) {r : Request}

theorem takes_run_error {s : Stop} (h : r.read.value = .error s) :
    (r.run settings).Takes (.error s)
      ((r.started :: (r.read.events ++ (stopped s : Logged (Except Stop Generation)).events)).map
        .tell) := by
  have hread := r.isSteady_read
  rw [IsSteady, h] at hread
  have hstopped : (stopped s : Logged (Except Stop Generation)).Takes (.error s)
      ((stopped s : Logged (Except Stop Generation)).events.map .tell) := by
    have hsteady := isSteady_stopped (α := Generation) s
    rwa [IsSteady, value_stopped] at hsteady
  rw [List.map_cons, List.map_append]
  exact (takes_tell r.started).bind (hread.bind hstopped)

theorem takes_run {d : Definition} (h : r.read.value = .ok d) :
    (r.run settings).Takes (finish r.mode settings d).value
      ((r.started :: (r.read.events ++ (finish r.mode settings d).events)).map .tell) := by
  have hread := r.isSteady_read
  rw [IsSteady, h] at hread
  rw [List.map_cons, List.map_append]
  exact (takes_tell r.started).bind (hread.bind (isSteady_finish r.mode settings d))

theorem isSteady_run (r : Request) : (r.run settings).IsSteady := by
  cases h : r.read.value with
  | error s => exact (takes_run_error settings h).isSteady
  | ok d => exact (takes_run settings h).isSteady

/-- A request enters its own context and then tells its events. -/
theorem takes_perform (made : String) (r : Request) :
    (r.perform made settings).Takes (r.generate settings)
      (.enter (.fresh made r.mode) :: (r.run settings).events.map .tell) :=
  (Logged.takes_enter _).bind (isSteady_run settings r)

end Run

end Request

end ThreeBlock
