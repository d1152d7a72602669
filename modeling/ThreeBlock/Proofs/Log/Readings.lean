-- What the readings tell. A fault is told where it is read, with its kind and its
-- message; only that there are no transitions at all is left to the outcome. The faults
-- of a strict review are never told by a reading.
import ThreeBlock.Proofs.Generate
import ThreeBlock.Proofs.Reading.Faults
namespace ThreeBlock

/-! ## Faults -/

namespace Fault

/-- A fault that is told where it is read. -/
def isRefusal : Fault → Bool
  | .duplicateStates _ | .duplicateFlags _ | .noTransitions => false
  | _ => true

theorem isStrict_of_isRefusal {f : Fault} (h : f.isRefusal = true) : f.isStrict = false := by
  cases f <;> first | rfl | cases h

theorem isRefusal_of_isOfNames {f : Fault} (h : f.isOfNames = true) : f.isRefusal = true := by
  cases f <;> first | rfl | cases h

theorem isRefusal_of_isOfToken {f : Fault} (h : f.isOfToken = true) : f.isRefusal = true := by
  cases f <;> first | rfl | cases h

end Fault

theorem isRefusal_of_ofNames {names : List String} {f : Fault}
    (h : StateList.ofNames names = .error f) : f.isRefusal = true :=
  Fault.isRefusal_of_isOfNames (isOfNames_of_ofNames h)

theorem TransitionSet.isRefusal_of_read {raw : String} {states : StateList} {f : Fault}
    (h : TransitionSet.read raw states = .error (.fault f)) :
    f = .noTransitions ∨ f.isRefusal = true :=
  (fault_of_read h).imp_right Fault.isRefusal_of_isOfToken

theorem isRefusal_of_readDeclarations {raw : String} {f : Fault}
    (h : readDeclarations raw = .error (.fault f)) : f.isRefusal = true := by
  cases hnames : StateList.ofNames (declaredNames raw) with
  | error g =>
    rw [readDeclarations_of_ofNames hnames] at h
    cases h
    exact isRefusal_of_ofNames hnames
  | ok states => exact Fault.isRefusal_of_isOfToken (isOfToken_of_readDeclarations hnames h)

/-! ## Events -/

/-- The names under which a fault is told where it is read. -/
def refusalNames : List String := ["state_list_rejected", "transitions_rejected"]

/-- The names under which a reading tells that it goes well. -/
def progressNames : List String := ["state_list_parsed", "transitions_resolved"]

namespace Event

/-- An event that shows a fault. -/
structure Shows (e : Event) (f : Fault) : Prop where
  keys : (e.fields.map Prod.fst).Nodup
  kind : e.fields.lookup "error" = some (.text f.kind)
  message : e.fields.lookup "reason" = some (.text f.message)

theorem shows_stateListRejected (f : Fault) : (stateListRejected f).Shows f :=
  ⟨by simp [stateListRejected], rfl, rfl⟩

theorem shows_transitionsRejected (s : Strategy) (f : Fault) : (transitionsRejected s f).Shows f :=
  ⟨by simp [transitionsRejected], rfl, rfl⟩

theorem stateListRejected_mem (f : Fault) : (stateListRejected f).name ∈ refusalNames :=
  List.mem_cons_self

theorem transitionsRejected_mem (s : Strategy) (f : Fault) :
    (transitionsRejected s f).name ∈ refusalNames :=
  List.mem_cons_of_mem _ List.mem_cons_self

theorem stateListParsed_mem (states : StateList) : (stateListParsed states).name ∈ progressNames :=
  List.mem_cons_self

theorem transitionsResolved_mem (s : Strategy) (count : Option Nat) (ts : TransitionSet) :
    (transitionsResolved s count ts).name ∈ progressNames :=
  List.mem_cons_of_mem _ List.mem_cons_self

end Event

/-! ## Logs of readings -/

/-- The log of a reading: its progress, and behind it the fault if there is one to
tell. -/
inductive ReadLog {α : Type} (x : Except Stop α) : List Event → Prop
  | quiet {es : List Event} : (∀ e ∈ es, e.name ∈ progressNames) →
      (∀ f, x = .error (.fault f) → f = .noTransitions) → ReadLog x es
  | refused {es : List Event} {e : Event} {f : Fault} : (∀ e ∈ es, e.name ∈ progressNames) →
      x = .error (.fault f) → f.isRefusal = true → e.name ∈ refusalNames → e.Shows f →
      ReadLog x (es ++ [e])

namespace ReadLog

variable {α : Type} {x : Except Stop α} {es : List Event}

theorem alone {e : Event} {f : Fault} (hx : x = .error (.fault f)) (hfault : f.isRefusal = true)
    (hname : e.name ∈ refusalNames) (hshows : e.Shows f) : ReadLog x [e] := by
  have hnone : ∀ e ∈ ([] : List Event), e.name ∈ progressNames := by simp
  exact .refused hnone hx hfault hname hshows

theorem map {β : Type} (h : ReadLog x es) (f : α → β) : ReadLog (x.map f) es := by
  cases h with
  | quiet hes hx => exact .quiet hes fun f hf => hx f (map_eq_error_iff.1 hf)
  | refused hes hx hfault hname hshows =>
    exact .refused hes (map_eq_error_iff.2 hx) hfault hname hshows

/-- Progress in front of a log. -/
theorem cons {e : Event} (he : e.name ∈ progressNames) (h : ReadLog x es) : ReadLog x (e :: es) := by
  cases h with
  | quiet hes hx => exact .quiet (List.forall_mem_cons.2 ⟨he, hes⟩) hx
  | refused hes hx hfault hname hshows =>
    exact .refused (List.forall_mem_cons.2 ⟨he, hes⟩) hx hfault hname hshows

end ReadLog

theorem TransitionSet.readLog (raw : String) (states : StateList) :
    ReadLog (TransitionSet.read raw states)
      (readEvent? (TransitionSet.read raw states)).toList := by
  cases hread : TransitionSet.read raw states with
  | ok ts => exact .quiet (List.forall_mem_singleton.2 (Event.transitionsResolved_mem ..)) nofun
  | error s =>
    cases s with
    | abort a => exact .quiet (by simp [readEvent?]) nofun
    | fault f =>
      rcases isRefusal_of_read hread with rfl | hfault
      · exact .quiet (by simp [readEvent?]) fun f hf => (Stop.fault.inj (Except.error.inj hf)).symm
      · have hevent : readEvent? (.error (.fault f)) = some (.transitionsRejected .index f) := by
          cases f <;> first | rfl | cases hfault
        rw [hevent]
        exact .alone rfl hfault (Event.transitionsRejected_mem ..)
          (Event.shows_transitionsRejected _ f)

theorem readDeclarations_readLog (raw : String) :
    ReadLog (readDeclarations raw) (declarationEvent? (readDeclarations raw)).toList := by
  cases hread : readDeclarations raw with
  | ok r => exact .quiet (List.forall_mem_singleton.2 (Event.transitionsResolved_mem ..)) nofun
  | error s =>
    cases s with
    | abort a => exact .quiet (by simp [declarationEvent?]) nofun
    | fault f =>
      exact .alone rfl (isRefusal_of_readDeclarations hread) (Event.transitionsRejected_mem ..)
        (Event.shows_transitionsRejected _ f)

namespace Request

/-- A reading that takes its steps in this way is told as its value asks. -/
theorem readLog_of_takes {α : Type} {x : Logged (Except Stop α)} {v : Except Stop α}
    {es : List Event} (hx : x.Takes v (es.map .tell)) (h : ReadLog v es) :
    ReadLog x.value x.events := by
  rw [hx.value_eq, hx.events_eq]
  exact h

/-- The log of a state list, and of what comes of the states. -/
theorem readLog_whenRead (raw : String) {f : StateList → Logged (Except Stop Definition)}
    {v : StateList → Except Stop Definition} {es : StateList → List Event}
    (hf : ∀ states, (f states).Takes (v states) ((es states).map .tell))
    (h : ∀ states, ReadLog (v states) (es states)) :
    ReadLog (whenRead (StateList.readLogged raw) f).value
      (whenRead (StateList.readLogged raw) f).events := by
  cases hread : StateList.read raw with
  | error e =>
    exact readLog_of_takes (takes_whenRead_error hread) (.alone rfl (isRefusal_of_ofNames hread)
      (Event.stateListRejected_mem e) (Event.shows_stateListRejected e))
  | ok states =>
    exact readLog_of_takes (takes_whenRead hread (hf states))
      ((h states).cons (Event.stateListParsed_mem states))

theorem readLog (r : Request) : ReadLog r.read.value r.read.events := by
  cases r with
  | fast raw =>
    apply readLog_whenRead _ takes_ring
    intro states
    exact .quiet (List.forall_mem_singleton.2 (Event.transitionsResolved_mem ..)) nofun
  | advanced raw spec =>
    apply readLog_whenRead _ fun states =>
      takes_defined (TransitionSet.takes_readLogged (spec.getD "") states)
    intro states
    exact (TransitionSet.readLog _ states).map _
  | inline raw =>
    exact readLog_of_takes (takes_defined (takes_readDeclarationsLogged _))
      ((readDeclarations_readLog _).map _)

end Request

end ThreeBlock
