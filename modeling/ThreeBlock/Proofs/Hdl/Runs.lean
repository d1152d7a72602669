-- The text of a machine runs as the machine. In each clock cycle the machine
-- takes the first of its edges, in priority order, that leaves the current
-- state with its flag on; the circuit that the text spells ends in the same
-- state, so the two agree over every run.
import ThreeBlock.Proofs.Hdl.Machine
namespace ThreeBlock

/-! ## The machine -/

namespace TransitionSet

/-- The next state: where the first edge leads that leaves the state and has its
flag on, or the state itself when no such edge has. -/
def next (ts : TransitionSet) (state : String) (value : String → Bool) : String :=
  ((ts.fromSource state).find? fun t => value t.flag).elim state Transition.target

/-- The state after one clock cycle, for a machine that starts in `start`. -/
def step (ts : TransitionSet) (start state : String) (y : Hdl.Cycle) : String :=
  if y.running then ts.next state y.value else start

/-- The state after some clock cycles, from reset on. -/
def run (ts : TransitionSet) (start : String) (ys : List Hdl.Cycle) : String :=
  ys.foldl (ts.step start) start

end TransitionSet

namespace Hdl

/-- A machine over a list of identifiers: its edges join declared states, and an
edge with an entry has the entry of its source. -/
structure Declared (states : StateList) (ts : TransitionSet) : Prop where
  nonempty : states.names ≠ []
  named : ∀ n ∈ states.names, isIdentifier n = true
  source : ∀ t ∈ ts.edges, t.source ∈ states.names
  target : ∀ t ∈ ts.edges, t.target ∈ states.names
  entry : ∀ t ∈ ts.edges, t.entry = 0 ∨ t.entry = states.positionOf t.source

variable {states : StateList} {ts : TransitionSet}

theorem Declared.spelled (h : Declared states ts) : Spelled states ts where
  nonempty := h.nonempty
  named := h.named
  source t ht := h.named _ (h.source t ht)
  target t ht := h.named _ (h.target t ht)

theorem Declared.leaves_eq (h : Declared states ts) {t : Transition} (ht : t ∈ ts.edges) :
    t.leaves states = states.positionOf t.source := by
  unfold Transition.leaves
  split
  · rfl
  · next hne => exact (h.entry t ht).resolve_left hne

/-- The edges of an entry are those that leave its name. -/
theorem Declared.fromPosition_positionOf (h : Declared states ts) {state : String} :
    ts.fromPosition states (states.positionOf state) = ts.fromSource state := by
  apply List.filter_congr
  intro t ht
  rw [h.leaves_eq ht, decide_eq_decide, Int.natCast_inj]
  constructor
  · exact StateList.eq_of_positionOf_eq (h.source t ht)
  · intro he
    rw [he]

/-- A declared machine stays among its states. -/
theorem Declared.step_mem (h : Declared states ts) {start state : String}
    (hstart : start ∈ states.names) (hs : state ∈ states.names) (y : Cycle) :
    ts.step start state y ∈ states.names := by
  unfold TransitionSet.step
  split
  · unfold TransitionSet.next
    cases hfind : (ts.fromSource state).find? fun t => y.value t.flag with
    | none => exact hs
    | some t => exact h.target t (List.mem_filter.1 (List.mem_of_find?_eq_some hfind)).1
  · exact hstart

/-! ## A chain of tests -/

namespace Circuit

theorem afterTests_met (on : String → Bool) (next : String) (bs : List Branch) :
    afterTests on true next (bs.map fun b => ⟨true, b.flag, b.target⟩) = next := by
  induction bs with
  | nil => rfl
  | cons b bs ih => exact ih

theorem afterTests_alternatives (on : String → Bool) (next : String) (bs : List Branch) :
    afterTests on false next (bs.map fun b => ⟨true, b.flag, b.target⟩) =
      (bs.find? fun b => on b.flag).elim next Branch.target := by
  induction bs with
  | nil => rfl
  | cons b bs ih =>
    rw [List.map_cons, afterTests, if_neg (by simp), List.find?_cons]
    cases on b.flag with
    | true => exact afterTests_met on b.target bs
    | false => exact ih

/-- A chain of tests leads where its first true test says. -/
theorem afterTests_testsOf (on : String → Bool) (next : String) (bs : List Branch) :
    afterTests on false next (testsOf bs) =
      (bs.find? fun b => on b.flag).elim next Branch.target := by
  cases bs with
  | nil => rfl
  | cons b bs =>
    rw [testsOf, afterTests, if_neg (by simp), List.find?_cons]
    cases on b.flag with
    | true => exact afterTests_met on b.target bs
    | false => exact afterTests_alternatives on next bs

/-- The tests of some edges lead where the first edge leads whose flag is on. -/
theorem afterTests_edges (on : String → Bool) (next : String) (es : List Transition) :
    afterTests on false next (testsOf (es.map Branch.ofTransition)) =
      (es.find? fun t => on t.flag).elim next Transition.target := by
  have hfind : (es.map Branch.ofTransition).find? (fun b => on b.flag) =
      (es.find? fun t => on t.flag).map Branch.ofTransition := List.find?_map
  rw [afterTests_testsOf, hfind]
  cases es.find? fun t => on t.flag with
  | none => rfl
  | some t => rfl

end Circuit

/-! ## One clock cycle -/

theorem Declared.flagsIn_eq (h : Declared states ts) (start : String) {state : String}
    (hs : state ∈ states.names) (value : String → Bool) (flag : String) :
    (Circuit.ofMachine states ts start).flagsIn state value flag =
      (((ts.fromSource state).map Transition.flag).contains flag && value flag) := by
  rw [Circuit.flagsIn, Circuit.ofMachine, StateList.lookup_numbered
    (fun p => (ts.fromPosition states p).map Transition.flag) hs, h.fromPosition_positionOf]

theorem Declared.next_eq (h : Declared states ts) (start : String) {state : String}
    (hs : state ∈ states.names) (on : String → Bool) :
    (Circuit.ofMachine states ts start).next state on =
      ((ts.fromSource state).find? fun t => on t.flag).elim state Transition.target := by
  rw [Circuit.next, Circuit.ofMachine, StateList.lookup_numbered
    (fun p => testsOf ((ts.fromPosition states p).map Branch.ofTransition)) hs,
    h.fromPosition_positionOf]
  exact Circuit.afterTests_edges on state _

/-- From a declared state, the circuit and the machine take the same step. -/
theorem Declared.step_eq (h : Declared states ts) (start : String) {state : String}
    (hs : state ∈ states.names) (y : Cycle) :
    (Circuit.ofMachine states ts start).step state y = ts.step start state y := by
  have hflag : ∀ t ∈ ts.fromSource state,
      (Circuit.ofMachine states ts start).flagsIn state y.value t.flag = y.value t.flag := by
    intro t ht
    have hset := List.mem_map_of_mem (f := Transition.flag) ht
    rw [h.flagsIn_eq start hs, List.contains_iff_mem.2 hset, Bool.true_and]
  have hnext : (Circuit.ofMachine states ts start).next state
      ((Circuit.ofMachine states ts start).flagsIn state y.value) = ts.next state y.value := by
    rw [h.next_eq start hs, ← List.head?_filter, List.filter_congr hflag, List.head?_filter]
    rfl
  rw [Circuit.step, hnext]
  rfl

/-! ## Whole runs -/

/-- From a declared state on, the circuit and the machine run alike. -/
theorem Declared.foldl_eq (h : Declared states ts) {start state : String}
    (hstart : start ∈ states.names) (hs : state ∈ states.names) (ys : List Cycle) :
    ys.foldl (Circuit.ofMachine states ts start).step state =
      ys.foldl (ts.step start) state := by
  induction ys generalizing state with
  | nil => rfl
  | cons y ys ih =>
    rw [List.foldl_cons, List.foldl_cons, h.step_eq start hs y]
    exact ih (h.step_mem hstart hs y)

/-- Whatever the flavor, and with the table of states or without, a machine is
written as a text that runs as the machine from its first state on. -/
theorem the_text_runs_as_the_machine (h : Declared states ts) (flavor : Flavor)
    (withMap : Bool) :
    ∃ start code circuit, states.reset? = some start ∧
      render flavor withMap states ts = .ok code ∧ Circuit.read code = some circuit ∧
      ∀ ys, circuit.run ys = ts.run start ys := by
  obtain ⟨start, hstart⟩ := h.spelled.exists_reset
  have hmem : start ∈ states.names := List.mem_of_mem_head? hstart
  refine ⟨start, _, _, hstart, render_eq_ok hstart flavor withMap ts,
    h.spelled.read_text hstart flavor withMap, ?_⟩
  exact h.foldl_eq hmem hmem

/-- With both flags of a fork on, the text goes the way of the earlier edge. -/
theorem the_text_of_a_fork_runs_as_the_fork :
    Declared ⟨["IDLE", "RUN", "HALT"]⟩ ⟨[⟨"IDLE", "HALT", 1⟩, ⟨"IDLE", "RUN", 0⟩]⟩ ∧
      ∃ code circuit,
        render .cyclic false ⟨["IDLE", "RUN", "HALT"]⟩
          ⟨[⟨"IDLE", "HALT", 1⟩, ⟨"IDLE", "RUN", 0⟩]⟩ = .ok code ∧
        Circuit.read code = some circuit ∧
        circuit.run [⟨false, fun _ => true⟩, ⟨true, fun _ => true⟩] = "HALT" := by
  have h : Declared ⟨["IDLE", "RUN", "HALT"]⟩ ⟨[⟨"IDLE", "HALT", 1⟩, ⟨"IDLE", "RUN", 0⟩]⟩ :=
    ⟨by decide, by decide, by decide, by decide, by decide⟩
  obtain ⟨start, code, circuit, hstart, hcode, hread, hrun⟩ :=
    the_text_runs_as_the_machine h .cyclic false
  obtain rfl : "IDLE" = start := Option.some.inj hstart
  exact ⟨h, code, circuit, hcode, hread, by rw [hrun]; rfl⟩

end Hdl

end ThreeBlock
